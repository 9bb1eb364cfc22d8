import CloudClient.Page.Options
import CloudClient.Queue.Message
/-! The operations of a queue with claims and their answers, the same for every kind of queue. A
message is unclaimed until a claim takes it, which holds it for one consumer; it returns when the claim
is released or lapses, and a deletion under a claim needs the claim that holds it. -/
namespace CloudClient.Queue

structure Claim where
  id : ClaimId
  ttl : Duration
  grace : Option Duration
  age : Duration
  messages : List Message
  deriving Repr

/-- What a claim asks for. It is valid for `ttl`; its messages stay out of the reach of others for
`grace` longer. -/
structure ClaimRequest where
  ttl : Duration
  grace : Duration
  limit : Nat
  deriving DecidableEq, Repr

namespace ClaimRequest

def new (ttl grace : Duration) : ClaimRequest := ⟨ttl, grace, defaultPageLimit⟩

def hold (r : ClaimRequest) : Duration := r.ttl + r.grace

def validate (r : ClaimRequest) : Outcome Unit :=
  match checkLifetime "claim ttl" r.ttl maxClaimTtl, checkLifetime "claim grace" r.grace maxClaimTtl with
  | .error e, _ => .error e
  | _, .error e => .error e
  | .ok (), .ok () => checkLimit r.limit

def toJson (r : ClaimRequest) : Json :=
  .record [("ttl", .ofNat r.ttl.seconds), ("grace", .ofNat r.grace.seconds)]

end ClaimRequest

structure StreamOptions where
  limit : Option Nat
  marker : Option Marker
  echo : Bool
  includeClaimed : Bool
  deriving DecidableEq, Repr, Inhabited

namespace StreamOptions

def standard : StreamOptions := ⟨none, none, false, false⟩

def effectiveLimit (o : StreamOptions) : Nat := o.limit.getD defaultPageLimit

def query (o : StreamOptions) : Http.QueryPairs :=
  (o.marker.map fun m => ("marker", m.text)).toList ++
  (o.limit.map fun n => ("limit", toString n)).toList ++
  [("echo", toString o.echo), ("include_claimed", toString o.includeClaimed)]

def validate (o : StreamOptions) : Outcome Unit :=
  match o.limit with
  | some limit => checkLimit limit
  | none => .ok ()

instance : Page.Options StreamOptions where
  marker o := o.marker
  withMarker o marker := { o with marker := some marker }
  query := query
  validate := validate
  markerGiven _ _ := rfl
  withMarkerTwice _ _ _ := rfl
  withMarkerOwn _ _ own := own ▸ rfl

end StreamOptions

inductive Command
  | post (drafts : List Draft)
  | streamPage (options : StreamOptions)
  | get (id : MessageId)
  | list (ids : List MessageId)
  | delete (id : MessageId)
  | deleteMany (ids : List MessageId)
  | deleteByClaim (id : MessageId) (claim : ClaimId)
  | claim (request : ClaimRequest)
  | getClaim (id : ClaimId)
  | renew (id : ClaimId) (ttl grace : Duration)
  | release (id : ClaimId)
  deriving Repr

inductive Answer
  | posted (ids : List MessageId)
  | page (page : Page Message)
  | message (message : Option Message)
  | messages (messages : List Message)
  | claim (claim : Option Claim)
  | renewed (alive : Bool)
  | done

end CloudClient.Queue
