import CloudClient.Page.Cursor
import CloudClient.Queue.Command
import CloudClient.Text.Basic
/-! A queue held in memory. Every operation takes the time in nanoseconds and the identity of the
client. Messages that have expired and claims that have lapsed are dropped only by operations that
change the queue; readers look past them. -/
namespace CloudClient.Queue

/-- A message in the store. It expires at the end of its own lifetime or of the longest hold that
a claim has had on it. -/
structure Stored where
  seq : Nat
  id : MessageId
  body : Json
  author : ClientId
  ttl : Duration
  created : Nat
  expires : Nat
  claim : Option ClaimId

def Stored.freedFrom (claim : ClaimId) (m : Stored) : Stored :=
  if m.claim = some claim then { m with claim := none } else m

def Stored.keptUntil (time : Nat) (m : Stored) : Stored := { m with expires := max m.expires time }

def Stored.takenBy (claim : ClaimId) (time : Nat) (m : Stored) : Stored :=
  { m.keptUntil time with claim := some claim }

structure Hold where
  id : ClaimId
  ttl : Duration
  grace : Duration
  created : Nat
  messages : List MessageId

def Hold.until (h : Hold) : Nat := h.created + h.ttl.nanos + h.grace.nanos

structure Store where
  nextSeq : Nat
  messages : List Stored
  index : List (MessageId × Nat)
  holds : List Hold

namespace Store

def empty : Store := ⟨0, [], [], []⟩

def seqOf? (s : Store) (id : MessageId) : Option Nat := (s.index.find? (·.1 == id)).map (·.2)

def messageAt? (s : Store) (seq : Nat) : Option Stored := s.messages.find? (·.seq == seq)

def stored? (s : Store) (id : MessageId) : Option Stored := (s.seqOf? id).bind s.messageAt?

def lookup (s : Store) (id : MessageId) (now : Nat) : Option Stored :=
  (s.stored? id).filter (now < ·.expires)

def hold? (s : Store) (id : ClaimId) : Option Hold := s.holds.find? (·.id == id)

def liveHold? (s : Store) (id : ClaimId) (now : Nat) : Option Hold :=
  (s.hold? id).filter (now < ·.until)

def holder? (s : Store) (m : Stored) (now : Nat) : Option ClaimId :=
  m.claim.filter fun id => (s.liveHold? id now).isSome

def view (s : Store) (m : Stored) (now : Nat) : Message :=
  { id := m.id, body := m.body, claim := s.holder? m now, age := ⟨now - m.created⟩, ttl := m.ttl }

def live (s : Store) (now : Nat) : List Stored := s.messages.filter (now < ·.expires)

def size (s : Store) (now : Nat) : Nat := (s.live now).length

def viewAll (s : Store) (ids : List MessageId) (now : Nat) : List Message :=
  (ids.filterMap fun id => s.lookup id now).map fun m => s.view m now

def modifyAt (s : Store) (seq : Nat) (f : Stored → Stored) : Store :=
  { s with messages := s.messages.map fun m => if m.seq = seq then f m else m }

def modify (s : Store) (id : MessageId) (f : Stored → Stored) : Store :=
  match s.seqOf? id with
  | none => s
  | some seq => s.modifyAt seq f

def remove (s : Store) (seq : Nat) : Store :=
  match s.messageAt? seq with
  | none => s
  | some m =>
    { s with
      messages := s.messages.filter (·.seq != seq)
      index := s.index.filter (·.1 != m.id)
      holds := s.holds.map fun h =>
        if m.claim = some h.id then { h with messages := h.messages.filter (· != m.id) } else h }

def erase (s : Store) (id : MessageId) : Store :=
  match s.seqOf? id with
  | none => s
  | some seq => s.remove seq

def free (s : Store) (id : ClaimId) : Store :=
  match s.hold? id with
  | none => s
  | some h =>
    h.messages.foldl (fun s message => s.modify message (Stored.freedFrom id))
      { s with holds := s.holds.filter (·.id != id) }

def purge (s : Store) (now : Nat) : Store :=
  let lapsed := (s.holds.filter (·.until ≤ now)).map (·.id)
  let s := lapsed.foldl free s
  let expired := (s.messages.filter (·.expires ≤ now)).map (·.seq)
  expired.foldl remove s

structure Fresh where
  message : Nat → MessageId
  claim : ClaimId

def append (s : Store) (author : ClientId) (now : Nat) (id : MessageId) (d : Draft) : Store :=
  { s with
    nextSeq := s.nextSeq + 1
    messages := s.messages ++
      [{ seq := s.nextSeq, id, body := d.body, author, ttl := d.ttl, created := now,
         expires := now + d.ttl.nanos, claim := none }]
    index := s.index.filter (·.1 != id) ++ [(id, s.nextSeq)] }

def post (s : Store) (author : ClientId) (now : Nat) (fresh : Nat → MessageId) (drafts : List Draft) :
    Outcome (List MessageId) × Store :=
  match Draft.validateAll drafts with
  | .error e => (.error e, s)
  | .ok () =>
    let batch := drafts.zipIdx.map fun (d, i) => (fresh i, d)
    (.ok (batch.map (·.1)), batch.foldl (fun s (id, d) => s.append author now id d) (s.purge now))

/-- The largest number of 64 bits has no next one; nothing is said of a walk that begins behind it. -/
def startOf (marker : Option Marker) : Outcome Nat :=
  match marker with
  | none => .ok 0
  | some marker =>
    match Text.nat64? marker.text with
    | some seq => .ok (seq + 1)
    | none => .error (.invalidArgument (.streamMarker marker.text))

def candidates (s : Store) (now : Nat) (options : StreamOptions) (start : Nat) : List Stored :=
  (s.live now).filter fun m =>
    start ≤ m.seq && (options.includeClaimed || (s.holder? m now).isNone)

/-- One page of the queue. The limit counts messages before the reader's own are left out. -/
def streamPage (s : Store) (reader : ClientId) (now : Nat) (options : StreamOptions) :
    Outcome (Page Message) :=
  match options.validate, startOf options.marker with
  | .error e, _ => .error e
  | _, .error e => .error e
  | .ok (), .ok start =>
    let candidates := s.candidates now options start
    let scanned := candidates.take options.effectiveLimit
    let more := options.effectiveLimit < candidates.length
    let marker := if more then scanned.getLast?.map fun m => Marker.mk (toString m.seq) else none
    let shown := scanned.filter fun m => options.echo || m.author != reader
    .ok ⟨shown.map fun m => s.view m now, marker⟩

def get (s : Store) (now : Nat) (id : MessageId) : Option Message :=
  (s.lookup id now).map fun m => s.view m now

def delete (s : Store) (now : Nat) (id : MessageId) : Store := (s.purge now).erase id

def deleteMany (s : Store) (now : Nat) (ids : List MessageId) : Store := ids.foldl erase (s.purge now)

def deleteByClaim (s : Store) (now : Nat) (id : MessageId) (claim : ClaimId) : Outcome Unit × Store :=
  let s := s.purge now
  match s.seqOf? id with
  | none => (.ok (), s)
  | some seq =>
    match (s.messageAt? seq).bind fun m => s.holder? m now with
    | none => (.error (.notClaimed id.text), s)
    | some holder =>
      if holder = claim then (.ok (), s.remove seq)
      else (.error (.claimMismatch id.text claim.text (some holder.text)), s)

def grant (s : Store) (now : Nat) (id : ClaimId) (request : ClaimRequest) (seqs : List Nat) :
    List MessageId × Store :=
  let s := seqs.foldl (fun s seq => s.modifyAt seq (Stored.takenBy id (now + request.hold.nanos))) s
  let claimed := seqs.filterMap fun seq => (s.messageAt? seq).map (·.id)
  (claimed,
    { s with
      holds := s.holds.filter (·.id != id) ++
        [{ id, ttl := request.ttl, grace := request.grace, created := now, messages := claimed }] })

def claim (s : Store) (now : Nat) (fresh : ClaimId) (request : ClaimRequest) :
    Outcome (List Message) × Store :=
  match request.validate with
  | .error e => (.error e, s)
  | .ok () =>
    let s := s.purge now
    let eligible := ((s.messages.filter (·.claim.isNone)).map (·.seq)).take request.limit
    if eligible.isEmpty then (.ok [], s)
    else
      let (claimed, s) := s.grant now fresh request eligible
      (.ok (s.viewAll claimed now), s)

def getClaim (s : Store) (now : Nat) (id : ClaimId) : Option Claim :=
  (s.liveHold? id now).map fun h =>
    { id, ttl := h.ttl, grace := some h.grace, age := ⟨now - h.created⟩,
      messages := s.viewAll h.messages now }

def extend (s : Store) (h : Hold) : Store :=
  h.messages.foldl (fun s message => s.modify message (Stored.keptUntil h.until))
    { s with holds := s.holds.map fun other => if other.id = h.id then h else other }

def renew (s : Store) (now : Nat) (id : ClaimId) (ttl grace : Duration) : Outcome Bool × Store :=
  match (ClaimRequest.new ttl grace).validate with
  | .error e => (.error e, s)
  | .ok () =>
    let s := s.purge now
    match s.hold? id with
    | none => (.ok false, s)
    | some h => (.ok true, s.extend { h with ttl, grace, created := now })

def release (s : Store) (now : Nat) (id : ClaimId) : Store := (s.purge now).free id

def perform (client : ClientId) (now : Nat) (fresh : Fresh) (s : Store) : Command → Outcome Answer × Store
  | .post drafts =>
    let (r, s) := s.post client now fresh.message drafts
    (r.map .posted, s)
  | .streamPage options => ((s.streamPage client now options).map .page, s)
  | .get id => (.ok (.message (s.get now id)), s)
  | .list ids => (.ok (.messages (s.viewAll ids now)), s)
  | .delete id => (.ok .done, s.delete now id)
  | .deleteMany ids => (.ok .done, s.deleteMany now ids)
  | .deleteByClaim id claim =>
    let (r, s) := s.deleteByClaim now id claim
    (r.map fun _ => .done, s)
  | .claim request =>
    let (r, s) := s.claim now fresh.claim request
    (r.map .messages, s)
  | .getClaim id => (.ok (.claim (s.getClaim now id)), s)
  | .renew id ttl grace =>
    let (r, s) := s.renew now id ttl grace
    (r.map .renewed, s)
  | .release id => (.ok .done, s.release now id)

def fetcher (reader : ClientId) (now : Nat) : Page.Fetcher Store StreamOptions Message :=
  fun options s => (s.streamPage reader now options, s)

end Store
end CloudClient.Queue
