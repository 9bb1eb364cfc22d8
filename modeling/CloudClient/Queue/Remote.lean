import CloudClient.Page.Listing
import CloudClient.Queue.Command
/-! A queue of a remote provider. Each operation sends at most one request, except a deletion under a
claim that the provider forbids: the message is then read to find out why. Every request names the
client in a header. -/
namespace CloudClient.Queue

open CloudClient.Http

def clientIdHeader : String := "Client-ID"

def apiPrefix : String := "/v1/queues"

def maxNameLength : Nat := 64

def isNameChar (c : Char) : Bool :=
  ('a' ≤ c && c ≤ 'z') || ('A' ≤ c && c ≤ 'Z') || ('0' ≤ c && c ≤ '9') || c == '_' || c == '-'

/-- Names whose every character is one octet, so that their length counts either. -/
def isQueueName (name : String) : Bool :=
  !name.isEmpty && name.length ≤ maxNameLength && name.toList.all isNameChar

def validateName (name : String) : Outcome Unit :=
  if isQueueName name then .ok () else .error (.invalidArgument (.queueName name))

structure CreatedReading where
  resources : Option (List String)

def createdFields : List (Json.Decoder.Field CreatedReading) := [
  ⟨"resources", false, (·.resources.isSome),
    (Json.Decoder.list Json.Decoder.string).map fun l _ => ⟨some l⟩⟩]

def createdDecoder : Json.Decoder (List String) :=
  (Json.Decoder.record "CreatedWire" createdFields ⟨none⟩).map fun r => r.resources.getD []

structure ClaimReading where
  href : Option (Option String)
  ttl : Option Nat
  age : Option Nat
  messages : Option (List Message)

def claimFields : List (Json.Decoder.Field ClaimReading) := [
  ⟨"href", false, (·.href.isSome),
    (Json.Decoder.optional Json.Decoder.string).map fun s r => { r with href := some s }⟩,
  ⟨"ttl", true, (·.ttl.isSome), Json.Decoder.nat.map fun n r => { r with ttl := some n }⟩,
  ⟨"age", false, (·.age.isSome), Json.Decoder.nat.map fun n r => { r with age := some n }⟩,
  ⟨"messages", false, (·.messages.isSome),
    (Json.Decoder.list Message.decoder).map fun l r => { r with messages := some l }⟩]

def claimDecoder : Json.Decoder ClaimReading :=
  Json.Decoder.record "ClaimWire" claimFields ⟨none, none, none, none⟩

structure Remote where
  name : String
  client : ClientId
  name_ok : isQueueName name = true
  deriving DecidableEq, Repr

namespace Remote

def new (name : String) (client : ClientId) : Outcome Remote :=
  if h : isQueueName name = true then .ok ⟨name, client, h⟩
  else .error (.invalidArgument (.queueName name))

def asClient (q : Remote) (client : ClientId) : Remote := { q with client }

def codec : Page.Codec := ⟨some "messages", .nextLink "links"⟩

def path (q : Remote) (suffix : String) : String := apiPrefix ++ "/" ++ q.name ++ "/" ++ suffix

def messagePath (q : Remote) (id : MessageId) : String := q.path ("messages/" ++ id.text)

def claimPath (q : Remote) (id : ClaimId) : String := q.path ("claims/" ++ id.text)

def once {α : Type} (q : Remote) (request : Request) (read : Outcome Response → Outcome α) : Dialogue α :=
  .once (request.header clientIdHeader q.client.text) read

def joinIds (ids : List MessageId) : String := String.intercalate "," (ids.map (·.text))

def settled (reply : Outcome Response) : Outcome Unit := (Outcome.noneIfMissing reply).map fun _ => ()

def orMissing {α : Type} (absent : α) (read : Response → Outcome α) (reply : Outcome Response) : Outcome α :=
  match Outcome.noneIfMissing reply with
  | .error e => .error e
  | .ok none => .ok absent
  | .ok (some response) => read response

def readPosted (reply : Outcome Response) : Outcome (List MessageId) :=
  reply.bind fun response => (response.decode createdDecoder).bind idsOfHrefs

def post (q : Remote) (drafts : List Draft) : Dialogue (List MessageId) :=
  if drafts.isEmpty then .done (.ok [])
  else .checked (Draft.validateAll drafts)
    (q.once ((Request.post (q.path "messages")).withBody (.array (drafts.map Draft.toJson))) readPosted)

def readItem (item : Json) : Outcome Message := (Message.decoder.ofValue item).mapError .ofDecode

def readPage (reply : Outcome Response) : Outcome (Page Message) :=
  reply.bind fun response =>
    if response.isEmpty then .ok .empty
    else (codec.decode response.body).bind fun page => page.tryMap readItem

def streamPage (q : Remote) (options : StreamOptions) : Dialogue (Page Message) :=
  .checked options.validate
    (q.once ((Request.get (q.path "messages")).addQuery options.query) readPage)

def readMessage (reply : Outcome Response) : Outcome (Option Message) :=
  Outcome.noneIfMissing (reply.bind fun response => response.decode Message.decoder)

def get (q : Remote) (id : MessageId) : Dialogue (Option Message) :=
  q.once (.get (q.messagePath id)) readMessage

def messagesDecoder : Json.Decoder (List Message) := .list Message.decoder

def list (q : Remote) (ids : List MessageId) : Dialogue (List Message) :=
  if ids.isEmpty then .done (.ok [])
  else q.once ((Request.get (q.path "messages")).addQuery [("ids", joinIds ids)])
    (orMissing [] fun response =>
      if response.isEmpty then .ok [] else response.decode messagesDecoder)

def delete (q : Remote) (id : MessageId) : Dialogue Unit :=
  q.once (.delete (q.messagePath id)) settled

def deleteMany (q : Remote) (ids : List MessageId) : Dialogue Unit :=
  if ids.isEmpty then .done (.ok ())
  else q.once ((Request.delete (q.path "messages")).addQuery [("ids", joinIds ids)]) settled

def explain (id : MessageId) (claim : ClaimId) (refusal : Error) : Outcome (Option Message) → Outcome Unit
  | .error e => .error e
  | .ok none => .ok ()
  | .ok (some message) =>
    match message.claim with
    | none => .error (.notClaimed id.text)
    | some holder =>
      if holder = claim then .error refusal
      else .error (.claimMismatch id.text claim.text (some holder.text))

def deleteByClaim (q : Remote) (id : MessageId) (claim : ClaimId) : Dialogue Unit :=
  let request := (Request.delete (q.messagePath id)).addQuery [("claim_id", claim.text)]
  .ask (request.header clientIdHeader q.client.text) fun reply =>
    match reply with
    | .ok _ | .error (.notFound _) => .done (.ok ())
    | .error (.forbidden text) =>
      q.once (.get (q.messagePath id)) fun reply => explain id claim (.forbidden text) (readMessage reply)
    | .error e => .fail e

def fillClaim (location : Option ClaimId) (m : Message) : Message :=
  { m with claim := m.claim.or location }

def locationClaim (response : Response) : Outcome (Option ClaimId) :=
  match response.header? "location" with
  | none => .ok none
  | some href => match Href.lastSegment href with
    | .ok id => .ok (some ⟨id⟩)
    | .error fault => .error (.ofHref fault)

def readClaimed (reply : Outcome Response) : Outcome (List Message) :=
  reply.bind fun response =>
    if response.isEmpty then .ok []
    else (locationClaim response).bind fun location =>
      (response.decode messagesDecoder).map fun messages => messages.map (fillClaim location)

def claim (q : Remote) (request : ClaimRequest) : Dialogue (List Message) :=
  .checked request.validate
    (q.once (((Request.post (q.path "claims")).addQuery [("limit", toString request.limit)]).withBody
      request.toJson) readClaimed)

def claimOf (asked : ClaimId) (r : ClaimReading) : Outcome Claim :=
  let id := match r.href with
    | some (some href) => (Href.lastSegment href).mapError Error.ofHref |>.map ClaimId.mk
    | _ => .ok asked
  id.map fun id =>
    { id, ttl := .ofSeconds (r.ttl.getD 0), grace := none, age := .ofSeconds (r.age.getD 0),
      messages := r.messages.getD [] }

def getClaim (q : Remote) (id : ClaimId) : Dialogue (Option Claim) :=
  q.once (.get (q.claimPath id))
    (orMissing none fun response =>
      (response.decode claimDecoder).bind fun r => (claimOf id r).map some)

def renew (q : Remote) (id : ClaimId) (ttl grace : Duration) : Dialogue Bool :=
  let renewal := ClaimRequest.new ttl grace
  .checked renewal.validate
    (q.once ((Request.patch (q.claimPath id)).withBody renewal.toJson) Outcome.foundAny)

def release (q : Remote) (id : ClaimId) : Dialogue Unit :=
  q.once (.delete (q.claimPath id)) settled

def perform (q : Remote) : Command → Dialogue Answer
  | .post drafts => (q.post drafts).map .posted
  | .streamPage options => (q.streamPage options).map .page
  | .get id => (q.get id).map .message
  | .list ids => (q.list ids).map .messages
  | .delete id => (q.delete id).map fun _ => .done
  | .deleteMany ids => (q.deleteMany ids).map fun _ => .done
  | .deleteByClaim id claim => (q.deleteByClaim id claim).map fun _ => .done
  | .claim request => (q.claim request).map .messages
  | .getClaim id => (q.getClaim id).map .claim
  | .renew id ttl grace => (q.renew id ttl grace).map .renewed
  | .release id => (q.release id).map fun _ => .done

def fetcher {σ : Type} (q : Remote) (execute : Executor σ) : Page.Fetcher σ StreamOptions Message :=
  fun options s => (q.streamPage options).run execute s

end Remote
end CloudClient.Queue
