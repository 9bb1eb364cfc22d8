import CloudClient.Duration
import CloudClient.Error
import CloudClient.Json.Decoder
import CloudClient.Queue.Identity
/-! Messages of a queue, as they are posted and as they are read, with their form in JSON. -/
namespace CloudClient.Queue

def minTtl : Duration := .ofSeconds 60

def maxClaimTtl : Duration := .ofSeconds 43200

def maxMessageTtl : Duration := .ofSeconds 1209600

def maxPageLimit : Nat := 20

def defaultPageLimit : Nat := 10

def checkLifetime (what : String) (given greatest : Duration) : Outcome Unit :=
  if given < minTtl ∨ greatest < given then
    .error (.invalidArgument (.lifetime what minTtl.seconds greatest.seconds given.seconds))
  else .ok ()

def checkLimit (limit : Nat) : Outcome Unit :=
  if 1 ≤ limit ∧ limit ≤ maxPageLimit then .ok ()
  else .error (.invalidArgument (.pageLimit maxPageLimit limit))

structure Draft where
  ttl : Duration
  body : Json
  deriving Repr

namespace Draft

def validate (d : Draft) : Outcome Unit := checkLifetime "message ttl" d.ttl maxMessageTtl

def validateAll : List Draft → Outcome Unit
  | [] => .ok ()
  | d :: rest =>
    match d.validate with
    | .error e => .error e
    | .ok () => validateAll rest

def toJson (d : Draft) : Json :=
  .record [("ttl", .ofNat d.ttl.seconds), ("body", d.body)]

structure Reading where
  ttl : Option Nat
  body : Option Json

def fields : List (Json.Decoder.Field Reading) := [
  ⟨"ttl", true, (·.ttl.isSome), Json.Decoder.nat.map fun n r => { r with ttl := some n }⟩,
  ⟨"body", true, (·.body.isSome), Json.Decoder.json.map fun v r => { r with body := some v }⟩]

def decoder : Json.Decoder Draft :=
  (Json.Decoder.record "NewMessage" fields ⟨none, none⟩).map fun r =>
    ⟨.ofSeconds (r.ttl.getD 0), r.body.getD .null⟩

end Draft

structure Message where
  id : MessageId
  body : Json
  claim : Option ClaimId
  age : Duration
  ttl : Duration
  deriving Repr

namespace Message

structure Reading where
  href : Option String
  ttl : Option Nat
  age : Option Nat
  body : Option Json

def fields : List (Json.Decoder.Field Reading) := [
  ⟨"href", true, (·.href.isSome), Json.Decoder.string.map fun s r => { r with href := some s }⟩,
  ⟨"ttl", false, (·.ttl.isSome), Json.Decoder.nat.map fun n r => { r with ttl := some n }⟩,
  ⟨"age", false, (·.age.isSome), Json.Decoder.nat.map fun n r => { r with age := some n }⟩,
  ⟨"body", false, (·.body.isSome), Json.Decoder.json.map fun v r => { r with body := some v }⟩]

def ofReading (r : Reading) : Except Href.Fault Message :=
  let href := r.href.getD ""
  match Href.lastSegment href with
  | .error fault => .error fault
  | .ok id =>
    (Href.queryParam href "claim_id").map fun claim =>
      { id := ⟨id⟩, body := r.body.getD .null, claim := claim.map ClaimId.mk,
        age := .ofSeconds (r.age.getD 0), ttl := .ofSeconds (r.ttl.getD 0) }

def decoder : Json.Decoder Message :=
  (Json.Decoder.record "MessageWire" fields ⟨none, none, none, none⟩).refine fun r =>
    (ofReading r).mapError fun fault => (Error.ofHref fault).message

end Message

def idsOfHrefs : List String → Outcome (List MessageId)
  | [] => .ok []
  | href :: rest =>
    match Href.lastSegment href with
    | .error fault => .error (.ofHref fault)
    | .ok id => (idsOfHrefs rest).map (⟨id⟩ :: ·)

end CloudClient.Queue
