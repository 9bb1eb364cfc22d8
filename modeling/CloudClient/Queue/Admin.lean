import CloudClient.Queue.Remote
/-! Administration of the queues of a provider. -/
namespace CloudClient.Queue

open CloudClient.Http

structure Info where
  name : String
  href : Option String
  deriving DecidableEq, Repr

namespace Info

structure Reading where
  name : Option String
  href : Option (Option String)

def fields : List (Json.Decoder.Field Reading) := [
  ⟨"name", true, (·.name.isSome), Json.Decoder.string.map fun s r => { r with name := some s }⟩,
  ⟨"href", false, (·.href.isSome),
    (Json.Decoder.optional Json.Decoder.string).map fun s r => { r with href := some s }⟩]

def decoder : Json.Decoder Info :=
  (Json.Decoder.record "QueueInfo" fields ⟨none, none⟩).map fun r =>
    ⟨r.name.getD "", r.href.getD none⟩

end Info

structure Admin where
  client : ClientId
  deriving DecidableEq, Repr

namespace Admin

def queuePath (name : String) : String := apiPrefix ++ "/" ++ name

def once {α : Type} (a : Admin) (request : Request) (read : Outcome Response → Outcome α) : Dialogue α :=
  .once (request.header clientIdHeader a.client.text) read

def queue (a : Admin) (name : String) : Outcome Remote := Remote.new name a.client

def create (a : Admin) (name : String) : Dialogue Bool :=
  .checked (validateName name)
    (a.once (.put (queuePath name)) fun reply => reply.map fun response => response.status == 201)

def delete (a : Admin) (name : String) : Dialogue Unit :=
  .checked (validateName name) (a.once (.delete (queuePath name)) Remote.settled)

def hasQueue (a : Admin) (name : String) : Dialogue Bool :=
  .checked (validateName name) (a.once (.new .head (queuePath name)) Outcome.foundAny)

def listing (a : Admin) : Page.Listing Info where
  path := apiPrefix
  codec := ⟨some "queues", .nextLink "links"⟩
  headers := [(clientIdHeader, a.client.text)]
  item := Info.decoder

end Admin
end CloudClient.Queue
