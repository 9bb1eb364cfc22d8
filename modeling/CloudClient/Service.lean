import CloudClient.Page.Listing
/-! One endpoint of a service, whatever its resources are: listings, single resources and deletions, all
with the same headers. The caller chooses the type of a resource and the key that wraps it. -/
namespace CloudClient

open CloudClient.Http

structure Service where
  headers : Headers
  deriving DecidableEq, Repr

namespace Service

variable {α : Type}

def new : Service := ⟨[]⟩

def withHeader (s : Service) (name value : String) : Service := ⟨s.headers.set name value⟩

def listing (s : Service) (path : String) (codec : Page.Codec) (item : Json.Decoder α) : Page.Listing α :=
  ⟨path, codec, s.headers, item⟩

def collection (s : Service) (path name : String) (item : Json.Decoder α) : Page.Listing α :=
  s.listing path (.collection name) item

def unwrap (path : String) (envelope : Option String) (value : Json) : Outcome Json :=
  match envelope with
  | none => .ok value
  | some key =>
    match value.lookup key with
    | some inner => .ok inner
    | none => .error (.malformed (.missingEnvelope key path))

def read (path : String) (envelope : Option String) (item : Json.Decoder α) (response : Response) :
    Outcome α :=
  (response.decode Json.Decoder.json).bind fun value =>
    (unwrap path envelope value).bind fun inner => (item.ofValue inner).mapError .ofDecode

def get (s : Service) (path : String) (envelope : Option String) (fields : List String)
    (item : Json.Decoder α) : Dialogue (Option α) :=
  let request := ((Request.get path).addQuery (fields.map fun f => ("fields", f))).addHeaders s.headers
  .once request fun reply =>
    match Outcome.noneIfMissing reply with
    | .error e => .error e
    | .ok none => .ok none
    | .ok (some response) => (read path envelope item response).map some

def delete (s : Service) (path : String) : Dialogue Bool :=
  .once ((Request.delete path).addHeaders s.headers) Outcome.foundAny

end Service
end CloudClient
