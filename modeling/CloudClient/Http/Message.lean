import CloudClient.Duration
import CloudClient.Error
import CloudClient.Json.Decoder
import CloudClient.Text.Basic
/-! Requests to a provider, before anything about the connection is known, and successful responses.
Headers have distinct names: setting a name again replaces its value and keeps its place. Those of a
response are held in lower case and looked up in any case. -/
namespace CloudClient.Http

inductive Method
  | get
  | head
  | post
  | put
  | patch
  | delete
  deriving DecidableEq, Repr, Inhabited

namespace Method

def name : Method → String
  | get => "GET"
  | head => "HEAD"
  | post => "POST"
  | put => "PUT"
  | patch => "PATCH"
  | delete => "DELETE"

def all : List Method := [get, head, post, put, patch, delete]

def decoder : Json.Decoder Method := Json.Decoder.choice (all.map fun m => (m.name, m))

end Method

theorem lowered {name lower : String} (each : name.toList.map Char.toLower = lower.toList) : name.toLower = lower := by
  show name.map Char.toLower = lower
  rw [← String.toList_inj, String.toList_map, each]

abbrev Headers := List (String × String)

namespace Headers

def set (name value : String) : Headers → Headers
  | [] => [(name, value)]
  | (n, v) :: rest => if n = name then (n, value) :: rest else (n, v) :: set name value rest

def setAll (headers : Headers) (pairs : List (String × String)) : Headers :=
  pairs.foldl (fun headers pair => headers.set pair.1 pair.2) headers

def get? (headers : Headers) (name : String) : Option String :=
  (headers.find? (·.1 == name)).map (·.2)

theorem get?_set (headers : Headers) (name value asked : String) :
    (headers.set name value).get? asked = if name = asked then some value else headers.get? asked := by
  induction headers with
  | nil =>
    by_cases same : name = asked <;> simp [set, get?, same]
  | cons h rest ih =>
    obtain ⟨n, v⟩ := h
    unfold get? at ih ⊢
    by_cases here : n = name
    · by_cases same : name = asked <;> simp [set, here, same]
    · rw [set, if_neg here, List.find?_cons, List.find?_cons]
      by_cases found : n = asked
      · have other : name ≠ asked := fun same => here (found.trans same.symm)
        simp [found, other]
      · simp only [beq_false_of_ne found]
        exact ih

end Headers

abbrev QueryPairs := List (String × String)

structure Request where
  method : Method
  path : String
  query : QueryPairs
  headers : Headers
  body : Option Json
  timeout : Option Duration
  retries : Option Nat
  deriving Repr, Inhabited

namespace Request

def new (method : Method) (path : String) : Request := ⟨method, path, [], [], none, none, none⟩

def get (path : String) : Request := new .get path

def post (path : String) : Request := new .post path

def put (path : String) : Request := new .put path

def patch (path : String) : Request := new .patch path

def delete (path : String) : Request := new .delete path

def addQuery (r : Request) (pairs : QueryPairs) : Request := { r with query := r.query ++ pairs }

def header (r : Request) (name value : String) : Request :=
  { r with headers := r.headers.set name value }

def addHeaders (r : Request) (pairs : List (String × String)) : Request :=
  { r with headers := r.headers.setAll pairs }

def withBody (r : Request) (body : Json) : Request := { r with body := some body }

def queryValue? (r : Request) (key : String) : Option String :=
  (r.query.find? (·.1 == key)).map (·.2)

end Request

structure Response where
  status : Nat
  headers : Headers
  body : String
  deriving Repr, Inhabited

namespace Response

def new (status : Nat) (body : String) : Response := ⟨status, [], body⟩

def noContent : Response := new 204 ""

def withHeader (r : Response) (name value : String) : Response :=
  { r with headers := r.headers.set name.toLower value }

def withHeaders (r : Response) (pairs : List (String × String)) : Response :=
  pairs.foldl (fun r pair => r.withHeader pair.1 pair.2) r

def header? (r : Response) (name : String) : Option String := r.headers.get? name.toLower

def isEmpty (r : Response) : Bool := Text.allBlank r.body

def decode {α : Type} (d : Json.Decoder α) (r : Response) : Outcome α :=
  (d.decodeText r.body).mapError fun cause => .malformed (.body cause)

end Response

end CloudClient.Http
