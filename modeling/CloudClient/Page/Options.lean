import CloudClient.Http.Message
import CloudClient.Page.Basic
/-! Options of a listing. Whatever the options are, only their marker changes from page to page. -/
namespace CloudClient.Page

open CloudClient.Http (QueryPairs)

class Options (ο : Type) where
  marker : ο → Option Marker
  withMarker : ο → Marker → ο
  query : ο → QueryPairs
  validate : ο → Outcome Unit
  markerGiven : ∀ o m, marker (withMarker o m) = some m
  withMarkerTwice : ∀ o m n, withMarker (withMarker o m) n = withMarker o n
  withMarkerOwn : ∀ o m, marker o = some m → withMarker o m = o

def Options.resumed {ο : Type} [Options ο] (options : ο) : Option Marker → ο
  | some marker => Options.withMarker options marker
  | none => options

inductive SortKey
  | id
  | name
  | status
  | createdAt
  | updatedAt
  | unknown (raw : String)
  deriving DecidableEq, Repr

namespace SortKey

def text : SortKey → String
  | id => "id"
  | name => "name"
  | status => "status"
  | createdAt => "created_at"
  | updatedAt => "updated_at"
  | unknown raw => raw

def ofString (s : String) : SortKey :=
  match s.toLower with
  | "id" => id
  | "name" => name
  | "status" => status
  | "created_at" => createdAt
  | "updated_at" => updatedAt
  | _ => unknown s

end SortKey

inductive SortDirection
  | ascending
  | descending
  | unknown (raw : String)
  deriving DecidableEq, Repr

namespace SortDirection

def text : SortDirection → String
  | ascending => "asc"
  | descending => "desc"
  | unknown raw => raw

def ofString (s : String) : SortDirection :=
  match s.toLower with
  | "asc" | "ascending" => ascending
  | "desc" | "descending" => descending
  | _ => unknown s

def isKnown : SortDirection → Bool
  | unknown _ => false
  | _ => true

end SortDirection

structure ListOptions where
  limit : Option Nat
  marker : Option Marker
  sortKey : Option SortKey
  sortDirection : Option SortDirection
  filters : QueryPairs
  deriving DecidableEq, Repr, Inhabited

namespace ListOptions

def none : ListOptions := ⟨.none, .none, .none, .none, []⟩

def pair (key : String) (value : Option String) : QueryPairs :=
  value.toList.map fun value => (key, value)

def query (o : ListOptions) : QueryPairs :=
  pair "limit" (o.limit.map toString) ++ pair "marker" (o.marker.map (·.text)) ++
  pair "sort_key" (o.sortKey.map (·.text)) ++ pair "sort_dir" (o.sortDirection.map (·.text)) ++
  o.filters

def validate (o : ListOptions) : Outcome Unit :=
  if o.limit = some 0 then .error (.invalidArgument .listLimit)
  else match o.sortDirection with
    | some (.unknown raw) => .error (.invalidArgument (.sortDirection raw))
    | _ => .ok ()

instance : Options ListOptions where
  marker o := o.marker
  withMarker o marker := { o with marker := some marker }
  query := query
  validate := validate
  markerGiven _ _ := rfl
  withMarkerTwice _ _ _ := rfl
  withMarkerOwn _ _ own := own ▸ rfl

end ListOptions
end CloudClient.Page
