import CloudClient.Json.Decoder
import CloudClient.Json.Path
import CloudClient.Page.Basic
import CloudClient.Text.Basic
/-! Pages in JSON bodies: where a listing holds its items and where its marker. A body that says
nothing is an empty last page, and items that are missing or null are none. -/
namespace CloudClient.Page

inductive MarkerSource
  | none
  | field (path : String)
  | links (path rel param : String)
  deriving DecidableEq, Repr

def MarkerSource.nextLink (path : String) : MarkerSource := .links path "next" "marker"

structure Codec where
  itemsPath : Option String
  marker : MarkerSource
  deriving DecidableEq, Repr

namespace Codec

def bare : Codec := ⟨none, .none⟩

def withItems (path : String) : Codec := ⟨some path, .none⟩

def collection (name : String) : Codec := ⟨some name, .nextLink (name ++ "_links")⟩

def extractItems (c : Codec) (body : Json) : Outcome (List Json) :=
  let target := match c.itemsPath with
    | some path => body.lookup path
    | none => some body
  match target with
  | none | some .null => .ok []
  | some (.array items) => .ok items
  | some other => .error (.malformed (.itemsKind (c.itemsPath.getD "$") other.kind))

def findLink (links : List Json) (rel : String) : Option String :=
  match links.find? fun link => (link.get? "rel").bind Json.asString? == some rel with
  | some link => (link.get? "href").bind Json.asString?
  | none => none

def extractText (source : MarkerSource) (body : Json) : Outcome (Option String) :=
  match source with
  | .none => .ok none
  | .field path =>
    match body.lookup path with
    | none | some .null => .ok none
    | some (.string s) => .ok (some s)
    | some (.number n) => .ok (some n.text)
    | some other => .error (.malformed (.markerKind path other.kind))
  | .links path rel param =>
    match body.lookup path with
    | none | some .null => .ok none
    | some (.array links) =>
      match findLink links rel with
      | some href => (Href.queryParam href param).mapError .ofHref
      | none => .ok none
    | some other => .error (.malformed (.linksKind path other.kind))

def extractMarker (c : Codec) (body : Json) : Outcome (Option Marker) :=
  (extractText c.marker body).map fun text => (text.bind Text.nonEmpty?).map Marker.mk

def ofValue (c : Codec) (body : Json) : Outcome (Page Json) :=
  match c.extractItems body with
  | .error e => .error e
  | .ok items => (c.extractMarker body).map fun marker => ⟨items, marker⟩

def decode (c : Codec) (body : String) : Outcome (Page Json) :=
  if Text.allBlank body then .ok .empty
  else match Json.parse body with
    | none => .error (.malformed (.pageBody .notJson))
    | some value => c.ofValue value

end Codec
end CloudClient.Page
