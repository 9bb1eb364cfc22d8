import CloudClient.Error
/-! Pages of a collection in the order of the provider. The marker says where the next page begins; a
page without one is the last, and one with a marker may still be empty. -/
namespace CloudClient

structure Marker where
  text : String
  deriving DecidableEq, Repr, Inhabited

structure Page (α : Type) where
  items : List α
  marker : Option Marker
  deriving DecidableEq, Repr

namespace Page

variable {α β : Type}

def last (items : List α) : Page α := ⟨items, none⟩

def empty : Page α := last []

def isLast (p : Page α) : Bool := p.marker.isNone

def isEmpty (p : Page α) : Bool := p.items.isEmpty

def length (p : Page α) : Nat := p.items.length

def map (f : α → β) (p : Page α) : Page β := ⟨p.items.map f, p.marker⟩

def convert (f : α → Outcome β) : List α → Outcome (List β)
  | [] => .ok []
  | item :: rest =>
    match f item with
    | .error e => .error e
    | .ok b => (convert f rest).map (b :: ·)

def tryMap (f : α → Outcome β) (p : Page α) : Outcome (Page β) :=
  (convert f p.items).map fun items => ⟨items, p.marker⟩

def retain (keep : α → Bool) (p : Page α) : Page α := ⟨p.items.filter keep, p.marker⟩

end Page
end CloudClient
