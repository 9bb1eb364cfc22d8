import CloudClient.Page.Options
/-! A cursor walks a collection page by page: each marker goes into the next request. The walk ends
with a page without a marker, a page that hands back the marker it was asked with, or an error; a
collection that is missing at the first request counts as one empty page. -/
namespace CloudClient.Page

variable {σ ο α : Type} [Options ο]

abbrev Fetcher (σ ο α : Type) := ο → σ → Outcome (Page α) × σ

inductive Phase
  | active
  | exhausted
  | failed
  deriving DecidableEq, Repr

structure Cursor (ο : Type) where
  options : ο
  phase : Phase
  pagesFetched : Nat
  deriving DecidableEq, Repr

namespace Cursor

def new (options : ο) : Cursor ο := ⟨options, .active, 0⟩

def resume (options : ο) (marker : Marker) : Cursor ο := new (Options.withMarker options marker)

def marker (c : Cursor ο) : Option Marker :=
  match c.phase with
  | .exhausted => none
  | .active | .failed => Options.marker c.options

def isDone (c : Cursor ο) : Bool := c.phase != .active

def advance (c : Cursor ο) (fetched : Outcome (Page α)) : Outcome (Page α) × Cursor ο :=
  let c := { c with pagesFetched := c.pagesFetched + 1 }
  match fetched with
  | .error e =>
    if e.isNotFound && c.pagesFetched == 1 then (.ok .empty, { c with phase := .exhausted })
    else (.error e, { c with phase := .failed })
  | .ok page =>
    match page.marker with
    | none => (.ok page, { c with phase := .exhausted })
    | some next =>
      if Options.marker c.options = some next then (.ok page, { c with phase := .exhausted })
      else (.ok page, { c with options := Options.withMarker c.options next })

def next (fetch : Fetcher σ ο α) (c : Cursor ο) (s : σ) :
    Option (Outcome (Page α)) × Cursor ο × σ :=
  if c.isDone then (none, c, s)
  else
    let (fetched, s) := fetch c.options s
    let (delivered, c) := c.advance fetched
    (some delivered, c, s)

def pages (fetch : Fetcher σ ο α) : Nat → Cursor ο → σ → List (Outcome (Page α)) × Cursor ο × σ
  | 0, c, s => ([], c, s)
  | n + 1, c, s =>
    match c.next fetch s with
    | (none, c, s) => ([], c, s)
    | (some delivered, c, s) =>
      let (rest, c, s) := pages fetch n c s
      (delivered :: rest, c, s)

/-- All further items, or the first error. The walk may need `fetches` requests; the result is none
if it needs more. -/
def collect? (fetch : Fetcher σ ο α) : Nat → Cursor ο → σ → Option (Outcome (List α)) × Cursor ο × σ
  | 0, c, s => (if c.isDone then some (.ok []) else none, c, s)
  | fetches + 1, c, s =>
    match c.next fetch s with
    | (none, c, s) => (some (.ok []), c, s)
    | (some (.error e), c, s) => (some (.error e), c, s)
    | (some (.ok page), c, s) =>
      let (rest, c, s) := collect? fetch fetches c s
      (rest.map fun items => items.map (page.items ++ ·), c, s)

def spread : Outcome (Page α) → List (Outcome α)
  | .ok page => page.items.map .ok
  | .error e => [.error e]

/-- The first `wanted` further items, with an error in its place. A page is fetched only when an item
of it is wanted, and at most `fetches` pages are. -/
def items (fetch : Fetcher σ ο α) :
    (fetches : Nat) → (wanted : Nat) → Cursor ο → σ → List (Outcome α) × Cursor ο × σ
  | 0, _, c, s => ([], c, s)
  | fetches + 1, wanted, c, s =>
    if wanted = 0 then ([], c, s)
    else match c.next fetch s with
      | (none, c, s) => ([], c, s)
      | (some delivered, c, s) =>
        let found := (spread delivered).take wanted
        let (rest, c, s) := items fetch fetches (wanted - found.length) c s
        (found ++ rest, c, s)

end Cursor
end CloudClient.Page
