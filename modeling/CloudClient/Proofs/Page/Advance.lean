import CloudClient.Page.Cursor
import Mathlib.Data.List.Chain
/-! One call of a cursor. `Advanced` says in cases what a fetched page or error makes of an active
cursor; whatever is true of a whole walk follows from these cases by induction. -/
namespace CloudClient.Page

variable {σ ο α : Type} [Options ο]

structure Fetch (ο α : Type) where
  options : ο
  outcome : Outcome (Page α)

def Fetcher.logged (fetch : Fetcher σ ο α) : Fetcher (σ × List (Fetch ο α)) ο α := fun options s =>
  let (outcome, inner) := fetch options s.1
  (outcome, inner, s.2 ++ [⟨options, outcome⟩])

namespace Cursor

inductive Advanced (c : Cursor ο) : Outcome (Page α) → Outcome (Page α) → Cursor ο → Prop
  | onward {page next} (marked : page.marker = some next) (moves : Options.marker c.options ≠ some next) :
      Advanced c (.ok page) (.ok page)
        ⟨Options.withMarker c.options next, c.phase, c.pagesFetched + 1⟩
  | last {page} (unmarked : page.marker = none) :
      Advanced c (.ok page) (.ok page) ⟨c.options, .exhausted, c.pagesFetched + 1⟩
  | repeated {page next} (marked : page.marker = some next) (stays : Options.marker c.options = some next) :
      Advanced c (.ok page) (.ok page) ⟨c.options, .exhausted, c.pagesFetched + 1⟩
  | missing {e} (absent : e.isNotFound) (first : c.pagesFetched = 0) :
      Advanced c (.error e) (.ok .empty) ⟨c.options, .exhausted, c.pagesFetched + 1⟩
  | failed {e} (other : ¬ (e.isNotFound ∧ c.pagesFetched = 0)) :
      Advanced c (.error e) (.error e) ⟨c.options, .failed, c.pagesFetched + 1⟩

theorem advanced (c : Cursor ο) (fetched : Outcome (Page α)) :
    Advanced c fetched (c.advance fetched).1 (c.advance fetched).2 := by
  cases fetched with
  | error e =>
    by_cases missing : e.isNotFound ∧ c.pagesFetched = 0
    · have taken : c.advance (.error e : Outcome (Page α)) =
          (.ok .empty, ⟨c.options, .exhausted, c.pagesFetched + 1⟩) := by
        simp [advance, missing]
      rw [taken]
      exact .missing missing.1 missing.2
    · have taken : c.advance (.error e : Outcome (Page α)) =
          (.error e, ⟨c.options, .failed, c.pagesFetched + 1⟩) := by
        simpa [advance] using missing
      rw [taken]
      exact .failed missing
  | ok page =>
    cases marked : page.marker with
    | none =>
      have taken : c.advance (.ok page) = (.ok page, ⟨c.options, .exhausted, c.pagesFetched + 1⟩) := by
        simp [advance, marked]
      rw [taken]
      exact .last marked
    | some next =>
      by_cases stays : Options.marker c.options = some next
      · have taken : c.advance (.ok page) = (.ok page, ⟨c.options, .exhausted, c.pagesFetched + 1⟩) := by
          simp [advance, marked, stays]
        rw [taken]
        exact .repeated marked stays
      · have taken : c.advance (.ok page) =
            (.ok page, ⟨Options.withMarker c.options next, c.phase, c.pagesFetched + 1⟩) := by
          simp [advance, marked, stays]
        rw [taken]
        exact .onward marked stays

omit [Options ο] in
theorem doneIff {c : Cursor ο} : c.isDone ↔ c.phase ≠ .active := by
  rw [isDone, bne_iff_ne]

variable {c : Cursor ο} {fetch : Fetcher σ ο α} {s : σ}

theorem nextDone (done : c.isDone) : c.next fetch s = (none, c, s) :=
  if_pos done

theorem nextActive (active : c.phase = .active) :
    c.next fetch s = (some (c.advance (fetch c.options s).1).1, (c.advance (fetch c.options s).1).2,
      (fetch c.options s).2) := by
  have undone : ¬ c.isDone := by simp [doneIff, active]
  exact if_neg undone

variable {options : ο} {k : Nat} {page : Page α}

theorem advanceLast (stops : page.marker = none ∨ page.marker = Options.marker options) :
    (Cursor.mk options .active k).advance (.ok page) = (.ok page, ⟨options, .exhausted, k + 1⟩) := by
  rcases stops with unmarked | same
  · simp only [advance, unmarked]
  · cases marked : page.marker with
    | none => simp only [advance, marked]
    | some next => simp only [advance, marked, ← same, if_pos]

theorem advanceMore {next : Marker} (marked : page.marker = some next)
    (moves : Options.marker options ≠ some next) :
    (Cursor.mk options .active k).advance (.ok page) =
      (.ok page, ⟨Options.withMarker options next, .active, k + 1⟩) := by
  simp only [advance, marked, if_neg moves]

theorem pagesDone (fetch : Fetcher σ ο α) (n : Nat) {c : Cursor ο} (done : c.isDone) (s : σ) :
    pages fetch n c s = ([], c, s) := by
  cases n with
  | zero => rfl
  | succ n => simp only [pages, nextDone done]

theorem collectDone (fetch : Fetcher σ ο α) (n : Nat) {c : Cursor ο} (done : c.isDone) (s : σ) :
    collect? fetch n c s = (some (.ok []), c, s) := by
  cases n with
  | zero => simp only [collect?, done, if_true]
  | succ n => simp only [collect?, nextDone done]

variable {n : Nat} {t : σ}

theorem collectLast (fetched : fetch options s = (.ok page, t))
    (stops : page.marker = none ∨ page.marker = Options.marker options) :
    collect? fetch (n + 1) ⟨options, .active, k⟩ s =
      (some (.ok page.items), ⟨options, .exhausted, k + 1⟩, t) := by
  rw [collect?, nextActive rfl, fetched, advanceLast stops]
  simp only [collectDone fetch n (show (Cursor.mk options .exhausted (k + 1)).isDone from rfl), Option.map_some,
    Except.map, List.append_nil]

theorem collectMore {next : Marker} (fetched : fetch options s = (.ok page, t))
    (marked : page.marker = some next) (moves : Options.marker options ≠ some next) :
    let later := collect? fetch n ⟨Options.withMarker options next, .active, k + 1⟩ t
    collect? fetch (n + 1) ⟨options, .active, k⟩ s =
      (later.1.map fun items => items.map (page.items ++ ·), later.2) := by
  rw [collect?, nextActive rfl, fetched, advanceMore marked moves]

theorem collectLogged (fetch : Fetcher σ ο α) (n : Nat) (c : Cursor ο) (s : σ) (log : List (Fetch ο α)) :
    (collect? fetch.logged n c (s, log)).1 = (collect? fetch n c s).1 := by
  induction n generalizing c s log with
  | zero => rfl
  | succ n ih =>
    by_cases done : c.isDone
    · rw [collectDone _ _ done, collectDone _ _ done]
    · have active : c.phase = .active := by simpa [isDone] using done
      simp only [collect?, nextActive active, Fetcher.logged]
      cases (c.advance (fetch c.options s).1).1 with
      | error e => rfl
      | ok page => simp only [ih]

end Cursor
end CloudClient.Page
