import CloudClient.Proofs.Page.Advance
/-! Walks that errors break off. A new cursor asks for the page of the failed request again, whether the
caller has kept the options of the whole walk, those of the last restart or those of the failed cursor:
nothing is lost and nothing comes twice. -/
namespace CloudClient.Page

variable {σ ο α : Type} [Options ο]

def Fetcher.steady (page : ο → Page α) : Fetcher Unit ο α := fun options s => (.ok (page options), s)

def Fetcher.faulty (page : ο → Page α) : Fetcher (List (Option Error)) ο α := fun options faults =>
  match faults with
  | some e :: faults => (.error e, faults)
  | none :: faults => (.ok (page options), faults)
  | [] => (.ok (page options), [])

namespace Cursor

def restarted (c : Cursor ο) (kept : ο) : Cursor ο :=
  match c.marker with
  | some marker => .resume kept marker
  | none => .new kept

/-- Walks on after every error. The caller gave `started` for the cursor, and from that and from the
failed cursor it tells the options that it gives for the next one. -/
def pursue (fetch : Fetcher σ ο α) (kept : ο → Cursor ο → ο) :
    Nat → (started : ο) → Cursor ο → σ → List (Outcome (Page α)) × Cursor ο × σ
  | 0, _, c, s => ([], c, s)
  | n + 1, started, c, s =>
    match c.next fetch s with
    | (none, c, s) => ([], c, s)
    | (some (.ok page), c, s) =>
      let (rest, c, s) := pursue fetch kept n started c s
      (.ok page :: rest, c, s)
    | (some (.error e), c, s) =>
      let (rest, c, s) := pursue fetch kept n (kept started c) (c.restarted (kept started c)) s
      (.error e :: rest, c, s)

end Cursor

inductive Kept (first started : ο) (c : Cursor ο) : ο → Prop
  | first : Kept first started c first
  | started : Kept first started c started
  | own : Kept first started c c.options

inductive Reached (first : ο) : ο → Prop
  | first : Reached first first
  | marked (marker : Marker) : Reached first (Options.withMarker first marker)

inductive Walked (page : ο → Page α) : ο → List (Page α) → Prop
  | last {options} (stops : (page options).marker = none ∨ (page options).marker = Options.marker options) :
      Walked page options [page options]
  | more {options next rest} (marked : (page options).marker = some next)
      (moves : Options.marker options ≠ some next)
      (later : Walked page (Options.withMarker options next) rest) : Walked page options (page options :: rest)

variable {page : ο → Page α} {options : ο} {walked : List (Page α)} {k : Nat}

theorem Reached.onward {first : ο} (reached : Reached first options) (marker : Marker) :
    Reached first (Options.withMarker options marker) := by
  cases reached with
  | first => exact .marked marker
  | marked before => exact Options.withMarkerTwice first before marker ▸ .marked marker

theorem Reached.along {first started : ο} (reached : Reached first started) (further : Reached started options) :
    Reached first options := by
  cases further with
  | first => exact reached
  | marked marker => exact reached.onward marker

theorem Reached.restarted {kept : ο} (reached : Reached kept options) (k : Nat) :
    (Cursor.mk options .failed k).restarted kept = .new options := by
  cases given : Options.marker options with
  | none =>
    simp only [Cursor.restarted, Cursor.marker, given]
    cases reached with
    | first => rfl
    | marked marker => simp [Options.markerGiven] at given
  | some marker =>
    simp only [Cursor.restarted, Cursor.marker, given, Cursor.resume]
    cases reached with
    | first => rw [Options.withMarkerOwn _ _ given]
    | marked before =>
      cases (Options.markerGiven kept before).symm.trans given
      rfl

theorem walkedByPages {n : Nat} (log : List (Fetch ο α)) :
    let after := Cursor.pages (Fetcher.steady page).logged n ⟨options, .active, k⟩ ((), log)
    after.2.1.isDone → ∃ walked, Walked page options walked ∧ after.1 = walked.map .ok ∧
      after.2.2.2.length = log.length + walked.length ∧ walked.length ≤ n := by
  induction n generalizing options k log with
  | zero =>
    intro after done
    contradiction
  | succ n ih =>
    by_cases stops : (page options).marker = none ∨ (page options).marker = Options.marker options
    · have whole : Cursor.pages (Fetcher.steady page).logged (n + 1) ⟨options, .active, k⟩ ((), log) =
          ([.ok (page options)], ⟨options, .exhausted, k + 1⟩, (), log ++ [⟨options, .ok (page options)⟩]) := by
        simp only [Cursor.pages, Cursor.nextActive, Fetcher.logged, Fetcher.steady, Cursor.advanceLast stops,
          Cursor.pagesDone _ n (show (Cursor.mk options .exhausted (k + 1)).isDone from rfl)]
      rw [whole]
      exact fun _ => ⟨[page options], .last stops, rfl, by simp, by simp⟩
    · obtain ⟨unfinished, other⟩ := not_or.mp stops
      obtain ⟨next, marked⟩ := Option.ne_none_iff_exists'.mp unfinished
      have moves : Options.marker options ≠ some next := fun same => other (marked.trans same.symm)
      simp only [Cursor.pages, Cursor.nextActive, Fetcher.logged, Fetcher.steady, Cursor.advanceMore marked moves]
      intro done
      obtain ⟨walked, later, shown, asked, few⟩ := ih (log ++ [⟨options, .ok (page options)⟩]) done
      refine ⟨page options :: walked, .more marked moves later, congrArg _ shown, ?_, Nat.succ_le_succ few⟩
      simpa [Nat.add_assoc, Nat.add_comm 1] using asked

structure Recovered (walked : List (Page α)) (faults : List (Option Error)) (log : List (Fetch ο α))
    (after : List (Outcome (Page α)) × Cursor ο × List (Option Error) × List (Fetch ο α)) : Prop where
  ended : after.2.1.phase = .exhausted
  shown : after.1.filter Except.isOk = walked.map .ok
  asked : after.2.2.2.length = log.length + after.1.length
  spent : after.1.length = walked.length + (faults.take after.1.length).countP Option.isSome

section Counting
omit [Options ο]

variable {faults : List (Option Error)} {log : List (Fetch ο α)} {f : Fetch ο α}
  {after : List (Outcome (Page α)) × Cursor ο × List (Option Error) × List (Fetch ο α)}

theorem faultyCases (page : ο → Page α) (faults : List (Option Error)) :
    (∃ e rest, faults = some e :: rest) ∨
      ((∀ options, Fetcher.faulty page options faults = (.ok (page options), faults.tail)) ∧
        ∀ n, (faults.take (n + 1)).countP Option.isSome = (faults.tail.take n).countP Option.isSome) := by
  match faults with
  | some e :: rest => exact .inl ⟨e, rest, rfl⟩
  | none :: rest => exact .inr ⟨fun _ => rfl, fun n => List.countP_cons_of_neg (by simp)⟩
  | [] => exact .inr ⟨fun _ => rfl, fun n => by simp⟩

theorem Recovered.afterError {e : Error} (recovered : Recovered walked faults (log ++ [f]) after) :
    Recovered walked (some e :: faults) log (.error e :: after.1, after.2) where
  ended := recovered.ended
  shown := recovered.shown
  asked := by
    have asked := recovered.asked
    simp only [List.length_append, List.length_cons, List.length_nil] at asked ⊢
    omega
  spent := by
    have spent := recovered.spent
    simp only [List.length_cons, List.take_succ_cons, List.countP_cons_of_pos, Option.isSome_some]
    omega

theorem Recovered.afterPage {p : Page α}
    (same : ∀ n, (faults.take (n + 1)).countP Option.isSome = (faults.tail.take n).countP Option.isSome)
    (recovered : Recovered walked faults.tail (log ++ [f]) after) :
    Recovered (p :: walked) faults log (.ok p :: after.1, after.2) where
  ended := recovered.ended
  shown := congrArg (Except.ok p :: ·) recovered.shown
  asked := by
    have asked := recovered.asked
    simp only [List.length_append, List.length_cons, List.length_nil] at asked ⊢
    omega
  spent := by
    have spent := recovered.spent
    simp only [List.length_cons, same]
    omega

theorem recoveredAtEnd {p : Page α} {c : Cursor ο} (ended : c.phase = .exhausted)
    (same : ∀ n, (faults.take (n + 1)).countP Option.isSome = (faults.tail.take n).countP Option.isSome) :
    Recovered [p] faults log ([.ok p], c, faults.tail, log ++ [f]) where
  ended
  shown := rfl
  asked := by simp
  spent := by simp [same]

end Counting

theorem Walked.nonempty (later : Walked page options walked) : 0 < walked.length := by
  cases later <;> exact Nat.succ_pos _

variable {kept : ο → Cursor ο → ο} {first started : ο}

theorem pursueDone (fetch : Fetcher σ ο α) (n : Nat) {c : Cursor ο} (done : c.isDone) (s : σ) :
    Cursor.pursue fetch kept n started c s = ([], c, s) := by
  cases n with
  | zero => rfl
  | succ n => simp only [Cursor.pursue, Cursor.nextDone done]

theorem pursuedWalked (keeps : ∀ started c, Kept first started c (kept started c))
    (begun : Reached first started) (here : Reached started options) (later : Walked page options walked)
    {faults : List (Option Error)} (other : ∀ e, some e ∈ faults → ¬ e.isNotFound) {fuel : Nat}
    (enough : walked.length + faults.length ≤ fuel) (k : Nat) (log : List (Fetch ο α)) :
    Recovered walked faults log
      (Cursor.pursue (Fetcher.faulty page).logged kept fuel started ⟨options, .active, k⟩ (faults, log)) := by
  induction fuel generalizing started options walked faults k log with
  | zero => exact absurd (Nat.le_trans (Nat.le_add_right _ _) enough) (Nat.not_le.mpr later.nonempty)
  | succ fuel ih =>
    rcases faultyCases page faults with ⟨e, rest, rfl⟩ | ⟨found, same⟩
    -- the same pages are still to come, with one fault less
    · have present : ¬ e.isNotFound := other e List.mem_cons_self
      have fails : (Cursor.mk options .active k).advance (.error e : Outcome (Page α)) =
          (.error e, ⟨options, .failed, k + 1⟩) := by
        simp [Cursor.advance, present]
      have fewer : walked.length + rest.length ≤ fuel := Nat.le_of_succ_le_succ enough
      simp only [Cursor.pursue, Cursor.nextActive, Fetcher.logged, Fetcher.faulty, fails]
      have kind := keeps started ⟨options, .failed, k + 1⟩
      generalize kept started ⟨options, .failed, k + 1⟩ = again at kind
      obtain ⟨before, after⟩ : Reached first again ∧ Reached again options := by
        cases kind with
        | first => exact ⟨.first, begun.along here⟩
        | started => exact ⟨begun, here⟩
        | own => exact ⟨begun.along here, .first⟩
      rw [after.restarted]
      exact (ih before after later (fun e member => other e (List.mem_cons_of_mem _ member)) fewer 0 _).afterError
    · have fewer : faults.tail.length ≤ faults.length := by simp
      cases later with
      | last stops =>
        have ended : (Cursor.mk options .exhausted (k + 1)).isDone := rfl
        simp only [Cursor.pursue, Cursor.nextActive, Fetcher.logged, found, Cursor.advanceLast stops,
          pursueDone _ _ ended]
        exact recoveredAtEnd rfl same
      | more marked moves later =>
        simp only [Cursor.pursue, Cursor.nextActive, Fetcher.logged, found, Cursor.advanceMore marked moves]
        refine (ih begun (here.onward _) later (fun e member => other e (List.mem_of_mem_tail member)) ?_
          (k + 1) _).afterPage same
        simp only [List.length_cons] at enough
        omega

theorem resumedWithoutLoss (page : ο → Page α) (options : ο) {n : Nat}
    (ends : (Cursor.pages (Fetcher.steady page).logged n (.new options) ((), [])).2.1.isDone)
    {faults : List (Option Error)} (other : ∀ e, some e ∈ faults → ¬ e.isNotFound)
    {kept : ο → Cursor ο → ο} (keeps : ∀ started c, Kept options started c (kept started c)) {fuel : Nat}
    (enough : n + faults.length ≤ fuel) :
    let (walked, _, _, plain) := Cursor.pages (Fetcher.steady page).logged n (.new options) ((), [])
    let (attempts, last, _, log) :=
      Cursor.pursue (Fetcher.faulty page).logged kept fuel options (.new options) (faults, [])
    last.phase = .exhausted ∧ attempts.filter Except.isOk = walked ∧
      log.length = plain.length + (faults.take log.length).countP Option.isSome := by
  unfold Cursor.new at ends ⊢
  obtain ⟨walked, later, shown, asked, few⟩ := walkedByPages [] ends
  have recovered := pursuedWalked keeps .first .first later other
    (Nat.le_trans (Nat.add_le_add_right few _) enough) 0 []
  refine ⟨recovered.ended, recovered.shown.trans shown.symm, ?_⟩
  have sent := recovered.asked
  rw [List.length_nil, Nat.zero_add] at sent asked
  rw [sent, asked]
  exact recovered.spent

theorem resumedAfterTwoErrors :
    let page : ListOptions → Page Nat := fun options =>
      if options.marker = none then ⟨[1, 2], some ⟨"2"⟩⟩ else ⟨[3], some ⟨"2"⟩⟩
    let faults := [some (.timeout 5), none, some (.serverError 503 "busy")]
    let plain := Cursor.pages (Fetcher.steady page).logged 2 (.new .none) ((), [])
    let broken := Cursor.pursue (Fetcher.faulty page).logged (fun _ _ => .none) 5 .none (.new .none) (faults, [])
    plain.2.1.isDone ∧ (∀ e, some e ∈ faults → ¬ e.isNotFound) ∧ 2 + faults.length ≤ 5 ∧
      (broken.2.1.phase = .exhausted ∧ broken.1.filter Except.isOk = plain.1 ∧
        broken.2.2.2.length = plain.2.2.2.length + (faults.take broken.2.2.2.length).countP Option.isSome) ∧
      broken.1 = [.error (.timeout 5), .ok ⟨[1, 2], some ⟨"2"⟩⟩, .error (.serverError 503 "busy"),
        .ok ⟨[3], some ⟨"2"⟩⟩] ∧
      broken.2.2.2.map (fun sent => sent.options.marker) = [none, none, some ⟨"2"⟩, some ⟨"2"⟩] := by
  intro page faults plain broken
  have ends : plain.2.1.isDone := by decide
  have other : ∀ e, some e ∈ faults → ¬ e.isNotFound := by
    simp [faults, Error.isNotFound]
  exact ⟨ends, other, Nat.le_refl 5,
    resumedWithoutLoss page .none ends other (fun _ _ => .first) (Nat.le_refl 5), rfl, rfl⟩

end CloudClient.Page
