import CloudClient.Proofs.Page.Advance
/-! The whole course of a walk, for any fetcher. After so many calls the list of its requests says
everything: what was handed out, whether the walk is over and where another one may take it up. -/
namespace CloudClient.Page

variable {σ ο α : Type} [Options ο]

inductive Fetch.Stops : Fetch ο α → Prop
  | last {sent page} (unmarked : page.marker = none) : Stops ⟨sent, .ok page⟩
  | repeated {sent page} (same : page.marker = Options.marker sent) : Stops ⟨sent, .ok page⟩
  | failed {sent e} : Stops ⟨sent, .error e⟩

def Fetch.LeadsTo (options : ο) (f g : Fetch ο α) : Prop :=
  ¬ f.Stops ∧ ∃ page next, f.outcome = .ok page ∧ page.marker = some next ∧
    g.options = Options.withMarker options next

def Fetch.delivered (f : Fetch ο α) (i : Nat) : Outcome (Page α) :=
  match f.outcome with
  | .ok page => .ok page
  | .error e => if e.isNotFound ∧ i = 0 then .ok .empty else .error e

def delivered (log : List (Fetch ο α)) : List (Outcome (Page α)) := log.mapIdx fun i f => f.delivered i

def Cursor.called (fetch : Fetcher σ ο α) (c : Cursor ο) (s : σ) :
    Nat → List (Option (Outcome (Page α))) × Cursor ο × σ
  | 0 => ([], c, s)
  | n + 1 =>
    let (answers, c, s) := called fetch c s n
    let (answer, c, s) := c.next fetch s
    (answers ++ [answer], c, s)

structure Trace (fetch : Fetcher σ ο α) (options : ο) (n : Nat)
    (answers : List (Option (Outcome (Page α)))) (c : Cursor ο) (s : σ × List (Fetch ο α)) : Prop where
  begun : ∀ f, s.2.head? = some f → f.options = options
  followed : s.2.IsChain (Fetch.LeadsTo options)
  answered : answers = (delivered s.2).map some ++ List.replicate (n - s.2.length) none
  once : s.2.length ≤ n
  idle : s.2.length < n → c.isDone
  counted : c.pagesFetched = s.2.length
  ended : c.isDone ↔ ∃ f, s.2.getLast? = some f ∧ f.Stops
  ahead : c.isDone = false →
    ∃ f, (c.next fetch.logged s).2.2.2 = s.2 ++ [f] ∧ c.marker = Options.marker f.options
  failed : ∀ e, some (.error e) ∈ answers →
    ∃ sent, s.2.getLast? = some ⟨sent, .error e⟩ ∧ c.marker = Options.marker sent
  finished : c.isDone → (∀ e, some (.error e) ∉ answers) → c.marker = none

def Due (options : ο) (log : List (Fetch ο α)) (next : ο) : Prop :=
  match log.getLast? with
  | none => next = options
  | some f => ¬ f.Stops ∧ ∃ page marker, f.outcome = .ok page ∧ page.marker = some marker ∧
      next = Options.withMarker options marker

inductive Standing (options : ο) (log : List (Fetch ο α)) (c : Cursor ο) : Prop
  | active (phase : c.phase = .active) (due : Due options log c.options)
      (clean : ∀ e, .error e ∉ delivered log)
  | exhausted {f} (phase : c.phase = .exhausted) (last : log.getLast? = some f) (stops : f.Stops)
      (clean : ∀ e, .error e ∉ delivered log)
  | failed {e} (phase : c.phase = .failed) (last : log.getLast? = some ⟨c.options, .error e⟩)
      (only : ∀ d, .error d ∈ delivered log ↔ d = e)

structure Course (options : ο) (log : List (Fetch ο α)) (c : Cursor ο) : Prop where
  begun : ∀ f, log.head? = some f → f.options = options
  followed : log.IsChain (Fetch.LeadsTo options)
  counted : c.pagesFetched = log.length
  standing : Standing options log c

section Delivering
omit [Options ο]

theorem deliveredSnoc (log : List (Fetch ο α)) (f : Fetch ο α) :
    delivered (log ++ [f]) = delivered log ++ [f.delivered log.length] :=
  List.mapIdx_concat

theorem cleanSnoc {log : List (Fetch ο α)} {f : Fetch ο α} {page : Page α}
    (clean : ∀ e, .error e ∉ delivered log) (given : f.delivered log.length = .ok page) :
    ∀ e, .error e ∉ delivered (log ++ [f]) := by
  intro e member
  rw [deliveredSnoc, given, List.mem_append, List.mem_singleton] at member
  rcases member with before | now
  · exact clean e before
  · contradiction

end Delivering

variable {options upcoming : ο} {log : List (Fetch ο α)} {c d : Cursor ο}

theorem courseNew (options : ο) : Course options ([] : List (Fetch ο α)) (.new options) :=
  ⟨fun _ first => by contradiction, .nil, rfl, .active rfl rfl fun _ member => by contradiction⟩

theorem Due.marks (due : Due options log upcoming) (m : Marker) :
    Options.withMarker upcoming m = Options.withMarker options m := by
  unfold Due at due
  split at due
  · rw [due]
  · obtain ⟨_, _, _, _, _, rfl⟩ := due
    exact Options.withMarkerTwice ..

theorem Due.begun (due : Due options log upcoming) (begun : ∀ f, log.head? = some f → f.options = options)
    (r : Outcome (Page α)) : ∀ f, (log ++ [Fetch.mk upcoming r]).head? = some f → f.options = options := by
  intro f first
  cases log with
  | nil =>
    cases first
    exact due
  | cons g rest => exact begun f first

theorem Due.followed (due : Due options log upcoming) (chain : log.IsChain (Fetch.LeadsTo options))
    (r : Outcome (Page α)) : (log ++ [Fetch.mk upcoming r]).IsChain (Fetch.LeadsTo options) := by
  refine List.isChain_append.mpr ⟨chain, .singleton _, fun f last g first => ?_⟩
  cases Option.some.inj first
  simp only [Due, Option.mem_def.mp last] at due
  exact due

theorem dueAfterPage {sent : ο} {page : Page α} {m : Marker} (marked : page.marker = some m)
    (moves : Options.marker sent ≠ some m) :
    Due options (log ++ [⟨sent, .ok page⟩]) (Options.withMarker options m) := by
  rw [Due, List.getLast?_concat]
  refine ⟨fun stops => ?_, page, m, rfl, marked, rfl⟩
  cases stops with
  | last unmarked => simp [marked] at unmarked
  | repeated same => exact moves (same.symm.trans marked)

theorem Course.advanced {r given : Outcome (Page α)} (course : Course options log c)
    (phase : c.phase = .active) (advanced : c.Advanced r given d) :
    Course options (log ++ [⟨c.options, r⟩]) d ∧ given = (⟨c.options, r⟩ : Fetch ο α).delivered log.length := by
  obtain ⟨begun, followed, counted, standing⟩ := course
  cases standing with
  | exhausted other | failed other => rw [phase] at other; contradiction
  | active _ due clean =>
    have more (standing : Standing options (log ++ [⟨c.options, r⟩]) d) (fetched : d.pagesFetched = c.pagesFetched + 1) :
        Course options (log ++ [⟨c.options, r⟩]) d :=
      ⟨due.begun begun r, due.followed followed r, by simp [fetched, counted], standing⟩
    cases advanced with
    | onward marked moves =>
      refine ⟨more (.active phase ?_ (cleanSnoc clean rfl)) rfl, rfl⟩
      rw [due.marks]
      exact dueAfterPage marked moves
    | last unmarked =>
      exact ⟨more (.exhausted rfl List.getLast?_concat (.last unmarked) (cleanSnoc clean rfl)) rfl, rfl⟩
    | repeated marked stays =>
      have stops := Fetch.Stops.repeated (marked.trans stays.symm)
      exact ⟨more (.exhausted rfl List.getLast?_concat stops (cleanSnoc clean rfl)) rfl, rfl⟩
    | @missing e absent first =>
      have shown : (⟨c.options, .error e⟩ : Fetch ο α).delivered log.length = .ok .empty :=
        if_pos ⟨absent, counted ▸ first⟩
      exact ⟨more (.exhausted rfl List.getLast?_concat .failed (cleanSnoc clean shown)) rfl, shown.symm⟩
    | @failed e other =>
      have shown : (⟨c.options, .error e⟩ : Fetch ο α).delivered log.length = .error e :=
        if_neg (counted ▸ other)
      refine ⟨more (.failed rfl List.getLast?_concat fun d => ?_) rfl, shown.symm⟩
      rw [deliveredSnoc, shown, List.mem_append, List.mem_singleton, or_iff_right (clean d), Except.error.injEq]

theorem Course.doneIff (course : Course options log c) :
    c.isDone ↔ ∃ f, log.getLast? = some f ∧ f.Stops := by
  rw [Cursor.doneIff]
  cases course.standing with
  | active phase due =>
    refine ⟨fun done => absurd phase done, ?_⟩
    rintro ⟨f, last, stops⟩
    simp only [Due, last] at due
    exact absurd stops due.1
  | exhausted phase last stops =>
    exact ⟨fun _ => ⟨_, last, stops⟩, fun _ => by simp [phase]⟩
  | failed phase last =>
    exact ⟨fun _ => ⟨_, last, .failed⟩, fun _ => by simp [phase]⟩

theorem Course.markerAtEnd (course : Course options log c) (done : c.isDone)
    (clean : ∀ e, .error e ∉ delivered log) : c.marker = none := by
  cases course.standing with
  | active phase => exact absurd phase (Cursor.doneIff.mp done)
  | exhausted phase => simp only [Cursor.marker, phase]
  | failed _ _ only => exact absurd ((only _).mpr rfl) (clean _)

theorem Course.markerAtError (course : Course options log c) {e : Error}
    (found : .error e ∈ delivered log) :
    ∃ sent, log.getLast? = some ⟨sent, .error e⟩ ∧ c.marker = Options.marker sent := by
  cases course.standing with
  | active _ _ clean | exhausted _ _ _ clean => exact absurd found (clean e)
  | failed phase last only =>
    cases (only e).mp found
    exact ⟨c.options, last, by simp only [Cursor.marker, phase]⟩

variable {fetch : Fetcher σ ο α} {n : Nat}

structure Called (options : ο) (n : Nat) (answers : List (Option (Outcome (Page α)))) (c : Cursor ο)
    (log : List (Fetch ο α)) : Prop where
  course : Course options log c
  answered : answers = (delivered log).map some ++ List.replicate (n - log.length) none
  once : log.length ≤ n
  idle : log.length < n → c.isDone

theorem calledNew (options : ο) : Called options 0 [] (.new options) ([] : List (Fetch ο α)) :=
  ⟨courseNew options, rfl, Nat.le_refl 0, fun less => by contradiction⟩

theorem Called.next {answers : List (Option (Outcome (Page α)))} (called : Called options n answers c log)
    (fetch : Fetcher σ ο α) (s : σ) :
    let after := c.next fetch.logged (s, log)
    Called options (n + 1) (answers ++ [after.1]) after.2.1 after.2.2.2 := by
  obtain ⟨course, answered, once, idle⟩ := called
  intro after
  by_cases done : c.isDone
  · have same : after = (none, c, s, log) := Cursor.nextDone done
    rw [same]
    refine ⟨course, ?_, Nat.le_succ_of_le once, fun _ => done⟩
    rw [answered, Nat.succ_sub once, List.replicate_succ', List.append_assoc]
  · have active : c.phase = .active := by simpa [Cursor.isDone] using done
    -- a walk that is not over has fetched at every call so far
    have all : log.length = n := Nat.le_antisymm once (Nat.not_lt.mp fun less => done (idle less))
    have fetched : after = (some (c.advance (fetch c.options s).1).1, (c.advance (fetch c.options s).1).2,
        (fetch c.options s).2, log ++ [⟨c.options, (fetch c.options s).1⟩]) := Cursor.nextActive active
    obtain ⟨further, shown⟩ := course.advanced active (c.advanced (fetch c.options s).1)
    have length : (log ++ [Fetch.mk c.options (fetch c.options s).1]).length = n + 1 := by simp [all]
    rw [fetched]
    refine ⟨further, ?_, Nat.le_of_eq length, fun less => absurd less (Nat.not_lt.mpr (Nat.le_of_eq length.symm))⟩
    dsimp only
    rw [length, deliveredSnoc, ← shown, answered, all, Nat.sub_self, Nat.sub_self, List.map_append]
    simp only [List.replicate_zero, List.append_nil, List.map_cons, List.map_nil]

theorem calledEach (fetch : Fetcher σ ο α) (options : ο) (s : σ) (n : Nat) :
    let after := Cursor.called fetch.logged (.new options) (s, []) n
    Called options n after.1 after.2.1 after.2.2.2 := by
  induction n with
  | zero => exact calledNew options
  | succ n ih => exact ih.next fetch _

theorem tracedThroughout (fetch : Fetcher σ ο α) (options : ο) (s : σ) (n : Nat) :
    let (answers, c, after) := Cursor.called fetch.logged (.new options) (s, []) n
    Trace fetch options n answers c after := by
  obtain ⟨course, answered, once, idle⟩ := calledEach fetch options s n
  have errors : ∀ e, some (.error e) ∈ (Cursor.called fetch.logged (.new options) (s, []) n).1 ↔
      .error e ∈ delivered (Cursor.called fetch.logged (.new options) (s, []) n).2.2.2 := by
    intro e
    simp [answered]
  exact
    { begun := course.begun
      followed := course.followed
      answered
      once
      idle
      counted := course.counted
      ended := course.doneIff
      ahead := fun on => by
        have active : (Cursor.called fetch.logged (.new options) (s, []) n).2.1.phase = .active := by
          simpa [Cursor.isDone] using on
        rw [Cursor.nextActive active]
        exact ⟨_, rfl, by simp only [Cursor.marker, active]⟩
      failed := fun e found => course.markerAtError ((errors e).mp found)
      finished := fun done clean => course.markerAtEnd done fun e found => clean e ((errors e).mpr found) }

end CloudClient.Page
