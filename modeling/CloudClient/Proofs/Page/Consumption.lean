import CloudClient.Proofs.Page.Trace
/-! The ways to use up a cursor: call by call, as pages, as items, all at once. From any state of the cursor and
with any fetcher they come to the same, and none fetches a page before it is wanted. -/
namespace CloudClient.Page.Cursor

variable {σ ο α : Type} [Options ο]

inductive Comes : List (Outcome (Page α)) → Bool → List (Outcome α) → Option (Outcome (List α)) → Prop
  | ongoing (pages : List (Page α)) : Comes (pages.map .ok) false ((pages.flatMap Page.items).map .ok) none
  | ended (pages : List (Page α)) :
      Comes (pages.map .ok) true ((pages.flatMap Page.items).map .ok) (some (.ok (pages.flatMap Page.items)))
  | failed (pages : List (Page α)) (e : Error) :
      Comes (pages.map .ok ++ [.error e]) true ((pages.flatMap Page.items).map .ok ++ [.error e]) (some (.error e))

structure Taken (fetch : Fetcher σ ο α) (c : Cursor ο) (s : σ) (fuel wanted k : Nat) : Prop where
  few : k ≤ fuel
  fetched : (pages fetch k c s).1.length = k
  given : items fetch fuel wanted c s = (((pages fetch k c s).1.flatMap spread).take wanted, (pages fetch k c s).2)
  needed : ∀ j, j < k → ((pages fetch j c s).1.flatMap spread).length < wanted ∧ (pages fetch j c s).2.1.isDone = false
  enough : k < fuel → wanted ≤ ((pages fetch k c s).1.flatMap spread).length ∨ (pages fetch k c s).2.1.isDone

structure Consumed (fetch : Fetcher σ ο α) (c : Cursor ο) (s : σ) : Prop where
  called : ∀ n, called fetch.logged c (s, []) n =
    ((pages fetch.logged n c (s, [])).1.map some ++
      List.replicate (n - (pages fetch.logged n c (s, [])).1.length) none, (pages fetch.logged n c (s, [])).2)
  paged : ∀ n, (pages fetch.logged n c (s, [])).2.2.2.length = (pages fetch.logged n c (s, [])).1.length ∧
    (pages fetch.logged n c (s, [])).1.length ≤ n ∧
    ((pages fetch.logged n c (s, [])).1.length < n → (pages fetch.logged n c (s, [])).2.1.isDone)
  itemized : ∀ fuel wanted, ∃ k, Taken fetch.logged c (s, []) fuel wanted k ∧
    (items fetch.logged fuel wanted c (s, [])).2.2.2.length = k
  unwanted : ∀ fuel, items fetch.logged fuel 0 c (s, []) = ([], c, s, [])
  collected : ∀ fuel, (collect? fetch.logged fuel c (s, [])).2 = (pages fetch.logged fuel c (s, [])).2 ∧
    Comes (pages fetch.logged fuel c (s, [])).1 (pages fetch.logged fuel c (s, [])).2.1.isDone
      ((pages fetch.logged fuel c (s, [])).1.flatMap spread) (collect? fetch.logged fuel c (s, [])).1

variable {fetch : Fetcher σ ο α} {c d : Cursor ο} {s t : σ} {fuel wanted k : Nat} {given : Outcome (Page α)}

theorem undoneDelivers (fetch : Fetcher σ ο α) (s : σ) (undone : ¬ c.isDone) :
    ∃ given d t, c.next fetch s = (some given, d, t) :=
  ⟨_, _, _, nextActive (by simpa [isDone] using undone)⟩

theorem doneAfterError {e : Error} (turn : c.next fetch s = (some (.error e), d, t)) : d.isDone := by
  by_cases done : c.isDone
  · rw [nextDone done] at turn
    cases turn
  · rw [nextActive (by simpa [isDone] using done)] at turn
    simp only [Prod.mk.injEq, Option.some.injEq] at turn
    obtain ⟨given, after, _⟩ := turn
    have advanced := c.advanced (fetch c.options s).1
    rw [given, after] at advanced
    generalize (fetch c.options s).1 = fetched at advanced
    cases advanced
    rfl

theorem pagesMore (turn : c.next fetch s = (some given, d, t)) (n : Nat) :
    pages fetch (n + 1) c s = (given :: (pages fetch n d t).1, (pages fetch n d t).2) := by
  rw [pages, turn]

theorem loggedTurn {log : List (Fetch ο α)} {u : σ × List (Fetch ο α)}
    (turn : c.next fetch.logged (s, log) = (some given, d, u)) : u.2.length = log.length + 1 := by
  by_cases done : c.isDone
  · rw [nextDone done] at turn
    cases turn
  · rw [nextActive (by simpa [isDone] using done)] at turn
    simp only [Prod.mk.injEq] at turn
    rw [← turn.2.2, Fetcher.logged, List.length_append]
    rfl

theorem pagesFew (fetch : Fetcher σ ο α) (n : Nat) (c : Cursor ο) (s : σ) :
    (pages fetch n c s).1.length ≤ n ∧ ((pages fetch n c s).1.length < n → (pages fetch n c s).2.1.isDone) := by
  induction n generalizing c s with
  | zero => exact ⟨Nat.le_refl 0, fun less => absurd less (Nat.lt_irrefl 0)⟩
  | succ n ih =>
    by_cases done : c.isDone
    · rw [pagesDone _ _ done]
      exact ⟨Nat.zero_le _, fun _ => done⟩
    · obtain ⟨given, d, t, turn⟩ := undoneDelivers fetch s done
      rw [pagesMore turn]
      exact ⟨Nat.succ_le_succ (ih d t).1, fun less => (ih d t).2 (Nat.lt_of_succ_lt_succ less)⟩

theorem pagesLogged (fetch : Fetcher σ ο α) (n : Nat) (c : Cursor ο) (u : σ × List (Fetch ο α)) :
    (pages fetch.logged n c u).2.2.2.length = u.2.length + (pages fetch.logged n c u).1.length := by
  induction n generalizing c u with
  | zero => rfl
  | succ n ih =>
    by_cases done : c.isDone
    · rw [pagesDone _ _ done]
      rfl
    · obtain ⟨given, d, v, turn⟩ := undoneDelivers fetch.logged u done
      rw [pagesMore turn, ih, loggedTurn turn, List.length_cons, Nat.add_assoc, Nat.add_comm 1]

theorem pagesLast (fetch : Fetcher σ ο α) (n : Nat) (c : Cursor ο) (s : σ) :
    pages fetch (n + 1) c s =
      ((pages fetch n c s).1 ++ ((pages fetch n c s).2.1.next fetch (pages fetch n c s).2.2).1.toList,
        ((pages fetch n c s).2.1.next fetch (pages fetch n c s).2.2).2) := by
  induction n generalizing c s with
  | zero =>
    by_cases done : c.isDone
    · rw [pagesDone fetch 1 done, pagesDone fetch 0 done, nextDone done]
      rfl
    · obtain ⟨given, d, t, turn⟩ := undoneDelivers fetch s done
      rw [pagesMore turn, pages, pages, turn]
      rfl
  | succ n ih =>
    by_cases done : c.isDone
    · rw [pagesDone fetch (n + 2) done, pagesDone fetch (n + 1) done, nextDone done]
      rfl
    · obtain ⟨given, d, t, turn⟩ := undoneDelivers fetch s done
      rw [pagesMore turn (n + 1), ih, pagesMore turn n]
      rfl

theorem calledPages (fetch : Fetcher σ ο α) (c : Cursor ο) (s : σ) (n : Nat) :
    called fetch c s n = ((pages fetch n c s).1.map some ++
      List.replicate (n - (pages fetch n c s).1.length) none, (pages fetch n c s).2) := by
  induction n with
  | zero => rfl
  | succ n ih =>
    obtain ⟨few, short⟩ := pagesFew fetch n c s
    rw [called, ih, pagesLast]
    dsimp only
    by_cases done : (pages fetch n c s).2.1.isDone
    · rw [nextDone done, Option.toList_none, List.append_nil, Nat.succ_sub few, List.replicate_succ',
        List.append_assoc]
    · -- a walk that is not over has a page for each call
      have full : (pages fetch n c s).1.length = n := Nat.le_antisymm few (Nat.not_lt.mp (mt short done))
      obtain ⟨given, d, t, turn⟩ := undoneDelivers fetch (pages fetch n c s).2.2 done
      rw [turn, Option.toList_some, List.length_append, List.length_singleton, full, Nat.sub_self, Nat.sub_self,
        List.map_append]
      simp only [List.replicate_zero, List.append_nil, List.map_cons, List.map_nil]

theorem Taken.none (fetch : Fetcher σ ο α) (fuel : Nat) (stops : fuel = 0 ∨ wanted = 0 ∨ c.isDone) :
    Taken fetch c s fuel wanted 0 where
  few := Nat.zero_le fuel
  fetched := rfl
  given := by
    have nothing : ((pages fetch 0 c s).1.flatMap spread).take wanted = [] := List.take_nil
    rw [nothing]
    cases fuel with
    | zero => rfl
    | succ fuel =>
      rw [items]
      split
      · rfl
      · rename_i some
        rw [nextDone ((stops.resolve_left (Nat.succ_ne_zero fuel)).resolve_left some)]
        rfl
  needed j less := absurd less (Nat.not_lt_zero j)
  enough more := by
    rcases stops.resolve_left (Nat.ne_of_gt more) with rfl | done
    · exact .inl (Nat.zero_le _)
    · exact .inr done

theorem Taken.more (turn : c.next fetch s = (some given, d, t)) (some : wanted ≠ 0) (undone : ¬ c.isDone)
    (later : Taken fetch d t fuel (wanted - (spread given).length) k) : Taken fetch c s (fuel + 1) wanted (k + 1) where
  few := Nat.succ_le_succ later.few
  fetched := by rw [pagesMore turn, List.length_cons, later.fetched]
  given := by
    have left : wanted - ((spread given).take wanted).length = wanted - (spread given).length := by
      rw [List.length_take]
      omega
    rw [items, if_neg some, turn]
    dsimp only
    rw [left, later.given, pagesMore turn, List.flatMap_cons, List.take_append]
  needed j less := by
    cases j with
    | zero => exact ⟨Nat.pos_of_ne_zero some, Bool.eq_false_iff.mpr undone⟩
    | succ j =>
      obtain ⟨short, open'⟩ := later.needed j (Nat.lt_of_succ_lt_succ less)
      rw [pagesMore turn, List.flatMap_cons, List.length_append]
      exact ⟨by omega, open'⟩
  enough more := by
    rw [pagesMore turn, List.flatMap_cons, List.length_append]
    exact (later.enough (Nat.lt_of_succ_lt_succ more)).imp_left fun full => by omega

theorem itemsTaken (fetch : Fetcher σ ο α) (fuel wanted : Nat) (c : Cursor ο) (s : σ) :
    ∃ k, Taken fetch c s fuel wanted k := by
  induction fuel generalizing wanted c s with
  | zero => exact ⟨0, .none fetch 0 (.inl rfl)⟩
  | succ fuel ih =>
    by_cases stops : wanted = 0 ∨ c.isDone
    · exact ⟨0, .none fetch _ (.inr stops)⟩
    · obtain ⟨some, undone⟩ := not_or.mp stops
      obtain ⟨given, d, t, turn⟩ := undoneDelivers fetch s undone
      obtain ⟨k, later⟩ := ih (wanted - (spread given).length) d t
      exact ⟨k + 1, later.more turn some undone⟩

theorem Comes.cons {results : List (Outcome (Page α))} {done : Bool} {shown : List (Outcome α)}
    {all : Option (Outcome (List α))} (later : Comes results done shown all) (page : Page α) :
    Comes (.ok page :: results) done (spread (.ok page) ++ shown)
      (all.map fun items => items.map (page.items ++ ·)) := by
  cases later with
  | ongoing pages =>
    have whole := Comes.ongoing (page :: pages)
    rwa [List.flatMap_cons, List.map_append] at whole
  | ended pages =>
    have whole := Comes.ended (page :: pages)
    rwa [List.flatMap_cons, List.map_append] at whole
  | failed pages e =>
    have whole := Comes.failed (page :: pages) e
    rwa [List.flatMap_cons, List.map_append, List.append_assoc] at whole

theorem collectedPages (fetch : Fetcher σ ο α) (fuel : Nat) (c : Cursor ο) (s : σ) :
    (collect? fetch fuel c s).2 = (pages fetch fuel c s).2 ∧
      Comes (pages fetch fuel c s).1 (pages fetch fuel c s).2.1.isDone ((pages fetch fuel c s).1.flatMap spread)
        (collect? fetch fuel c s).1 := by
  induction fuel generalizing c s with
  | zero =>
    by_cases done : c.isDone
    · rw [collectDone _ _ done, pagesDone _ _ done, done]
      exact ⟨rfl, .ended []⟩
    · rw [collect?, if_neg done, pages, Bool.eq_false_iff.mpr done]
      exact ⟨rfl, .ongoing []⟩
  | succ fuel ih =>
    by_cases done : c.isDone
    · rw [collectDone _ _ done, pagesDone _ _ done, done]
      exact ⟨rfl, .ended []⟩
    · obtain ⟨given, d, t, turn⟩ := undoneDelivers fetch s done
      rw [collect?, turn, pagesMore turn]
      cases given with
      | error e =>
        have ended := doneAfterError turn
        rw [pagesDone _ _ ended, ended]
        exact ⟨rfl, .failed [] e⟩
      | ok page =>
        obtain ⟨same, later⟩ := ih d t
        exact ⟨same, later.cons page⟩

theorem consumedAlike (fetch : Fetcher σ ο α) (c : Cursor ο) (s : σ) : Consumed fetch c s where
  called n := calledPages fetch.logged c (s, []) n
  paged n := ⟨(pagesLogged fetch n c (s, [])).trans (Nat.zero_add _), pagesFew fetch.logged n c (s, [])⟩
  itemized fuel wanted := by
    obtain ⟨k, taken⟩ := itemsTaken fetch.logged fuel wanted c (s, [])
    refine ⟨k, taken, ?_⟩
    rw [taken.given, pagesLogged, taken.fetched]
    exact Nat.zero_add k
  unwanted fuel := (Taken.none fetch.logged fuel (.inr (.inl rfl))).given
  collected fuel := collectedPages fetch.logged fuel c (s, [])

end CloudClient.Page.Cursor
