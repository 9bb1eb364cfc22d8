import CloudClient.Proofs.Queue.Streaming
import CloudClient.Proofs.Service
/-! Reading a queue to its end while nobody changes it. Every page takes the next messages of one list, which
is the same for all page sizes, so the pages joined are this list; no page is fetched for nothing. -/
namespace CloudClient

def Marker.number? (m : Marker) : Option Nat := Text.nat64? m.text

namespace Queue.Store

open Service (requestsFor requestsForFew requestsForMany)

inductive Onward : Page.Fetch StreamOptions Message → Prop
  | mk {sent page next n} (marked : page.marker = some next) (number : next.number? = some n)
      (behind : ∀ m, sent.marker = some m → ∃ k, m.number? = some k ∧ k < n) : Onward ⟨sent, .ok page⟩

inductive Final : Page.Fetch StreamOptions Message → Prop
  | mk {sent page} (unmarked : page.marker = none) : Final ⟨sent, .ok page⟩

inductive Leafed : List (Page.Fetch StreamOptions Message) → Prop
  | last {f} (final : Final f) : Leafed [f]
  | more {f rest} (onward : Onward f) (later : Leafed rest) : Leafed (f :: rest)

variable {s : Store} {reader : ClientId} {now start : Nat} {options : StreamOptions} {marker : Option Marker}
  {fetches : List (Page.Fetch StreamOptions Message)} {f : Page.Fetch StreamOptions Message}

theorem Leafed.nonempty (leafed : Leafed fetches) : fetches ≠ [] := by
  cases leafed <;> exact List.cons_ne_nil _ _

theorem Leafed.final (leafed : Leafed fetches) : ∃ f, fetches.getLast? = some f ∧ Final f := by
  induction leafed with
  | last final => exact ⟨_, rfl, final⟩
  | more _ later ih =>
    obtain ⟨g, is, final⟩ := ih
    exact ⟨g, by rw [List.getLast?_cons, is, Option.getD_some], final⟩

theorem Leafed.onward (leafed : Leafed fetches) : ∀ f ∈ fetches.dropLast, Onward f := by
  induction leafed with
  | last => exact fun _ member => nomatch member
  | more onward later ih =>
    rw [List.dropLast_cons_of_ne_nil later.nonempty]
    exact List.forall_mem_cons.mpr ⟨onward, ih⟩

theorem Onward.moves (onward : Onward f) {page : Page Message} (given : f.outcome = .ok page) :
    page.marker ≠ f.options.marker := by
  obtain ⟨marked, number, behind⟩ := onward
  cases given
  intro same
  obtain ⟨k, numberToo, less⟩ := behind _ (same.symm.trans marked)
  cases Option.some.inj (number.symm.trans numberToo)
  exact Nat.lt_irrefl _ less

theorem Leafed.unrepeated (leafed : Leafed fetches) :
    ∀ f ∈ fetches, ∀ page next, f.outcome = .ok page → page.marker = some next → f.options.marker ≠ some next := by
  induction leafed with
  | last final =>
    intro f member page next given marked
    cases List.mem_singleton.mp member
    obtain ⟨unmarked⟩ := final
    cases given
    exact absurd marked (by simp [unmarked])
  | more onward _ ih =>
    refine List.forall_mem_cons.mpr ⟨fun page next given marked same => ?_, ih⟩
    exact onward.moves given (marked.trans same.symm)

theorem numberOf (n : Nat) (small : n < UInt64.size) : (Marker.mk (toString n)).number? = some n := by
  rw [Marker.number?, Text.nat64OfText, if_pos small]

theorem startBehind {m : Marker} (parsed : startOf (some m) = .ok start) :
    ∃ k, m.number? = some k ∧ start = k + 1 := by
  simp only [startOf] at parsed
  split at parsed
  · rename_i k read
    cases parsed
    exact ⟨k, read, rfl⟩
  · contradiction

theorem candidatesBehind (k : Keyed s) {i : Nat} (inside : i < (s.candidates now options start).length) :
    s.candidates now options ((s.candidates now options start)[i].seq + 1) =
      (s.candidates now options start).drop (i + 1) := by
  let all := s.candidates now options start
  have reached : start ≤ all[i].seq := (candidateIff.mp (List.getElem_mem inside)).2
  refine Eq.trans ?_ (droppedFrom (candidatesOrdered k now options start) inside)
  show (s.live now).filter _ = ((s.live now).filter _).filter _
  rw [List.filter_filter]
  refine List.filter_congr fun m _ => ?_
  by_cases later : all[i].seq + 1 ≤ m.seq
  · simp [all, later, show start ≤ m.seq by omega]
  · simp [all, later]

structure Through (s : Store) (reader : ClientId) (now : Nat) (options : StreamOptions) (start k : Nat)
    (log : List (Page.Fetch StreamOptions Message))
    (walk : Option (Outcome (List Message)) × Page.Cursor StreamOptions × Store × List (Page.Fetch StreamOptions Message)) :
    Prop where
  shown : walk.1 = some (.ok (s.shownTo reader now options (s.candidates now options start)))
  fetched : ∃ fetches, walk.2.2.2 = log ++ fetches ∧ walk.2.1.pagesFetched = k + fetches.length ∧
    fetches.length = requestsFor options.effectiveLimit (s.candidates now options start).length ∧ Leafed fetches

variable {k i fuel : Nat} {log : List (Page.Fetch StreamOptions Message)}
  {walk : Option (Outcome (List Message)) × Page.Cursor StreamOptions × Store × List (Page.Fetch StreamOptions Message)}

theorem shownAppend (s : Store) (reader : ClientId) (now : Nat) (options : StreamOptions) (first rest : List Stored) :
    s.shownTo reader now options (first ++ rest) =
      s.shownTo reader now options first ++ s.shownTo reader now options rest := by
  rw [shownTo, List.filter_append, List.map_append]
  rfl

theorem Through.pageBefore (keyed : Keyed s) (limit : options.effectiveLimit = i + 1)
    (more : i + 1 < (s.candidates now options start).length) (inside : i < (s.candidates now options start).length)
    (onward : Onward f)
    (later : Through s reader now options ((s.candidates now options start)[i].seq + 1) (k + 1) (log ++ [f]) walk) :
    Through s reader now options start k log
      (walk.1.map fun items =>
        items.map (s.shownTo reader now options ((s.candidates now options start).take (i + 1)) ++ ·), walk.2) := by
  obtain ⟨shown, fetches, logged, counted, asked, leafed⟩ := later
  rw [candidatesBehind keyed inside] at shown asked
  rw [limit, List.length_drop] at asked
  refine ⟨?_, f :: fetches, ?_, ?_, ?_, .more onward leafed⟩
  · rw [shown, Option.map_some, Except.map, ← shownAppend, List.take_append_drop]
  · rw [logged, List.append_assoc, List.singleton_append]
  · rw [counted, List.length_cons, Nat.add_assoc, Nat.add_comm 1]
  · rw [limit, requestsForMany (Nat.succ_pos i) more, List.length_cons, asked]

theorem onwardPage (parsed : startOf marker = .ok start) {n : Nat} (reached : start ≤ n) (small : n < UInt64.size)
    (items : List Message) : Onward ⟨{ options with marker }, .ok ⟨items, some ⟨toString n⟩⟩⟩ := by
  refine .mk rfl (numberOf n small) fun m own => ?_
  obtain ⟨k, number, rfl⟩ := startBehind (own ▸ parsed : startOf (some m) = .ok start)
  exact ⟨k, number, reached⟩

theorem through (w : WellFormed s) (fits : s.nextSeq ≤ UInt64.size) (reader : ClientId) (now : Nat)
    (valid : options.validate = .ok ()) (parsed : startOf marker = .ok start)
    (enough : requestsFor options.effectiveLimit (s.candidates now options start).length ≤ fuel) (k : Nat)
    (log : List (Page.Fetch StreamOptions Message)) :
    Through s reader now options start k log
      (Page.Cursor.collect? (fetcher reader now).logged fuel ⟨{ options with marker }, .active, k⟩ (s, log)) := by
  obtain ⟨i, limit⟩ := Nat.exists_eq_add_one.mpr (options.limitPositive valid)
  -- each page takes the first of the messages from `start` on, and the walk goes on behind the last of these
  induction fuel generalizing marker start k log with
  | zero => exact absurd (Nat.le_trans (Nat.le_max_left _ _) enough) (by decide)
  | succ fuel ih =>
    let all := s.candidates now options start
    have given : ({ options with marker } : StreamOptions).validate = .ok () := valid
    by_cases more : i + 1 < all.length
    · have inside : i < all.length := Nat.lt_of_succ_lt more
      obtain ⟨⟨stored, _⟩, reached⟩ := candidateIff.mp (List.getElem_mem inside)
      have small : all[i].seq < UInt64.size := Nat.lt_of_lt_of_le (w.below _ stored) fits
      have further : startOf (some ⟨toString all[i].seq⟩) = .ok (all[i].seq + 1) := by
        simp only [startOf, Text.nat64OfText, if_pos small]
      have fewer : requestsFor options.effectiveLimit (s.candidates now options (all[i].seq + 1)).length ≤ fuel := by
        rw [limit] at enough ⊢
        rw [requestsForMany (Nat.succ_pos i) more] at enough
        rw [candidatesBehind w.keyed inside, List.length_drop]
        exact Nat.le_of_succ_le_succ enough
      have fetched : (fetcher reader now).logged { options with marker } (s, log) = _ :=
        congrArg (fun given => (given, s, log ++ [⟨{ options with marker }, given⟩]))
          (pageMore reader given parsed limit more)
      rw [Page.Cursor.collectMore fetched rfl (markerMoves parsed reached)]
      exact (ih further fewer (k + 1) _).pageBefore w.keyed limit more inside (onwardPage parsed reached small _)
    · have few : all.length ≤ options.effectiveLimit := limit ▸ Nat.not_lt.mp more
      have fetched : (fetcher reader now).logged { options with marker } (s, log) = _ :=
        congrArg (fun given => (given, s, log ++ [⟨{ options with marker }, given⟩]))
          (pageLast reader given parsed few)
      rw [Page.Cursor.collectLast fetched (.inl rfl)]
      exact ⟨rfl, _, rfl, rfl, (requestsForFew few).symm, .last (.mk rfl)⟩

/-- What reads find of the messages from a number on, in posting order; those under a claim only on demand. -/
def admitted (calls : List Call) (now : Nat) (includeClaimed : Bool) (start : Nat) : List Message :=
  (((posted calls).drop start).filterMap ((empty.run calls).get now)).filter fun m =>
    includeClaimed || m.claim.isNone

variable {calls : List Call}

theorem admittedRows (fresh : FreshIds calls) (now : Nat) (options : StreamOptions) (start : Nat) :
    admitted calls now options.includeClaimed start =
      ((empty.run calls).candidates now options start).map fun m => (empty.run calls).view m now := by
  rw [admitted, (reachedNumbered fresh).found (reachedWellFormed fresh).keyed (postedNodup fresh), List.filter_map,
    List.filter_filter, candidates]
  refine congrArg _ (List.filter_congr fun m _ => ?_)
  rw [Function.comp_apply, Bool.and_comm]
  rfl

theorem shownAdmitted (fresh : FreshIds calls) (reader : ClientId) (now : Nat) (options : StreamOptions) (start : Nat) :
    (empty.run calls).shownTo reader now options ((empty.run calls).candidates now options start) =
      (admitted calls now options.includeClaimed start).filter fun m =>
        options.echo || (m.id, reader) ∉ posts calls := by
  rw [admittedRows fresh, List.filter_map, shownTo]
  refine congrArg _ (List.filter_congr fun m member => ?_)
  have own := authorIff fresh (candidateIff.mp member).1.1 reader
  by_cases same : m.author = reader
  · simp [same, view, own.mp same]
  · simp [same, view, mt own.mpr same]

theorem walkedAdmitted (fresh : FreshIds calls) (fits : (posted calls).length ≤ UInt64.size) (reader : ClientId)
    (now : Nat) (valid : options.validate = .ok ()) (parsed : startOf options.marker = .ok start) :
    ∃ few, ∀ fuel, few ≤ fuel →
      (Page.Cursor.collect? (fetcher reader now) fuel (.new options) (empty.run calls)).1 =
        some (.ok ((admitted calls now options.includeClaimed start).filter fun m =>
          options.echo || (m.id, reader) ∉ posts calls)) := by
  have small : (empty.run calls).nextSeq ≤ UInt64.size := (reachedNumbered fresh).next ▸ fits
  refine ⟨requestsFor options.effectiveLimit ((empty.run calls).candidates now options start).length,
    fun fuel enough => ?_⟩
  have walk := through (reachedWellFormed fresh) small reader now valid parsed enough 0 []
  rw [← Page.Cursor.collectLogged _ _ _ _ [], ← shownAdmitted fresh]
  exact walk.shown

theorem pageSizeUnobserved (fresh : FreshIds calls) (fits : (posted calls).length ≤ UInt64.size)
    (reader : ClientId) (now : Nat) (echo includeClaimed : Bool) (starts : Starts marker start) :
    let found := admitted calls now includeClaimed start
    ∀ limit, 1 ≤ limit → limit ≤ 20 → ∀ fuel, requestsFor limit found.length ≤ fuel →
      let walk := Page.Cursor.collect? (fetcher reader now).logged fuel
        (.new ⟨some limit, marker, echo, includeClaimed⟩) (empty.run calls, [])
      let fetches := walk.2.2.2
      walk.1 = some (.ok (found.filter fun m => echo || (m.id, reader) ∉ posts calls)) ∧
        fetches.length = requestsFor limit found.length ∧ walk.2.1.pagesFetched = fetches.length ∧
        (∀ f ∈ fetches.dropLast, Onward f) ∧ (∃ f, fetches.getLast? = some f ∧ Final f) ∧
        ∀ f ∈ fetches, ∀ page next, f.outcome = .ok page → page.marker = some next →
          f.options.marker ≠ some next := by
  intro found limit least most fuel enough walk fetches
  let options : StreamOptions := ⟨some limit, marker, echo, includeClaimed⟩
  have valid : options.validate = .ok () := if_pos ⟨least, most⟩
  have count : found.length = ((empty.run calls).candidates now options start).length := by
    rw [show found = _ from admittedRows fresh now options start, List.length_map]
  have small : (empty.run calls).nextSeq ≤ UInt64.size := (reachedNumbered fresh).next ▸ fits
  rw [count] at enough ⊢
  obtain ⟨shown, pages, logged, counted, asked, leafed⟩ :=
    through (reachedWellFormed fresh) small reader now valid starts.parsed enough 0 []
  have same : fetches = pages := logged
  rw [same]
  exact ⟨shown.trans (congrArg _ (congrArg _ (shownAdmitted fresh reader now options start))), asked,
    counted.trans (Nat.zero_add _), leafed.onward, leafed.final, leafed.unrepeated⟩

theorem readByTwos :
    let post (client : String) (ids : List String) : Call :=
      ⟨⟨client⟩, 0, .named ids "", .post (ids.map fun _ => ⟨.ofSeconds 60, .null⟩)⟩
    let claim : Call := ⟨⟨"b"⟩, 1, .named [] "c", .claim ⟨.ofSeconds 60, .ofSeconds 60, 2⟩⟩
    let calls := [post "a" ["k", "l"], post "b" ["m", "n"], claim, post "a" ["o"]]
    let walk := Page.Cursor.collect? (fetcher ⟨"a"⟩ 2).logged 2 (.new ⟨some 2, some ⟨"0"⟩, false, true⟩)
      (empty.run calls, [])
    let shown := (admitted calls 2 true 1).filter fun m => false || (m.id, ⟨"a"⟩) ∉ posts calls
    FreshIds calls ∧ (posted calls).length ≤ UInt64.size ∧ Starts (some ⟨"0"⟩) 1 ∧
      (admitted calls 2 true 1).map (·.id.text) = ["l", "m", "n", "o"] ∧ shown.map (·.id.text) = ["m", "n"] ∧
      walk.1 = some (.ok shown) ∧ walk.2.2.2.length = 2 ∧ ∀ f ∈ walk.2.2.2.dropLast, Onward f := by
  intro post claim calls
  dsimp only
  have fresh : FreshIds calls := by decide
  have fits : (posted calls).length ≤ UInt64.size := by decide +kernel
  have starts : Starts (some ⟨"0"⟩) 1 := .behind (Text.nat64Iff.mp rfl) (by decide)
  have found : (admitted calls 2 true 1).map (·.id.text) = ["l", "m", "n", "o"] := by decide +kernel
  have two : requestsFor 2 (admitted calls 2 true 1).length = 2 := by decide +kernel
  obtain ⟨read, fetched, _, onward, _⟩ := pageSizeUnobserved fresh fits ⟨"a"⟩ 2 false true starts 2
    (by decide) (by decide) 2 (Nat.le_of_eq two)
  exact ⟨fresh, fits, starts, found, by decide +kernel, read, fetched.trans two, onward⟩

end Queue.Store
end CloudClient
