import CloudClient.Proofs.Queue.Claiming
import CloudClient.Proofs.Queue.LazyPurge
/-! Refusals. A call that is refused has at most purged the store, and a purge goes unseen, so whatever is
asked later gets the answers it would have got without that call. -/
namespace CloudClient.Queue.Store

structure Told (s : Store) (now : Nat) (id : MessageId) (c : ClaimId) (answer : Outcome Unit) : Prop where
  done : answer = .ok () ↔ s.get now id = none ∨ Holds s now c id
  notClaimed : answer = .error (.notClaimed id.text) ↔ s.get now id ≠ none ∧ ∀ holder, ¬ Holds s now holder id
  mismatch : ∀ holder : ClaimId, answer = .error (.claimMismatch id.text c.text (some holder.text)) ↔
    Holds s now holder id ∧ holder ≠ c

def Faulty (s : Store) (now : Nat) : Command → Prop
  | .streamPage options =>
    ¬ (Command.streamPage options).Valid ∨ ∃ m, options.marker = some m ∧ m.number? = none
  | .deleteByClaim id c => s.get now id ≠ none ∧ ¬ Holds s now c id
  | command => ¬ command.Valid

def Refused : Outcome Answer → Prop
  | .error _ | .ok (.renewed false) => True
  | _ => False

inductive Verdict (s : Store) (now : Nat) (command : Command) : Outcome Answer → Store → Prop
  | refused {e t} (faulty : Faulty s now command) (kept : t = s ∨ t = s.purge now) : Verdict s now command (.error e) t
  | lapsed (sound : ¬ Faulty s now command) : Verdict s now command (.ok (.renewed false)) (s.purge now)
  | served {answer t} (sound : ¬ Faulty s now command) (other : answer ≠ .renewed false) :
      Verdict s now command (.ok answer) t

inductive Deletion (s : Store) (now : Nat) (id : MessageId) (c : ClaimId) : Outcome Unit → Store → Prop
  | gone (none : s.get now id = none) : Deletion s now id c (.ok ()) (s.purge now)
  | held (own : Holds s now c id) : Deletion s now id c (.ok ()) ((s.purge now).kept (·.id != id))
  | free (live : s.get now id ≠ none) (unheld : ∀ holder, ¬ Holds s now holder id) :
      Deletion s now id c (.error (.notClaimed id.text)) (s.purge now)
  | other {holder : ClaimId} (under : Holds s now holder id) (differ : holder ≠ c) :
      Deletion s now id c (.error (.claimMismatch id.text c.text (some holder.text))) (s.purge now)

variable {s : Store} {now : Nat} {id : MessageId} {c : ClaimId} {call : Call} {moves : List Move}

theorem Holds.live (w : WellFormed s) (under : Holds s now c id) : s.get now id ≠ none := by
  obtain ⟨m, got, _⟩ := (holdsIff w id).mp under
  exact Option.ne_none_iff_exists'.mpr ⟨m, got⟩

theorem Holds.unique (w : WellFormed s) {d : ClaimId} (under : Holds s now c id) (again : Holds s now d id) : c = d := by
  obtain ⟨m, got, first⟩ := (holdsIff w id).mp under
  obtain ⟨n, gotAgain, second⟩ := (holdsIff w id).mp again
  cases Option.some.inj (got.symm.trans gotAgain)
  exact Option.some.inj (first.symm.trans second)

theorem deletion (w : WellFormed s) (now : Nat) (id : MessageId) (c : ClaimId) :
    Deletion s now id c (s.deleteByClaim now id c).1 (s.deleteByClaim now id c).2 := by
  rw [deleteByClaimAnswer w]
  cases got : s.get now id with
  | none => exact .gone got
  | some m =>
    dsimp only
    cases under : m.claim with
    | none =>
      refine .free (Option.ne_none_iff_exists'.mpr ⟨m, got⟩) fun holder held => ?_
      obtain ⟨n, gotAgain, named⟩ := (holdsIff w id).mp held
      cases Option.some.inj (got.symm.trans gotAgain)
      rw [under] at named
      contradiction
    | some holder =>
      have held : Holds s now holder id := (holdsIff w id).mpr ⟨m, got, under⟩
      by_cases own : holder = c
      · simp only [if_pos own]
        exact .held (own ▸ held)
      · simp only [if_neg own]
        exact .other held own

theorem Deletion.told (w : WellFormed s) {answer : Outcome Unit} {t : Store} (deletion : Deletion s now id c answer t) :
    Told s now id c answer where
  done := by
    cases deletion with
    | gone none => exact iff_of_true rfl (.inl none)
    | held own => exact iff_of_true rfl (.inr own)
    | free live unheld => exact iff_of_false nofun (not_or.mpr ⟨live, unheld c⟩)
    | other under differ => exact iff_of_false nofun (not_or.mpr ⟨under.live w, fun own => differ (under.unique w own)⟩)
  notClaimed := by
    cases deletion with
    | gone none => exact iff_of_false nofun fun found => found.1 none
    | held own => exact iff_of_false nofun fun found => found.2 c own
    | free live unheld => exact iff_of_true rfl ⟨live, unheld⟩
    | other under => exact iff_of_false nofun fun found => found.2 _ under
  mismatch holder := by
    cases deletion with
    | gone none => exact iff_of_false nofun fun found => found.1.live w none
    | held own => exact iff_of_false nofun fun found => found.2 (found.1.unique w own)
    | free _ unheld => exact iff_of_false nofun fun found => unheld holder found.1
    | @other actual under differ =>
      constructor
      · intro same
        simp only [Except.error.injEq, Error.claimMismatch.injEq, Option.some.injEq, true_and] at same
        have found : actual = holder := congrArg ClaimId.mk same
        exact found ▸ ⟨under, differ⟩
      · intro found
        rw [under.unique w found.1]

theorem postVerdict (s : Store) (call : Call) (drafts : List Draft) :
    Verdict s call.now (.post drafts) ((s.post call.client call.now call.fresh.message drafts).1.map .posted)
      (s.post call.client call.now call.fresh.message drafts).2 := by
  unfold post
  rcases draftsDecided drafts with ⟨valid, passed⟩ | ⟨invalid, reason, refused⟩
  · rw [passed]
    exact .served (not_not_intro valid) nofun
  · rw [refused]
    exact .refused invalid (.inl rfl)

theorem streamPageVerdict (s : Store) (reader : ClientId) (now : Nat) (options : StreamOptions) :
    Verdict s now (.streamPage options) ((s.streamPage reader now options).map .page) s := by
  unfold streamPage
  rcases optionsDecided options with ⟨valid, passed⟩ | ⟨invalid, reason, refused⟩
  · rw [passed]
    cases sent : options.marker with
    | none => exact .served (by simpa [Faulty, sent] using valid) (by simp)
    | some m =>
      cases number : m.number? with
      | none =>
        have parsed : startOf (some m) = .error (.invalidArgument (.streamMarker m.text)) := by
          rw [Marker.number?] at number
          rw [startOf, number]
        rw [parsed]
        exact .refused (.inr ⟨m, sent, number⟩) (.inl rfl)
      | some n =>
        have parsed : startOf (some m) = .ok (n + 1) := by
          rw [Marker.number?] at number
          rw [startOf, number]
        rw [parsed]
        exact .served (by simpa [Faulty, sent, number] using valid) (by simp)
  · rw [refused]
    exact .refused (.inl invalid) (.inl rfl)

theorem Deletion.verdict (w : WellFormed s) {answer : Outcome Unit} {t : Store}
    (deletion : Deletion s now id c answer t) :
    Verdict s now (.deleteByClaim id c) (answer.map fun _ => .done) t := by
  cases deletion with
  | gone none => exact .served (fun faulty => faulty.1 none) nofun
  | held own => exact .served (fun faulty => faulty.2 own) nofun
  | free live unheld => exact .refused ⟨live, unheld c⟩ (.inr rfl)
  | other under differ => exact .refused ⟨under.live w, fun own => differ (under.unique w own)⟩ (.inr rfl)

theorem claimVerdict (s : Store) (now : Nat) (c : ClaimId) (request : ClaimRequest) :
    Verdict s now (.claim request) ((s.claim now c request).1.map .messages) (s.claim now c request).2 := by
  unfold claim
  rcases claimDecided request with ⟨valid, passed⟩ | ⟨invalid, reason, refused⟩
  · rw [passed]
    dsimp only
    split
    · exact .served (not_not_intro valid) nofun
    · exact .served (not_not_intro valid) nofun
  · rw [refused]
    exact .refused invalid (.inl rfl)

theorem renewVerdict (s : Store) (now : Nat) (c : ClaimId) (ttl grace : Duration) :
    Verdict s now (.renew c ttl grace) ((s.renew now c ttl grace).1.map .renewed) (s.renew now c ttl grace).2 := by
  unfold renew
  rcases renewalDecided c ttl grace with ⟨valid, passed⟩ | ⟨invalid, reason, refused⟩
  · rw [passed]
    dsimp only
    cases (s.purge now).hold? c with
    | none => exact .lapsed (not_not_intro valid)
    | some h => exact .served (not_not_intro valid) nofun
  · rw [refused]
    exact .refused invalid (.inl rfl)

theorem verdict (w : WellFormed s) (call : Call) :
    Verdict s call.now call.command (s.answer call) (s.after call) := by
  obtain ⟨client, now, ids, command⟩ := call
  cases command with
  | post drafts => exact postVerdict s ⟨client, now, ids, .post drafts⟩ drafts
  | streamPage options => exact streamPageVerdict s client now options
  | deleteByClaim id c => exact (deletion w now id c).verdict w
  | claim request => exact claimVerdict s now ids.claim request
  | renew c ttl grace => exact renewVerdict s now c ttl grace
  | get | list | getClaim | delete | deleteMany | release => exact .served (not_not_intro trivial) nofun

variable {command : Command} {answer : Outcome Answer} {t : Store}

theorem Verdict.faulty (verdict : Verdict s now command answer t) :
    (∃ e, answer = .error e) ↔ Faulty s now command := by
  cases verdict with
  | refused faulty => exact iff_of_true ⟨_, rfl⟩ faulty
  | lapsed sound | served sound => exact iff_of_false (fun refused => nomatch refused) sound

theorem Verdict.kept (verdict : Verdict s now command answer t) (refused : Refused answer) :
    t = s ∨ t = s.purge now := by
  cases verdict with
  | refused _ kept => exact kept
  | lapsed => exact .inr rfl
  | @served answer _ _ other =>
    cases answer with
    | renewed alive =>
      cases alive with
      | true => exact refused.elim
      | false => exact absurd rfl other
    | _ => exact refused.elim

theorem observedAfterPurge (w : WellFormed s) (fresh : FreshFor s (moves.filterMap Move.call?))
    (timed : moves.Pairwise (·.now ≤ ·.now)) (order : ∀ move ∈ moves, now ≤ move.now) :
    (s.purge now).observed moves = s.observed moves := by
  have purged := observedAlike (w.purged now) w (fresh.purged w now) fresh timed
    fun move member => w.purgeTwice (order move member)
  exact purged.trans (observedAlike w w fresh fresh timed fun _ _ => rfl).symm

theorem refusedUnseen (w : WellFormed s) (refused : Refused (s.answer call))
    (fresh : FreshFor s (moves.filterMap Move.call?)) (timed : moves.Pairwise (·.now ≤ ·.now))
    (order : ∀ move ∈ moves, call.now ≤ move.now) : (s.after call).observed moves = s.observed moves := by
  rcases (verdict w call).kept refused with same | purged
  · rw [same]
  · rw [purged, observedAfterPurge w fresh timed order]

theorem refusedAsIfUnasked {calls : List Call} (fresh : FreshIds calls) :
    (∀ now id c, Told (empty.run calls) now id c ((empty.run calls).deleteByClaim now id c).1) ∧
      (∀ call, (∃ e, (empty.run calls).answer call = .error e) ↔ Faulty (empty.run calls) call.now call.command) ∧
      ∀ call, Refused ((empty.run calls).answer call) → ∀ moves, FreshIds (calls ++ moves.filterMap Move.call?) →
        moves.Pairwise (·.now ≤ ·.now) → (∀ move ∈ moves, call.now ≤ move.now) →
        ((empty.run calls).after call).observed moves = (empty.run calls).observed moves := by
  have w := reachedWellFormed fresh
  refine ⟨fun now id c => (deletion w now id c).told w, fun call => (verdict w call).faulty, fun call refused moves freshLater timed order => ?_⟩
  have later : FreshFor (empty.run calls) (moves.filterMap Move.call?) := freshLater.forEmpty.later emptyWellFormed
  exact refusedUnseen w refused later timed order

theorem refusedAfterALapse :
    let request : ClaimRequest := ⟨.ofSeconds 60, .ofSeconds 60, 1⟩
    let calls : List Call := [
      ⟨⟨"a"⟩, 0, .named ["k", "l"] "", .post [⟨.ofSeconds 900, .null⟩, ⟨.ofSeconds 60, .null⟩]⟩,
      ⟨⟨"b"⟩, 1, .named [] "c", .claim request⟩]
    let call : Call := ⟨⟨"b"⟩, 200000000000, .named [] "", .deleteByClaim ⟨"k"⟩ ⟨"c"⟩⟩
    let moves : List Move := [
      .count 200000000000,
      .ask ⟨⟨"d"⟩, 200000000001, .named [] "e", .claim request⟩,
      .ask ⟨⟨"b"⟩, 200000000002, .named [] "", .get ⟨"k"⟩⟩]
    let s := empty.run calls
    FreshIds calls ∧ FreshIds (calls ++ moves.filterMap Move.call?) ∧ (s.messages.length, s.holds.length) = (2, 1) ∧
      ((s.after call).messages.length, (s.after call).holds.length) = (1, 0) ∧
      s.answer call = .error (.notClaimed "k") ∧ (s.after call).observed moves = s.observed moves := by
  intro request calls call moves
  dsimp only
  have fresh : FreshIds calls := by decide
  have freshLater : FreshIds (calls ++ moves.filterMap Move.call?) := by decide
  have told : ((empty.run calls).deleteByClaim call.now ⟨"k"⟩ ⟨"c"⟩).1 = .error (.notClaimed "k") := by decide +kernel
  have asked (s : Store) : s.answer call = (s.deleteByClaim call.now ⟨"k"⟩ ⟨"c"⟩).1.map fun _ => .done := rfl
  have refused : (empty.run calls).answer call = .error (.notClaimed "k") := by rw [asked, told, Except.map]
  refine ⟨fresh, freshLater, by decide +kernel, by decide +kernel, refused, ?_⟩
  refine (refusedAsIfUnasked fresh).2.2 call ?_ moves freshLater (by decide) (by decide)
  rw [refused]
  trivial

end CloudClient.Queue.Store
