import CloudClient.Proofs.Queue.Run
/-! Purging goes unseen. Every writer starts with a purge and every reader looks past what a purge would
drop, so two stores that a purge makes equal give the same answers now and at every later time. -/
namespace CloudClient.Queue.Store

/-- A purge is a move of its own here: no call asks for it and nothing comes back. -/
inductive Move
  | ask (call : Call)
  | count (now : Nat)
  | purge (now : Nat)

inductive Seen
  | answer (answer : Outcome Answer)
  | count (size : Nat)

def Move.now : Move → Nat
  | .ask call => call.now
  | .count now | .purge now => now

def Move.call? : Move → Option Call
  | .ask call => some call
  | .count _ | .purge _ => none

def Move.purges : Move → Bool
  | .purge _ => true
  | .ask _ | .count _ => false

def seen (s : Store) : Move → Option Seen
  | .ask call => some (.answer (s.answer call))
  | .count now => some (.count (s.size now))
  | .purge _ => none

def moved (s : Store) : Move → Store
  | .ask call => s.after call
  | .count _ => s
  | .purge now => s.purge now

def driven (s : Store) (moves : List Move) : Store := moves.foldl moved s

def observed (s : Store) : List Move → List Seen
  | [] => []
  | move :: moves => (s.seen move).toList ++ (s.moved move).observed moves

variable {s s' : Store} {move : Move} {moves : List Move}

theorem answerAfterPurge (w : WellFormed s) (call : Call) :
    (s.purge call.now).answer call = s.answer call := by
  obtain ⟨client, now, ids, command⟩ := call
  have twice : (s.purge now).purge now = s.purge now := w.purgeTwice (Nat.le_refl now)
  cases command with
  | streamPage options => exact congrArg (Except.map _) (streamPageAfterPurge w client options)
  | get id => exact congrArg (fun m => Except.ok (Answer.message m)) (getAfterPurge w id)
  | list ids => exact congrArg (fun shown => Except.ok (Answer.messages shown)) (viewAllAfterPurge w ids)
  | getClaim c => exact congrArg (fun held => Except.ok (Answer.claim held)) (getClaimAfterPurge w c)
  | delete | deleteMany | release => rfl
  | deleteByClaim id c => simp only [answer, perform, deleteByClaim, twice]
  | post drafts =>
    simp only [answer, perform, post]
    cases Draft.validateAll drafts <;> rfl
  | claim request =>
    simp only [answer, perform, claim, twice]
    cases request.validate <;> rfl
  | renew c ttl grace =>
    simp only [answer, perform, renew, twice]
    cases (ClaimRequest.new ttl grace).validate <;> rfl

theorem afterOfPurge (w : WellFormed s) (call : Call) :
    ((s.purge call.now).after call).purge call.now = (s.after call).purge call.now := by
  obtain ⟨client, now, ids, command⟩ := call
  have twice : (s.purge now).purge now = s.purge now := w.purgeTwice (Nat.le_refl now)
  cases command with
  | streamPage | get | list | getClaim => exact twice
  | delete | deleteMany | release => simp only [after, perform, delete, deleteMany, release, twice]
  | deleteByClaim id c => simp only [after, perform, deleteByClaim, twice]
  | post drafts =>
    simp only [after, perform, post, twice]
    cases Draft.validateAll drafts with
    | error e => exact twice
    | ok _ => rfl
  | claim request =>
    simp only [after, perform, claim, twice]
    cases request.validate with
    | error e => exact twice
    | ok _ => rfl
  | renew c ttl grace =>
    simp only [after, perform, renew, twice]
    cases (ClaimRequest.new ttl grace).validate with
    | error e => exact twice
    | ok _ => rfl

theorem seenAfterPurge (w : WellFormed s) (move : Move) : (s.purge move.now).seen move = s.seen move := by
  cases move with
  | ask call => exact congrArg (fun answer => some (Seen.answer answer)) (answerAfterPurge w call)
  | count now => exact congrArg (fun size => some (Seen.count size)) (sizeAfterPurge w)
  | purge now => rfl

theorem movedAfterPurge (w : WellFormed s) (move : Move) :
    ((s.purge move.now).moved move).purge move.now = (s.moved move).purge move.now := by
  cases move with
  | ask call => exact afterOfPurge w call
  | count now => exact w.purgeTwice (Nat.le_refl now)
  | purge now => exact congrArg (·.purge now) (w.purgeTwice (Nat.le_refl now))

theorem alikeLater (w : WellFormed s) (w' : WellFormed s') {earlier later : Nat} (order : earlier ≤ later)
    (alike : s.purge earlier = s'.purge earlier) : s.purge later = s'.purge later := by
  rw [← w.purgeTwice order, alike, w'.purgeTwice order]

theorem seenAlike (w : WellFormed s) (w' : WellFormed s') (alike : s.purge move.now = s'.purge move.now) :
    s.seen move = s'.seen move := by
  rw [← seenAfterPurge w, alike, seenAfterPurge w']

theorem movedAlike (w : WellFormed s) (w' : WellFormed s') (alike : s.purge move.now = s'.purge move.now) :
    (s.moved move).purge move.now = (s'.moved move).purge move.now := by
  rw [← movedAfterPurge w, alike, movedAfterPurge w']

theorem FreshFor.purged {calls : List Call} (w : WellFormed s) (fresh : FreshFor s calls) (now : Nat) :
    FreshFor (s.purge now) calls :=
  ⟨fresh.1.sublist (w.purgeIds.append_right _), fresh.2.sublist (w.purgeClaims.append_right _)⟩

theorem movedWellFormed (w : WellFormed s) (fresh : FreshFor s ((move :: moves).filterMap Move.call?)) :
    WellFormed (s.moved move) ∧ FreshFor (s.moved move) (moves.filterMap Move.call?) := by
  cases move with
  | ask call => exact ⟨afterWellFormed w fresh.head, fresh.tail w⟩
  | count now => exact ⟨w, fresh⟩
  | purge now => exact ⟨w.purged now, fresh.purged w now⟩

theorem drivenWellFormed (w : WellFormed s) (fresh : FreshFor s (moves.filterMap Move.call?)) :
    WellFormed (s.driven moves) := by
  induction moves generalizing s with
  | nil => exact w
  | cons move moves ih =>
    obtain ⟨well, later⟩ := movedWellFormed w fresh
    exact ih well later

theorem observedAlike (w : WellFormed s) (w' : WellFormed s')
    (fresh : FreshFor s (moves.filterMap Move.call?)) (fresh' : FreshFor s' (moves.filterMap Move.call?))
    (timed : moves.Pairwise (·.now ≤ ·.now))
    (alike : ∀ move ∈ moves, s.purge move.now = s'.purge move.now) :
    s.observed moves = s'.observed (moves.filter (!·.purges)) := by
  induction moves generalizing s s' with
  | nil => rfl
  | cons move moves ih =>
    obtain ⟨order, timedLater⟩ := List.pairwise_cons.mp timed
    obtain ⟨well, later⟩ := movedWellFormed w fresh
    have now := alike move List.mem_cons_self
    cases move with
    -- only the store on the left makes this move
    | purge time =>
      have skipped : ∀ move ∈ moves, (s.purge time).purge move.now = s'.purge move.now :=
        fun move member => (w.purgeTwice (order move member)).trans (alike move (List.mem_cons_of_mem _ member))
      exact ih well w' later fresh' timedLater skipped
    | ask | count =>
      obtain ⟨well', later'⟩ := movedWellFormed w' fresh'
      have shared := ih well well' later later' timedLater fun move member =>
        alikeLater well well' (order move member) (movedAlike w w' now)
      rw [List.filter_cons_of_pos rfl, observed, observed, seenAlike w w' now, shared]

theorem purgingUnobserved (moves : List Move) (fresh : FreshIds (moves.filterMap Move.call?)) :
    (moves.Pairwise (·.now ≤ ·.now) →
      empty.observed moves = empty.observed (moves.filter (!·.purges))) ∧
    (∀ move, ((empty.driven moves).purge move.now).seen move = (empty.driven moves).seen move) ∧
    ∀ earlier later, earlier ≤ later →
      ((empty.driven moves).purge earlier).purge later = (empty.driven moves).purge later := by
  have reached := drivenWellFormed emptyWellFormed fresh.forEmpty
  refine ⟨fun timed => ?_, seenAfterPurge reached, fun _ _ order => reached.purgeTwice order⟩
  exact observedAlike emptyWellFormed emptyWellFormed fresh.forEmpty fresh.forEmpty timed fun _ _ => rfl

theorem purgedBetweenClaims :
    let request : ClaimRequest := ⟨.ofSeconds 60, .ofSeconds 60, 1⟩
    let moves : List Move := [
      .ask ⟨⟨"a"⟩, 0, .named ["m"] "", .post [⟨.ofSeconds 900, .null⟩]⟩,
      .ask ⟨⟨"b"⟩, 1, .named [] "c", .claim request⟩,
      .purge 2,
      .count 500000000000,
      .purge 600000000000,
      .ask ⟨⟨"b"⟩, 700000000000, .named [] "d", .claim request⟩,
      .ask ⟨⟨"a"⟩, 800000000000, .named [] "", .get ⟨"m"⟩⟩]
    FreshIds (moves.filterMap Move.call?) ∧ moves.Pairwise (·.now ≤ ·.now) ∧
      empty.observed moves = empty.observed (moves.filter (!·.purges)) :=
  ⟨by decide, by decide, (purgingUnobserved _ (by decide)).1 (by decide)⟩

end CloudClient.Queue.Store
