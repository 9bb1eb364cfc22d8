import CloudClient.Proofs.Queue.Run
/-! How long a posted message can be got: until it is deleted or until the last of the ends that its own
lifetime, the claims that took it and their renewals have given it. It is never lost before and never
comes back after, and what was posted stays as it was. -/
namespace CloudClient.Queue

def Stored.origin (m : Stored) : MessageId × Json × Duration × Nat := (m.id, m.body, m.ttl, m.created)

namespace Store

def Deletes (id : MessageId) : Command → Outcome Answer → Prop
  | .delete other, _ => other = id
  | .deleteMany ids, _ => id ∈ ids
  | .deleteByClaim other _, .ok _ => other = id
  | _, _ => False

def prolongs (id : MessageId) (s : Store) (now : Nat) : Command → Outcome Answer → Option Nat
  | .claim request, .ok (.messages shown) =>
    if ∃ m ∈ shown, m.id = id then some (now + request.ttl.nanos + request.grace.nanos) else none
  | .renew c ttl grace, .ok (.renewed true) =>
    if (s.get now id).bind (·.claim) = some c then some (now + ttl.nanos + grace.nanos) else none
  | _, _ => none

def Event.Deletes (id : MessageId) (e : Event) : Prop := Store.Deletes id e.call.command e.answer

def Event.prolongs (id : MessageId) (e : Event) : Option Nat :=
  Store.prolongs id e.before e.call.now e.call.command e.answer

def latestEnd (id : MessageId) (ends : Nat) (events : List Event) : Nat :=
  (events.filterMap (Event.prolongs id)).foldl max ends

inductive Lasting (origin : MessageId × Json × Duration × Nat) (limit ends : Nat) (s : Store) : Prop
  | stored {m} (member : m ∈ s.messages) (same : m.origin = origin) (expires : m.expires = ends)
  | gone (absent : ∀ m ∈ s.messages, m.id ≠ origin.1) (past : ends ≤ limit)

variable {s t : Store} {call : Call} {origin : MessageId × Json × Duration × Nat} {limit ends : Nat}

theorem grantingOrigin (c : ClaimId) (time : Nat) (seqs : List Nat) (m : Stored) :
    (granting c time seqs m).origin = m.origin := by
  unfold granting
  split <;> rfl

theorem renewingOrigin (h : Hold) (m : Stored) : (renewing h m).origin = m.origin := by
  unfold renewing
  split <;> rfl

theorem Lasting.purge (w : WellFormed s) {now : Nat} (order : now ≤ limit)
    (lasting : Lasting origin limit ends s) : Lasting origin limit ends (s.purge now) := by
  cases lasting with
  | gone absent past =>
    refine .gone (fun m member => ?_) past
    obtain ⟨n, hn, _, rfl⟩ := w.purgeMember.mp member
    exact absent n hn
  | @stored m member same expires =>
    by_cases lives : now < m.expires
    · exact .stored (w.purgeMember.mpr ⟨m, member, lives, rfl⟩) same expires
    · refine .gone (fun n hn named => ?_) (by omega)
      obtain ⟨x, hx, livesOther, rfl⟩ := w.purgeMember.mp hn
      cases w.keyed.sameId hx member (named.trans (congrArg Prod.fst same).symm)
      exact lives livesOther

theorem Lasting.posted (lasting : Lasting origin limit ends s) {new : List Stored}
    (messages : t.messages = s.messages ++ new) (unused : ∀ m ∈ new, m.id ≠ origin.1) :
    Lasting origin limit ends t := by
  cases lasting with
  | stored member same expires =>
    exact .stored (messages ▸ List.mem_append_left _ member) same expires
  | gone absent past =>
    refine .gone (fun m member => ?_) past
    rw [messages] at member
    rcases List.mem_append.mp member with old | appended
    · exact absent m old
    · exact unused m appended

theorem Lasting.kept (lasting : Lasting origin limit ends s) {keep : Stored → Bool}
    (keeps : ∀ m, m.id = origin.1 → keep m = true) : Lasting origin limit ends (s.kept keep) := by
  cases lasting with
  | stored member same expires =>
    exact .stored (List.mem_filter.mpr ⟨member, keeps _ (congrArg Prod.fst same)⟩) same expires
  | gone absent past => exact .gone (fun m member => absent m (List.mem_filter.mp member).1) past

theorem Lasting.dismissed (lasting : Lasting origin limit ends s) (ended : ClaimId → Bool) :
    Lasting origin limit ends (s.dismissed ended) := by
  cases lasting with
  | stored member same expires => exact .stored (List.mem_map_of_mem member) same expires
  | gone absent past =>
    refine .gone (fun m member => ?_) past
    obtain ⟨n, hn, rfl⟩ := List.mem_map.mp member
    exact absent n hn

theorem Lasting.granted (lasting : Lasting origin limit ends s) (k : Keyed s) (now : Nat) (c : ClaimId)
    (request : ClaimRequest) {taken : List Stored} (part : taken.Sublist s.messages) :
    Lasting origin limit (if ∃ m ∈ taken, m.id = origin.1 then max ends (now + request.hold.nanos) else ends)
      (s.granted now c request taken) := by
  cases lasting with
  | @stored m member same expires =>
    have named : m.id = origin.1 := congrArg Prod.fst same
    refine .stored (List.mem_map_of_mem member) ((grantingOrigin _ _ _ m).trans same) ?_
    by_cases listed : m.seq ∈ taken.map (·.seq)
    · obtain ⟨n, hn, sameSeq⟩ := List.mem_map.mp listed
      cases k.sameSeq (part.subset hn) member sameSeq
      rw [granting, if_pos listed, if_pos ⟨m, hn, named⟩, ← expires]
      rfl
    · have untaken : ¬ ∃ n ∈ taken, n.id = origin.1 := by
        rintro ⟨n, hn, sameId⟩
        cases k.sameId (part.subset hn) member (sameId.trans named.symm)
        exact listed (List.mem_map_of_mem hn)
      rw [granting, if_neg listed, if_neg untaken, expires]
  | gone absent past =>
    have untaken : ¬ ∃ n ∈ taken, n.id = origin.1 := by
      rintro ⟨n, hn, same⟩
      exact absent n (part.subset hn) same
    rw [if_neg untaken]
    refine .gone (fun m member => ?_) past
    obtain ⟨n, hn, rfl⟩ := List.mem_map.mp member
    rw [grantingId]
    exact absent n hn

theorem getUnder (w : WellFormed s) {now : Nat} {m : Stored} (member : m ∈ (s.purge now).messages) :
    (s.get now m.id).bind (·.claim) = m.claim := by
  rw [(gotPurged w).mpr ⟨m, member, rfl, rfl⟩]
  exact w.purgeHolder member

theorem Lasting.renewed (w : WellFormed s) {now : Nat} (lasting : Lasting origin limit ends (s.purge now))
    (h : Hold) :
    Lasting origin limit
      (if (s.get now origin.1).bind (·.claim) = some h.id then max ends h.until else ends)
      ((s.purge now).renewed h) := by
  cases lasting with
  | @stored m member same expires =>
    have named : m.id = origin.1 := congrArg Prod.fst same
    refine .stored (List.mem_map_of_mem member) ((renewingOrigin h m).trans same) ?_
    rw [← named, getUnder w member, renewing]
    split
    · exact congrArg (max · h.until) expires
    · exact expires
  | gone absent past =>
    rw [← getAfterPurge w, getAbsent (w.purged now).keyed absent, if_neg (by simp)]
    refine .gone (fun m member => ?_) past
    obtain ⟨n, hn, rfl⟩ := List.mem_map.mp member
    rw [(renewingSame h n).1]
    exact absent n hn

theorem prolongedIf (ends time : Nat) (p : Prop) [Decidable p] :
    (if p then some time else none).elim ends (max ends) = if p then max ends time else ends := by
  split <;> rfl

theorem prolongsByClaim (id : MessageId) (s : Store) (now : Nat) (request : ClaimRequest) (c : ClaimId)
    (taken : List Stored) :
    Store.prolongs id s now (.claim request) (.ok (.messages (taken.map (handed c now)))) =
      if ∃ m ∈ taken, m.id = id then some (now + request.hold.nanos) else none := by
  simp only [Store.prolongs, List.mem_map, exists_exists_and_eq_and, handed, ClaimRequest.hold,
    Duration.nanos_add, Nat.add_assoc]

theorem Effect.lasting (w : WellFormed s) {command : Command} {answer : Outcome Answer}
    (effect : Effect s call command answer t) (own : call.command = command)
    (undeleted : ¬ Deletes origin.1 command answer) (unused : origin.1 ∉ call.messageIds)
    (order : call.now ≤ limit) (lasting : Lasting origin limit ends s) :
    Lasting origin limit ((Store.prolongs origin.1 s call.now command answer).elim ends (max ends)) t := by
  have p := w.purged call.now
  have purged := lasting.purge w order
  cases effect with
  | read reads => cases command <;> first | contradiction | exact lasting
  | refused => cases command <;> exact lasting
  | posted _ _ messages =>
    exact purged.posted messages (queuedUnused own unused s.nextSeq)
  | deleted => exact purged.kept fun m same => bne_iff_ne.mpr fun named => undeleted (named.symm.trans same)
  | deletedMany =>
    refine purged.kept fun m same => ?_
    rw [same, Bool.not_eq_true', List.contains_eq_mem, decide_eq_false_iff_not]
    exact undeleted
  | deletedHeld => exact purged.kept fun m same => bne_iff_ne.mpr fun named => undeleted (named.symm.trans same)
  | notDeleted | lapsed => exact purged
  | nothing =>
    have unshown : ¬ ∃ m ∈ ([] : List Message), m.id = origin.1 := by simp
    rw [Store.prolongs, if_neg unshown]
    exact purged
  | @claimed request =>
    rw [prolongsByClaim, prolongedIf]
    exact purged.granted p.keyed call.now call.fresh.claim request (chosenPart _ request.limit)
  | @renewed d ttl grace h member named =>
    rw [Store.prolongs, prolongedIf, ← named]
    exact purged.renewed w { h with ttl, grace, created := call.now }
  | released => exact purged.dismissed _

theorem Effect.removes {id : MessageId} {command : Command} {answer : Outcome Answer}
    (effect : Effect s call command answer t) (deletes : Deletes id command answer) :
    ∀ m ∈ t.messages, m.id ≠ id := by
  cases effect with
  | read reads => cases command <;> contradiction
  | refused checked => cases command <;> contradiction
  | deleted | deletedHeld =>
    intro m member
    rw [← show _ = id from deletes]
    exact bne_iff_ne.mp (List.mem_filter.mp member).2
  | deletedMany =>
    rintro m member rfl
    have unlisted := (List.mem_filter.mp member).2
    rw [Bool.not_eq_true', List.contains_eq_mem, decide_eq_false_iff_not] at unlisted
    exact unlisted deletes
  | posted | notDeleted | claimed | nothing | renewed | lapsed | released => contradiction

variable {calls : List Call}

theorem latestEndCons (e : Event) (id : MessageId) (events : List Event) :
    latestEnd id ends (e :: events) = latestEnd id ((e.prolongs id).elim ends (max ends)) events := by
  unfold latestEnd
  cases given : e.prolongs id with
  | none => rw [List.filterMap_cons_none given, Option.elim_none]
  | some time => rw [List.filterMap_cons_some given, List.foldl_cons, Option.elim_some]

theorem lastingRun (w : WellFormed s) (fresh : FreshFor s calls)
    (undeleted : ∀ e ∈ s.history calls, ¬ e.Deletes origin.1)
    (unused : origin.1 ∉ calls.flatMap Call.messageIds) (order : ∀ call ∈ calls, call.now ≤ limit)
    (lasting : Lasting origin limit ends s) :
    Lasting origin limit (latestEnd origin.1 ends (s.history calls)) (s.run calls) := by
  induction calls generalizing s ends with
  | nil => exact lasting
  | cons call calls ih =>
    obtain ⟨undeleted, undeletedLater⟩ := List.forall_mem_cons.mp undeleted
    obtain ⟨order, orderLater⟩ := List.forall_mem_cons.mp order
    rw [List.flatMap_cons, List.mem_append, not_or] at unused
    have first := (performed w fresh.head).lasting w rfl undeleted unused.1 order lasting
    have later := ih (afterWellFormed w fresh.head) (fresh.tail w) undeletedLater unused.2 orderLater first
    rw [history, latestEndCons]
    exact later

theorem absentRun (w : WellFormed s) (fresh : FreshFor s calls) {id : MessageId}
    (unused : id ∉ calls.flatMap Call.messageIds) (absent : id ∉ s.messages.map (·.id)) :
    id ∉ (s.run calls).messages.map (·.id) :=
  fun stored => (runIds w fresh id stored).elim absent unused

theorem deletedRun (w : WellFormed s) (fresh : FreshFor s calls) {id : MessageId}
    (unused : id ∉ calls.flatMap Call.messageIds)
    (deleted : ∃ e ∈ s.history calls, e.Deletes id) : id ∉ (s.run calls).messages.map (·.id) := by
  induction calls generalizing s with
  | nil => simp [history] at deleted
  | cons call calls ih =>
    have well := afterWellFormed w fresh.head
    rw [List.flatMap_cons, List.mem_append, not_or] at unused
    obtain ⟨e, member, deletes⟩ := deleted
    rcases List.mem_cons.mp member with rfl | later
    · refine absentRun well (fresh.tail w) unused.2 fun stored => ?_
      obtain ⟨m, hm, named⟩ := List.mem_map.mp stored
      exact (performed w fresh.head).removes deletes m hm named
    · exact ih well (fresh.tail w) unused.2 ⟨e, later, deletes⟩

theorem queuedMember {author : ClientId} {now seq : Nat} {batch : List (MessageId × Draft)}
    {id : MessageId} {d : Draft} (member : (id, d) ∈ batch) :
    ∃ m ∈ queued author now seq batch,
      m.origin = (id, d.body, d.ttl, now) ∧ m.expires = now + d.ttl.nanos := by
  induction batch generalizing seq with
  | nil => cases member
  | cons entry rest ih =>
    rcases List.mem_cons.mp member with rfl | later
    · exact ⟨_, List.mem_cons_self, rfl, rfl⟩
    · obtain ⟨m, hm, facts⟩ := ih later
      exact ⟨m, List.mem_cons_of_mem _ hm, facts⟩

theorem storedByPost {drafts : List Draft} {ids : List MessageId} {id : MessageId} {d : Draft}
    (effect : Effect s call (.post drafts) (.ok (.posted ids)) t) (posted : (id, d) ∈ ids.zip drafts) :
    ∃ m ∈ t.messages, m.origin = (id, d.body, d.ttl, call.now) ∧ m.expires = call.now + d.ttl.nanos := by
  cases effect with
  | read reads => contradiction
  | posted _ _ messages =>
    rw [batchZip] at posted
    obtain ⟨m, member, facts⟩ := queuedMember posted
    exact ⟨m, messages ▸ List.mem_append_right _ member, facts⟩

theorem Lasting.get (k : Keyed s) (lasting : Lasting origin limit ends s) :
    (s.get limit origin.1).isSome ↔ limit < ends := by
  rw [Option.isSome_iff_exists]
  constructor
  · rintro ⟨seen, found⟩
    obtain ⟨n, hn, named, lives, _⟩ := (getIff k).mp found
    cases lasting with
    | gone absent => exact absurd named (absent n hn)
    | stored member same expires =>
      rw [← expires, ← k.sameId hn member (named.trans (congrArg Prod.fst same).symm)]
      exact lives
  · intro lives
    cases lasting with
    | gone _ past => exact absurd lives (Nat.not_lt.mpr past)
    | @stored m member same expires =>
      exact ⟨s.view m limit, (getIff k).mpr ⟨m, member, congrArg Prod.fst same, expires ▸ lives, rfl⟩⟩

theorem Lasting.seen (k : Keyed s) (lasting : Lasting origin limit ends s) {now : Nat} {seen : Message}
    (found : s.get now origin.1 = some seen) :
    seen.id = origin.1 ∧ seen.body = origin.2.1 ∧ seen.ttl = origin.2.2.1 ∧
      seen.age = ⟨now - origin.2.2.2⟩ := by
  obtain ⟨n, hn, named, _, rfl⟩ := (getIff k).mp found
  cases lasting with
  | gone absent => exact absurd named (absent n hn)
  | stored member same =>
    cases k.sameId hn member (named.trans (congrArg Prod.fst same).symm)
    cases same
    exact ⟨rfl, rfl, rfl, rfl⟩

theorem gotUntilTheEnd {before later : List Call} {post : Call} {drafts : List Draft}
    {ids : List MessageId} {id : MessageId} {d : Draft} {now : Nat}
    (fresh : FreshIds (before ++ post :: later)) (past : ∀ call ∈ post :: later, call.now ≤ now)
    (posts : post.command = .post drafts)
    (ok : (empty.run before).answer post = .ok (.posted ids)) (posted : (id, d) ∈ ids.zip drafts) :
    let since := (empty.run (before ++ [post])).history later
    let found := (empty.run (before ++ post :: later)).get now id
    (found.isSome ↔ (∀ e ∈ since, ¬ e.Deletes id) ∧ now < latestEnd id (post.now + d.ttl.nanos) since) ∧
      ∀ m, found = some m →
        m.id = id ∧ m.body = d.body ∧ m.ttl = d.ttl ∧ m.age = ⟨now - post.now⟩ := by
  have next : FreshFor (empty.run before) (post :: later) := fresh.forEmpty.later emptyWellFormed
  have w : WellFormed (empty.run before) := runWellFormed emptyWellFormed fresh.forEmpty.earlier
  have well := afterWellFormed w next.head
  have afterwards := next.tail w
  -- the id is given now, so no later call gives it again: what is deleted stays away
  obtain ⟨m, member, same, expires⟩ := storedByPost (answered w next.head posts ok) posted
  have named : m.id = id := congrArg Prod.fst same
  have unused := named ▸ storedNotPosted afterwards member
  have reached := (runWellFormed well afterwards).keyed
  rw [runAppend, runAppend]
  intro since found
  by_cases deleted : ∃ e ∈ since, e.Deletes id
  · have absent := deletedRun well afterwards unused deleted
    have none : found = none := getAbsent reached fun m member named =>
      absent (List.mem_map.mpr ⟨m, member, named⟩)
    obtain ⟨e, he, deletes⟩ := deleted
    rw [none]
    refine ⟨⟨fun some => ?_, fun kept => absurd deletes (kept.1 e he)⟩, fun m got => ?_⟩ <;> contradiction
  · have undeleted : ∀ e ∈ since, ¬ e.Deletes id := fun e he deletes => deleted ⟨e, he, deletes⟩
    have lasting : Lasting (id, d.body, d.ttl, post.now) now
        (latestEnd id (post.now + d.ttl.nanos) since) _ :=
      lastingRun well afterwards undeleted unused
        (fun call later => past call (List.mem_cons_of_mem _ later)) (.stored member same expires)
    exact ⟨(lasting.get reached).trans (and_iff_right undeleted).symm, fun m => lasting.seen reached⟩

theorem gotUntilTheClaimEnds :
    let d : Draft := ⟨.ofSeconds 300, .null⟩
    let post : Call := ⟨⟨"a"⟩, 0, .named ["m"] "", .post [d]⟩
    let later : List Call :=
      [⟨⟨"b"⟩, 200000000000, .named [] "c", .claim ⟨.ofSeconds 120, .ofSeconds 60, 1⟩⟩]
    let since := (empty.run ([] ++ [post])).history later
    let found := (empty.run ([] ++ post :: later)).get 379999999999 ⟨"m"⟩
    latestEnd ⟨"m"⟩ (post.now + d.ttl.nanos) since = 380000000000 ∧
      (found.isSome ↔ (∀ e ∈ since, ¬ e.Deletes ⟨"m"⟩) ∧
        379999999999 < latestEnd ⟨"m"⟩ (post.now + d.ttl.nanos) since) ∧
      ∀ m, found = some m →
        m.id = ⟨"m"⟩ ∧ m.body = d.body ∧ m.ttl = d.ttl ∧ m.age = ⟨379999999999 - post.now⟩ := by
  intro d post later since found
  have fresh : FreshIds ([] ++ post :: later) := by decide
  have past : ∀ call ∈ post :: later, call.now ≤ 379999999999 := by decide
  have posted : (⟨"m"⟩, d) ∈ [(⟨"m"⟩ : MessageId)].zip [d] := List.mem_cons_self
  exact ⟨by decide, gotUntilTheEnd fresh past rfl rfl posted⟩

end Store
end CloudClient.Queue
