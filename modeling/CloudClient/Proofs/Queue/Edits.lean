import CloudClient.Proofs.Queue.Waiting
/-! Deletions, releases and renewals at one time, in any order. Each of them purges the store and then changes
every message and every claim on its own, so two of them can be exchanged whenever what they do to a single
message and to a single claim can. -/
namespace CloudClient.Queue

inductive Edit
  | delete (id : MessageId)
  | deleteMany (ids : List MessageId)
  | release (claim : ClaimId)
  | renew (claim : ClaimId) (ttl grace : Duration)

namespace Edit

def command : Edit → Command
  | delete id => .delete id
  | deleteMany ids => .deleteMany ids
  | release c => .release c
  | renew c ttl grace => .renew c ttl grace

def claim? : Edit → Option ClaimId
  | release c | renew c _ _ => some c
  | delete _ | deleteMany _ => none

def renews : Edit → Bool
  | renew .. => true
  | _ => false

def Clash (a b : Edit) : Prop := (a.renews ∨ b.renews) ∧ ∃ c, a.claim? = some c ∧ b.claim? = some c

def check : Edit → Outcome Unit
  | renew _ ttl grace => (ClaimRequest.new ttl grace).validate
  | _ => .ok ()

def call (e : Edit) (client : ClientId) (now : Nat) (fresh : Store.Fresh) : Store.Call :=
  ⟨client, now, fresh, e.command⟩

end Edit

namespace Store

structure Exchangeable (s : Store) (a b : Call) : Prop where
  first : (s.after b).answer a = s.answer a
  second : (s.after a).answer b = s.answer b
  final : (s.after a).after b = (s.after b).after a

theorem Exchangeable.symm {s : Store} {a b : Call} (exchangeable : Exchangeable s a b) : Exchangeable s b a :=
  ⟨exchangeable.second, exchangeable.first, exchangeable.final.symm⟩

/-- What becomes of single messages and claims. The lists of the claims follow from the messages. -/
structure Change where
  keeps : MessageId → Bool
  ends : ClaimId → Bool
  message : Stored → Stored
  hold : Hold → Hold
  sameMessage : ∀ m, (message m).id = m.id
  sameHold : ∀ h, (hold h).id = h.id
  unlisted : ∀ h list, hold { h with messages := list } = { hold h with messages := list }

def changed (s : Store) (e : Change) : Store :=
  rebuilt { s with
    messages := (s.messages.filter (e.keeps ·.id)).map e.message
    holds := (s.holds.filter (!e.ends ·.id)).map e.hold }

namespace Change

def erasing (keeps : MessageId → Bool) : Change :=
  ⟨keeps, fun _ => false, id, id, fun _ => rfl, fun _ => rfl, fun _ _ => rfl⟩

def releasing (c : ClaimId) : Change :=
  ⟨fun _ => true, (· == c), Stored.unclaimed (· == c), id, fun _ => rfl, fun _ => rfl, fun _ _ => rfl⟩

def renewing (terms : Hold) : Change where
  keeps _ := true
  ends _ := false
  message := Store.renewing terms
  hold h := if h.id = terms.id then { terms with messages := h.messages } else h
  sameMessage m := (renewingSame terms m).1
  sameHold h := by
    split
    · rename_i same
      exact same.symm
    · rfl
  unlisted h list := by
    dsimp only
    split <;> rfl

structure Apart (e f : Change) : Prop where
  message : ∀ m, f.message (e.message m) = e.message (f.message m)
  hold : ∀ h, f.hold (e.hold h) = e.hold (f.hold h)

end Change

variable {s : Store} {now : Nat}

theorem relisted (e : Change) (late early : List Stored) (h : Hold) :
    listing late (e.hold (listing early h)) = listing late (e.hold h) := by
  rw [show listing early h = { h with messages := heldBy early h.id } from rfl, e.unlisted]
  rfl

theorem changedTwice (s : Store) (e f : Change) :
    (s.changed e).changed f = rebuilt { s with
      messages := (s.messages.filter fun m => f.keeps m.id && e.keeps m.id).map fun m => f.message (e.message m)
      holds := (s.holds.filter fun h => !f.ends h.id && !e.ends h.id).map fun h => f.hold (e.hold h) } := by
  have named (messages : List Stored) (h : Hold) : (listing messages h).id = h.id := rfl
  simp only [changed, rebuilt, List.filter_map, List.map_map, List.filter_filter, Function.comp_def, e.sameMessage,
    e.sameHold, named, relisted]

theorem changedInterchanged {e f : Change} (apart : e.Apart f) (s : Store) :
    (s.changed e).changed f = (s.changed f).changed e := by
  rw [changedTwice, changedTwice]
  simp only [apart.message, apart.hold, Bool.and_comm]

theorem unclaimedInterchanged (p q : ClaimId → Bool) (m : Stored) :
    (m.unclaimed p).unclaimed q = (m.unclaimed q).unclaimed p := by
  rw [Stored.unclaimedTwice, Stored.unclaimedTwice]
  simp only [Bool.or_comm]

theorem renewingUnclaimed {terms : Hold} {c : ClaimId} (other : terms.id ≠ c) (m : Stored) :
    Store.renewing terms (m.unclaimed (· == c)) = (Store.renewing terms m).unclaimed (· == c) := by
  have same : (m.unclaimed (· == c)).claim = some terms.id ↔ m.claim = some terms.id := by
    simp only [Stored.unclaimed, Option.filter_eq_some_iff]
    simp [other]
  by_cases under : m.claim = some terms.id
  · rw [Store.renewing, Store.renewing, if_pos (same.mpr under), if_pos under]
    rfl
  · rw [Store.renewing, Store.renewing, if_neg (mt same.mp under), if_neg under]

theorem renewingInterchanged {g h : Hold} (other : g.id ≠ h.id) (m : Stored) :
    Store.renewing g (Store.renewing h m) = Store.renewing h (Store.renewing g m) := by
  -- at most one of the two claims has the message
  by_cases under : m.claim = some g.id
  · have elsewhere (n : Stored) (same : n.claim = m.claim) : Store.renewing h n = n :=
      if_neg fun given => other (Option.some.inj (under.symm.trans (same.symm.trans given)))
    rw [elsewhere m rfl, elsewhere _ (renewingSame g m).2.2.1]
  · have elsewhere (n : Stored) (same : n.claim = m.claim) : Store.renewing g n = n := if_neg (same ▸ under)
    rw [elsewhere m rfl, elsewhere _ (renewingSame h m).2.2.1]

namespace Change.Apart

variable {e f : Change}

theorem symm (apart : e.Apart f) : f.Apart e := ⟨fun m => (apart.message m).symm, fun h => (apart.hold h).symm⟩

theorem erasing (keeps : MessageId → Bool) (e : Change) : (Change.erasing keeps).Apart e := ⟨fun _ => rfl, fun _ => rfl⟩

theorem releasing (c d : ClaimId) : (Change.releasing c).Apart (.releasing d) :=
  ⟨unclaimedInterchanged _ _, fun _ => rfl⟩

theorem renewingReleasing {terms : Hold} {c : ClaimId} (other : terms.id ≠ c) :
    (Change.renewing terms).Apart (.releasing c) :=
  ⟨fun m => (renewingUnclaimed other m).symm, fun _ => rfl⟩

theorem renewing {g h : Hold} (other : g.id ≠ h.id) : (Change.renewing g).Apart (.renewing h) where
  message m := (renewingInterchanged other m).symm
  hold x := by
    simp only [Change.renewing]
    by_cases first : x.id = g.id
    · simp [first, other]
    · by_cases second : x.id = h.id
      · simp [second, other.symm]
      · simp [first, second]

end Change.Apart

theorem changedErasing (s : Store) (keeps : MessageId → Bool) : s.changed (.erasing keeps) = s.kept (keeps ·.id) := by
  simp [changed, Change.erasing, kept, rebuilt]

theorem changedReleasing (s : Store) (c : ClaimId) : s.changed (.releasing c) = s.dismissed (· == c) := by
  simp [changed, Change.releasing, dismissed, rebuilt]

theorem changedWhole (s : Store) (terms : Hold) :
    s.changed (.renewing terms) = rebuilt { s with
      messages := s.messages.map (Store.renewing terms)
      holds := s.holds.map (Change.renewing terms).hold } := by
  simp [changed, Change.renewing]

theorem changedRenewing (w : WellFormed s) {h : Hold} (member : h ∈ s.holds) (terms : Hold) (named : terms.id = h.id) :
    s.changed (.renewing terms) = s.renewed { terms with messages := h.messages } := by
  have well : WellFormed (s.renewed { terms with messages := h.messages }) := w.renewed member named rfl
  have holds : s.holds.map (Change.renewing terms).hold =
      s.holds.map fun other => if other.id = terms.id then { terms with messages := h.messages } else other := by
    refine List.map_congr_left fun other inside => ?_
    by_cases own : other.id = terms.id
    · rw [w.sameClaim inside member (own.trans named)]
      simp [Change.renewing, named]
    · simp [Change.renewing, own]
  rw [← well.determined, changedWhole, holds]
  rfl

theorem changedAbsent (w : WellFormed s) {terms : Hold} (absent : ∀ h ∈ s.holds, h.id ≠ terms.id) :
    s.changed (.renewing terms) = s := by
  have messages : s.messages.map (Store.renewing terms) = s.messages := by
    refine (List.map_congr_left fun m member => if_neg fun under => ?_).trans (List.map_id' _)
    obtain ⟨h, hh, named, _⟩ := w.backed m member _ under
    exact absent h hh named
  have holds : s.holds.map (Change.renewing terms).hold = s.holds :=
    (List.map_congr_left fun h member => if_neg (absent h member)).trans (List.map_id' _)
  rw [changedWhole, messages, holds, w.determined]

theorem heldAfter (s : Store) (e : Change) (c : ClaimId) :
    ((s.changed e).hold? c).isSome = ((s.hold? c).isSome && !e.ends c) := by
  rw [Bool.eq_iff_iff]
  simp only [hold?, changed, rebuilt, List.find?_isSome, List.mem_map, List.mem_filter, Bool.and_eq_true, beq_iff_eq]
  constructor
  · rintro ⟨_, ⟨_, ⟨h, ⟨member, lasts⟩, rfl⟩, rfl⟩, named⟩
    have own : h.id = c := (e.sameHold h).symm.trans named
    exact ⟨⟨h, member, own⟩, own ▸ lasts⟩
  · rintro ⟨⟨h, member, rfl⟩, lasts⟩
    exact ⟨_, ⟨_, ⟨h, ⟨member, lasts⟩, rfl⟩, rfl⟩, e.sameHold h⟩

theorem Live.dismissed (l : Live now s) (ended : ClaimId → Bool) : Live now (s.dismissed ended) where
  toWellFormed := l.toWellFormed.dismissed ended
  lives m member := by
    obtain ⟨n, hn, rfl⟩ := List.mem_map.mp member
    exact l.lives n hn
  valid h member := by
    obtain ⟨g, hg, rfl⟩ := List.mem_map.mp member
    exact l.valid g (List.mem_filter.mp hg).1

theorem Live.renewed (l : Live now s) {g h : Hold} (member : g ∈ s.holds) (sameId : h.id = g.id)
    (sameList : h.messages = g.messages) (lasts : now < h.until) : Live now (s.renewed h) where
  toWellFormed := l.toWellFormed.renewed member sameId sameList
  lives m member := by
    obtain ⟨n, hn, rfl⟩ := List.mem_map.mp member
    exact Nat.lt_of_lt_of_le (l.lives n hn) (renewingLater h n)
  valid other member := by
    obtain ⟨old, hold, rfl⟩ := List.mem_map.mp member
    split
    · exact lasts
    · exact l.valid old hold

end Store

open Store

namespace Edit

def change (now : Nat) : Edit → Change
  | delete id => .erasing (· != id)
  | deleteMany ids => .erasing (!ids.contains ·)
  | release c => .releasing c
  | renew c ttl grace => .renewing ⟨c, ttl, grace, now, []⟩

def reply (s : Store) : Edit → Answer
  | renew c _ _ => .renewed (s.hold? c).isSome
  | _ => .done

variable {s : Store} {now : Nat} {client : ClientId} {fresh : Fresh} {a b : Edit}

theorem refused (e : Edit) {reason : Error} (bad : e.check = .error reason) (s : Store) :
    s.answer (e.call client now fresh) = .error reason ∧ s.after (e.call client now fresh) = s := by
  cases e with
  | delete | deleteMany | release => cases bad
  | renew c ttl grace =>
    have invalid : (ClaimRequest.new ttl grace).validate = .error reason := bad
    simp [answer, after, call, command, perform, Store.renew, invalid, Except.map]

theorem performed (e : Edit) (good : e.check = .ok ()) (w : WellFormed s) (client : ClientId) (fresh : Fresh) :
    s.answer (e.call client now fresh) = .ok (e.reply (s.purge now)) ∧
      s.after (e.call client now fresh) = (s.purge now).changed (e.change now) := by
  have p := w.purged now
  cases e with
  | delete id =>
    rw [change, changedErasing, ← p.erase]
    exact ⟨rfl, rfl⟩
  | deleteMany ids =>
    rw [change, changedErasing, ← p.eraseEach]
    exact ⟨rfl, rfl⟩
  | release c =>
    rw [change, changedReleasing, ← p.free]
    exact ⟨rfl, rfl⟩
  | renew c ttl grace =>
    have valid : (ClaimRequest.new ttl grace).validate = .ok () := good
    simp only [answer, after, call, command, perform, Store.renew, valid, change, reply]
    cases found : (s.purge now).hold? c with
    | none =>
      rw [changedAbsent p (holdNone.mp found)]
      exact ⟨rfl, rfl⟩
    | some h =>
      obtain ⟨member, rfl⟩ := holdSource found
      rw [changedRenewing p member ⟨h.id, ttl, grace, now, []⟩ rfl,
        ← p.extend (h := ⟨h.id, ttl, grace, now, h.messages⟩) member rfl rfl]
      exact ⟨rfl, rfl⟩

theorem live (e : Edit) (good : e.check = .ok ()) (l : Live now s) : Live now (s.changed (e.change now)) := by
  cases e with
  | delete id =>
    rw [change, changedErasing]
    exact l.kept _
  | deleteMany ids =>
    rw [change, changedErasing]
    exact l.kept _
  | release c =>
    rw [change, changedReleasing]
    exact l.dismissed _
  | renew c ttl grace =>
    by_cases held : ∃ h ∈ s.holds, h.id = c
    · obtain ⟨h, member, rfl⟩ := held
      have lasts := ClaimRequest.holdPositive good
      simp only [ClaimRequest.new, ClaimRequest.hold, Duration.nanos_add] at lasts
      rw [change, changedRenewing l.toWellFormed member ⟨h.id, ttl, grace, now, []⟩ rfl]
      refine l.renewed member rfl rfl ?_
      simp only [Hold.until]
      omega
    · rw [change, changedAbsent l.toWellFormed fun h member named => held ⟨h, member, named⟩]
      exact l

theorem changesApart (unlike : ¬ a.Clash b) (now : Nat) : (a.change now).Apart (b.change now) := by
  cases a with
  | delete | deleteMany => exact .erasing _ _
  | release c =>
    cases b with
    | delete | deleteMany => exact (Change.Apart.erasing _ _).symm
    | release d => exact .releasing c d
    | renew d => exact (Change.Apart.renewingReleasing fun same => unlike ⟨.inr rfl, c, rfl, congrArg some same⟩).symm
  | renew c =>
    cases b with
    | delete | deleteMany => exact (Change.Apart.erasing _ _).symm
    | release d => exact .renewingReleasing fun same => unlike ⟨.inl rfl, d, congrArg some same, rfl⟩
    | renew d => exact .renewing fun same => unlike ⟨.inl rfl, d, congrArg some same, rfl⟩

theorem replyUnaffected (unlike : ¬ a.Clash b) (s : Store) (now : Nat) : a.reply (s.changed (b.change now)) = a.reply s := by
  cases a with
  | delete | deleteMany | release => rfl
  | renew c =>
    have lasting : (b.change now).ends c = false := by
      cases b with
      | delete | deleteMany | renew => rfl
      | release d => exact beq_false_of_ne fun same => unlike ⟨.inl rfl, d, congrArg some same, rfl⟩
    simp only [reply, heldAfter, lasting, Bool.not_false, Bool.and_true]

theorem exchangeableRefused (a : Edit) {reason : Error} (bad : a.check = .error reason) (s : Store) (x : ClientId)
    (now : Nat) (ids : Fresh) (call : Call) : Exchangeable s (a.call x now ids) call where
  first := (a.refused bad _).1.trans (a.refused bad s).1.symm
  second := by rw [(a.refused bad s).2]
  final := by rw [(a.refused bad s).2, (a.refused bad _).2]

theorem exchangeable (unlike : ¬ a.Clash b) (w : WellFormed s) (now : Nat) (x y : ClientId) (ids other : Fresh) :
    Exchangeable s (a.call x now ids) (b.call y now other) := by
  cases goodA : a.check with
  | error => exact a.exchangeableRefused goodA s x now ids _
  | ok =>
    cases goodB : b.check with
    | error => exact (b.exchangeableRefused goodB s y now other _).symm
    | ok =>
      have unlikeToo : ¬ b.Clash a := fun ⟨renews, c, first, second⟩ => unlike ⟨renews.symm, c, second, first⟩
      -- after the first edit everything is live, so the purge of the second one does nothing
      have liveA : Live now ((s.purge now).changed (a.change now)) := a.live goodA w.purgedLive
      have liveB : Live now ((s.purge now).changed (b.change now)) := b.live goodB w.purgedLive
      obtain ⟨answerA, afterA⟩ := a.performed goodA w x ids
      obtain ⟨answerB, afterB⟩ := b.performed goodB w y other
      obtain ⟨lateA, lastA⟩ := a.performed goodA liveB.toWellFormed x ids
      obtain ⟨lateB, lastB⟩ := b.performed goodB liveA.toWellFormed y other
      rw [liveB.purge] at lateA lastA
      rw [liveA.purge] at lateB lastB
      rw [replyUnaffected unlike] at lateA
      rw [replyUnaffected unlikeToo] at lateB
      exact ⟨by rw [afterB, lateA, answerA], by rw [afterA, lateB, answerB],
        by rw [afterA, afterB, lastA, lastB, changedInterchanged (changesApart unlike now)]⟩

theorem deletedEach (l : Live now s) (client : ClientId) (fresh : Fresh) (order : List MessageId) :
    s.run (order.map fun id => (delete id).call client now fresh) = s.kept (!order.contains ·.id) := by
  induction order generalizing s with
  | nil => simpa [run] using (keptAll l.toWellFormed).symm
  | cons id order ih =>
    have first : s.after ((delete id).call client now fresh) = s.kept (·.id != id) := by
      rw [((delete id).performed rfl l.toWellFormed client fresh).2, l.purge, change, changedErasing]
    show (s.after ((delete id).call client now fresh)).run _ = _
    rw [first, ih (l.kept _), keptTwice]
    simp only [List.contains_cons, Bool.not_or]
    rfl

theorem deletedOneByOne (w : WellFormed s) (now : Nat) (client : ClientId) (fresh : Fresh) {ids order : List MessageId}
    (some : ids ≠ []) (same : ∀ id, id ∈ order ↔ id ∈ ids) :
    s.run (order.map fun id => (delete id).call client now fresh) =
      s.after ((deleteMany ids).call client now fresh) := by
  let single (id : MessageId) : Call := (delete id).call client now fresh
  have purged : s.run (order.map single) = (s.purge now).run (order.map single) := by
    cases order with
    | nil => exact absurd (List.eq_nil_iff_forall_not_mem.mpr fun id member => nomatch (same id).mpr member) some
    | cons id order =>
      have first : s.after (single id) = (s.purge now).after (single id) := by
        rw [((delete id).performed rfl w client fresh).2, ((delete id).performed rfl (w.purged now) client fresh).2,
          w.purgedLive.purge]
      show (s.after (single id)).run _ = _
      rw [first]
      rfl
  rw [purged, deletedEach w.purgedLive, ((deleteMany ids).performed rfl w client fresh).2, change, changedErasing]
  refine keptCongr fun m _ => ?_
  rw [Bool.eq_iff_iff]
  simp [same]

theorem deletedDone (s : Store) (client : ClientId) (now : Nat) (fresh : Fresh) (order : List MessageId) :
    (s.history (order.map fun id => (delete id).call client now fresh)).map Event.answer =
      order.map fun _ => .ok .done := by
  induction order generalizing s with
  | nil => rfl
  | cons id order ih => exact congrArg (Except.ok Answer.done :: ·) (ih _)

end Edit

open Edit

theorem editsExchanged {calls : List Call} (fresh : FreshIds calls) (now : Nat) (x y : ClientId) (ids others : Fresh) :
    (∀ a b : Edit, ¬ a.Clash b → Exchangeable (empty.run calls) (a.call x now ids) (b.call y now others)) ∧
      ∀ many order : List MessageId, many ≠ [] → (∀ id, id ∈ order ↔ id ∈ many) →
        let whole := (deleteMany many).call x now ids
        let singles := order.map fun id => (delete id).call y now others
        (empty.run calls).run singles = (empty.run calls).after whole ∧
          (empty.run calls).answer whole = .ok .done ∧
          ((empty.run calls).history singles).map Event.answer = order.map fun _ => .ok .done := by
  have w := reachedWellFormed fresh
  refine ⟨fun a b unlike => exchangeable unlike w now x y ids others, fun many order some same => ?_⟩
  have whole : (empty.run calls).after ((deleteMany many).call x now ids) =
      (empty.run calls).after ((deleteMany many).call y now others) := rfl
  dsimp only
  exact ⟨whole ▸ deletedOneByOne w now y others some same, rfl, deletedDone _ y now others order⟩

theorem renewedAmongDeletions :
    let request (limit : Nat) : ClaimRequest := ⟨.ofSeconds 60, .ofSeconds 60, limit⟩
    let calls : List Call := [
      ⟨⟨"a"⟩, 0, .named ["k", "l", "m"] "", .post ([900, 900, 900].map fun seconds => ⟨.ofSeconds seconds, .null⟩)⟩,
      ⟨⟨"b"⟩, 1, .named [] "c", .claim (request 2)⟩,
      ⟨⟨"b"⟩, 1, .named [] "d", .claim (request 1)⟩]
    let s := empty.run calls
    let call (e : Edit) : Call := e.call ⟨"b"⟩ 2 (.named [] "")
    let renewal := renew ⟨"c"⟩ (.ofSeconds 300) (.ofSeconds 60)
    let deletion := deleteMany [⟨"k"⟩, ⟨"m"⟩]
    FreshIds calls ∧ s.holds.map (·.messages.map (·.text)) = [["k", "l"], ["m"]] ∧ ¬ renewal.Clash deletion ∧
      Exchangeable s (call renewal) (call deletion) ∧
      s.run ([⟨"m"⟩, ⟨"k"⟩, ⟨"m"⟩].map fun id => call (delete id)) = s.after (call deletion) := by
  intro request calls s call renewal deletion
  have fresh : FreshIds calls := by decide
  have unlike : ¬ renewal.Clash deletion := fun ⟨_, _, _, named⟩ => nomatch named
  obtain ⟨exchanged, oneByOne⟩ := editsExchanged fresh 2 ⟨"b"⟩ ⟨"b"⟩ (.named [] "") (.named [] "")
  refine ⟨fresh, by decide +kernel, unlike, exchanged _ _ unlike, (oneByOne _ [⟨"m"⟩, ⟨"k"⟩, ⟨"m"⟩] (by simp) ?_).1⟩
  intro id
  simp only [List.mem_cons, List.not_mem_nil, or_false]
  tauto

end CloudClient.Queue
