import CloudClient.Proofs.Queue.Run
import Mathlib.Data.List.Sort
/-! Sequence numbers count posts. The ids that a run has given out stand in the order of posting, and
the number of a stored message is the place of its id in that list. So whoever reads all ids in that order
goes through the live messages as they are stored. -/
namespace CloudClient.Queue.Store

def postedIds : Command → Outcome Answer → List MessageId
  | .post _, .ok (.posted ids) => ids
  | _, _ => []

def posted (calls : List Call) : List MessageId :=
  (empty.history calls).flatMap fun e => postedIds e.call.command e.answer

structure Numbered (ids : List MessageId) (s : Store) : Prop where
  next : s.nextSeq = ids.length
  stored : ∀ m ∈ s.messages, ids[m.seq]? = some m.id

def Event.posts (e : Event) : List (MessageId × ClientId) :=
  (postedIds e.call.command e.answer).map fun id => (id, e.call.client)

def posts (calls : List Call) : List (MessageId × ClientId) := (empty.history calls).flatMap Event.posts

structure Entered (entries : List (MessageId × ClientId)) (s : Store) : Prop where
  next : s.nextSeq = entries.length
  stored : ∀ m ∈ s.messages, entries[m.seq]? = some (m.id, m.author)

variable {s t : Store} {call : Call} {calls : List Call} {ids : List MessageId}
  {entries : List (MessageId × ClientId)}

theorem Entered.numbered (entered : Entered entries s) : Numbered (entries.map (·.1)) s := by
  refine ⟨?_, fun m member => ?_⟩
  · rw [entered.next, List.length_map]
  · rw [List.getElem?_map, entered.stored m member, Option.map_some]

theorem queuedNumber {author : ClientId} {now seq : Nat} {batch : List (MessageId × Draft)} {m : Stored}
    (member : m ∈ queued author now seq batch) :
    ∃ i, m.seq = seq + i ∧ ((batch.map (·.1)).map fun id => (id, author))[i]? = some (m.id, m.author) := by
  induction batch generalizing seq with
  | nil => cases member
  | cons entry rest ih =>
    rcases List.mem_cons.mp member with rfl | later
    · exact ⟨0, rfl, rfl⟩
    · obtain ⟨i, number, found⟩ := ih later
      exact ⟨i + 1, by omega, found⟩

theorem Effect.next {command : Command} {answer : Outcome Answer} (w : WellFormed s)
    (effect : Effect s call command answer t) :
    t.nextSeq = s.nextSeq + (postedIds command answer).length := by
  cases effect with
  | read reads => cases command <;> first | rfl | contradiction
  | refused => cases command <;> rfl
  | posted _ _ _ _ next => rw [next, postedIds, List.length_map]
  | deleted | deletedMany | deletedHeld | notDeleted | claimed | nothing | renewed | lapsed | released =>
    exact w.purgeNext

theorem grantingAuthor (c : ClaimId) (time : Nat) (seqs : List Nat) (m : Stored) :
    (granting c time seqs m).author = m.author := by
  unfold granting
  split <;> rfl

theorem renewingAuthor (h : Hold) (m : Stored) : (renewing h m).author = m.author := by
  unfold renewing
  split <;> rfl

theorem Effect.numbers {command : Command} {answer : Outcome Answer} (w : WellFormed s)
    (effect : Effect s call command answer t) {m : Stored} (member : m ∈ t.messages) :
    (∃ n ∈ s.messages, n.seq = m.seq ∧ n.id = m.id ∧ n.author = m.author) ∨
      ∃ i, m.seq = s.nextSeq + i ∧
        ((postedIds command answer).map fun id => (id, call.client))[i]? = some (m.id, m.author) := by
  have old : ∀ n ∈ (s.purge call.now).messages,
      ∃ m ∈ s.messages, m.seq = n.seq ∧ m.id = n.id ∧ m.author = n.author := by
    intro n hn
    obtain ⟨m, hm, _, rfl⟩ := w.purgeMember.mp hn
    exact ⟨m, hm, rfl, rfl, rfl⟩
  cases effect with
  | read | refused => exact .inl ⟨m, member, rfl, rfl, rfl⟩
  | posted _ _ messages =>
    rw [messages] at member
    rcases List.mem_append.mp member with before | new
    · exact .inl (old m before)
    · exact .inr (queuedNumber new)
  | deleted | deletedMany | deletedHeld => exact .inl (old m (List.mem_filter.mp member).1)
  | notDeleted | nothing | lapsed => exact .inl (old m member)
  | claimed =>
    obtain ⟨n, hn, rfl⟩ := List.mem_map.mp member
    rw [grantingSeq, grantingId, grantingAuthor]
    exact .inl (old n hn)
  | renewed =>
    obtain ⟨n, hn, rfl⟩ := List.mem_map.mp member
    obtain ⟨sameId, sameSeq, _⟩ := renewingSame _ n
    rw [sameId, sameSeq, renewingAuthor]
    exact .inl (old n hn)
  | released =>
    obtain ⟨n, hn, rfl⟩ := List.mem_map.mp member
    exact .inl (old n hn)

theorem Entered.after (w : WellFormed s) (fresh : FreshFor s [call]) (entered : Entered entries s) :
    Entered (entries ++ Event.posts ⟨s, call⟩) (s.after call) := by
  have effect := performed w fresh
  refine ⟨?_, fun m member => ?_⟩
  · rw [effect.next w, entered.next, List.length_append, Event.posts, List.length_map]
    rfl
  · rcases effect.numbers w member with ⟨n, hn, sameSeq, sameId, sameAuthor⟩ | ⟨i, number, found⟩
    · have before := entered.stored n hn
      rw [sameSeq, sameId, sameAuthor] at before
      rw [List.getElem?_append_left (List.getElem?_eq_some_iff.mp before).1, before]
    · rw [number, entered.next, List.getElem?_append_right (Nat.le_add_right _ _), Nat.add_sub_cancel_left]
      exact found

theorem Entered.run (w : WellFormed s) (fresh : FreshFor s calls) (entered : Entered entries s) :
    Entered (entries ++ (s.history calls).flatMap Event.posts) (s.run calls) := by
  induction calls generalizing s entries with
  | nil =>
    rw [history, List.flatMap_nil, List.append_nil]
    exact entered
  | cons call calls ih =>
    have later := ih (afterWellFormed w fresh.head) (fresh.tail w) (entered.after w fresh.head)
    rw [List.append_assoc] at later
    exact later

theorem emptyEntered : Entered [] empty := ⟨rfl, fun _ member => by cases member⟩

theorem reachedEntered (fresh : FreshIds calls) : Entered (posts calls) (empty.run calls) :=
  emptyEntered.run emptyWellFormed fresh.forEmpty

theorem postsIds (calls : List Call) : (posts calls).map (·.1) = posted calls := by
  simp only [posts, posted, Event.posts, List.map_flatMap, List.map_map, Function.comp_def, List.map_id']

theorem reachedNumbered (fresh : FreshIds calls) : Numbered (posted calls) (empty.run calls) :=
  postsIds calls ▸ (reachedEntered fresh).numbered

theorem postedAppend (before later : List Call) : posted before <+: posted (before ++ later) := by
  rw [posted, posted, historyAppend, List.flatMap_append]
  exact List.prefix_append _ _

theorem postedIdsOfCall (s : Store) (call : Call) :
    (postedIds call.command (s.answer call)).Sublist call.messageIds := by
  obtain ⟨client, now, fresh, command⟩ := call
  cases command with
  | post drafts =>
    have answered : s.answer ⟨client, now, fresh, .post drafts⟩ =
        (s.post client now fresh.message drafts).1.map .posted := rfl
    rw [messageIdsOfPost rfl, answered]
    unfold post
    cases Draft.validateAll drafts with
    | error e => exact List.nil_sublist _
    | ok _ => exact List.Sublist.refl _
  | _ => exact List.nil_sublist _

theorem Numbered.place (numbered : Numbered ids s) {order : List MessageId} (distinct : order.Nodup)
    (known : ids <+: order) {m : Stored} (member : m ∈ s.messages) :
    order.idxOf m.id = m.seq ∧ m.seq < ids.length := by
  obtain ⟨inside, found⟩ := List.getElem?_eq_some_iff.mp (numbered.stored m member)
  have within : m.seq < order.length := Nat.lt_of_lt_of_le inside known.length_le
  have same : order[m.seq] = m.id := (known.getElem inside).symm.trans found
  exact ⟨by rw [← same, distinct.idxOf_getElem], inside⟩

theorem postedNodup (fresh : FreshIds calls) : (posted calls).Nodup := by
  have part (s : Store) : ((s.history calls).flatMap fun e => postedIds e.call.command e.answer).Sublist
      (calls.flatMap Call.messageIds) := by
    clear fresh
    induction calls generalizing s with
    | nil => exact List.nil_sublist _
    | cons call calls ih => exact (postedIdsOfCall s call).append (ih (s.after call))
  exact fresh.1.sublist (part empty)

theorem authorIff (fresh : FreshIds calls) {m : Stored} (member : m ∈ (empty.run calls).messages)
    (client : ClientId) : m.author = client ↔ (m.id, client) ∈ posts calls := by
  have entry := List.mem_of_getElem? ((reachedEntered fresh).stored m member)
  refine ⟨fun same => same ▸ entry, fun other => ?_⟩
  have distinct : ((posts calls).map (·.1)).Nodup := postsIds calls ▸ postedNodup fresh
  exact congrArg Prod.snd (List.inj_on_of_nodup_map distinct entry other rfl)

theorem Numbered.lookedUp (numbered : Numbered ids s) (k : Keyed s) (distinct : ids.Nodup) (start now : Nat) :
    (ids.drop start).filterMap (fun id => s.lookup id now) = (s.live now).filter (start ≤ ·.seq) := by
  have antisymm : Std.Antisymm fun m n : Stored => m.seq < n.seq :=
    ⟨fun _ _ less more => absurd more (Nat.lt_asymm less)⟩
  have irrefl : Std.Irrefl fun m n : Stored => m.seq < n.seq := ⟨fun m => Nat.lt_irrefl m.seq⟩
  -- the id at a place belongs to the message with that number
  have place {i : Nat} (inside : i < ids.length) {m : Stored} (found : s.lookup ids[i] now = some m) :
      m.seq = i := by
    obtain ⟨member, named, _⟩ := k.lookupIff.mp found
    obtain ⟨within, same⟩ := List.getElem?_eq_some_iff.mp (numbered.stored m member)
    exact (distinct.getElem_inj_iff).mp (same.trans named)
  refine List.Pairwise.eq_of_mem_iff (List.pairwise_filterMap.mpr ?_)
    (k.ordered.sublist (List.filter_sublist.trans List.filter_sublist)) fun m => ?_
  · refine List.pairwise_iff_getElem.mpr fun i j hi hj less m foundM n foundN => ?_
    rw [List.getElem_drop] at foundM foundN
    rw [place _ foundM, place _ foundN]
    exact Nat.add_lt_add_left less start
  · rw [List.mem_filterMap, List.mem_filter, live, List.mem_filter]
    constructor
    · rintro ⟨id, member, found⟩
      obtain ⟨i, inside, rfl⟩ := List.mem_iff_getElem.mp member
      obtain ⟨stored, _, lives⟩ := k.lookupIff.mp found
      rw [List.getElem_drop] at found
      rw [place _ found]
      exact ⟨⟨stored, decide_eq_true lives⟩, decide_eq_true (Nat.le_add_right start i)⟩
    · rintro ⟨⟨stored, lives⟩, reached⟩
      have there : (ids.drop start)[m.seq - start]? = some m.id := by
        rw [List.getElem?_drop, Nat.add_sub_cancel' (of_decide_eq_true reached), numbered.stored m stored]
      exact ⟨m.id, List.mem_of_getElem? there, k.lookupIff.mpr ⟨stored, rfl, of_decide_eq_true lives⟩⟩

theorem Numbered.found (numbered : Numbered ids s) (k : Keyed s) (distinct : ids.Nodup) (start now : Nat) :
    (ids.drop start).filterMap (s.get now) =
      ((s.live now).filter (start ≤ ·.seq)).map fun m => s.view m now := by
  rw [← numbered.lookedUp k distinct, List.map_filterMap]
  rfl

end CloudClient.Queue.Store
