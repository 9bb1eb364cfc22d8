import CloudClient.Proofs.Json.Decoder
import CloudClient.Queue.Remote
/-! A message read from a text is the message read from the value of that text, alone or in a list, as long as
the text gives none of its members twice. -/
namespace CloudClient.Queue

open Json (Tree)

theorem mappedRead {α β : Type} {d : Json.Decoder α} {f : α → β} {v : Json} {b : β}
    (read : (d.map f).ofValue v = .ok b) : ∃ a, b = f a := by
  simp only [Json.Decoder.map] at read
  cases own : d.ofValue v with
  | error e => simp [own, Except.map] at read
  | ok a =>
    rw [own] at read
    cases read
    exact ⟨a, rfl⟩

namespace Message

theorem fieldsFaithful : ∀ f ∈ fields, f.decoder.Faithful := by
  simp only [fields, List.forall_mem_cons, List.not_mem_nil, false_implies, implies_true, and_true]
  exact ⟨Json.Decoder.stringFaithful.map _, Json.Decoder.natFaithful.map _, Json.Decoder.natFaithful.map _,
    Json.Decoder.jsonFaithful.map _⟩

theorem fieldsIndependent : Json.Decoder.Independent fields where
  commute f member g memberToo differ v w set other first second s := by
    simp only [fields, List.mem_cons, List.not_mem_nil, or_false] at member memberToo
    rcases member with rfl | rfl | rfl | rfl <;> rcases memberToo with rfl | rfl | rfl | rfl <;>
      first
      | exact absurd rfl differ
      | obtain ⟨a, rfl⟩ := mappedRead first
        obtain ⟨b, rfl⟩ := mappedRead second
        rfl
  unmarked f member g memberToo differ v set read s := by
    simp only [fields, List.mem_cons, List.not_mem_nil, or_false] at member memberToo
    rcases member with rfl | rfl | rfl | rfl <;> rcases memberToo with rfl | rfl | rfl | rfl <;>
      first
      | exact absurd rfl differ
      | obtain ⟨a, rfl⟩ := mappedRead read
        rfl

theorem decoderAlike {depth : Nat} {t : Tree} {v : Json} (found : t.value? depth = some v)
    (single : t.Unrepeated ["href", "ttl", "age", "body"]) : decoder.Alike depth t v :=
  (Json.Decoder.recordAlike "MessageWire" fieldsFaithful fieldsIndependent (by simp [fields]) found single).refine _

theorem readAlike {text : String} {v : Json} (parsed : Json.parse text = some v) :
    let tree := (Tree.ofText text).1
    (tree.Unrepeated ["href", "ttl", "age", "body"] →
      ∀ m, decoder.decodeText text = .ok m ↔ decoder.ofValue v = .ok m) ∧
    ((∀ item ∈ tree.items, item.Unrepeated ["href", "ttl", "age", "body"]) →
      ∀ ms, Remote.messagesDecoder.decodeText text = .ok ms ↔ Remote.messagesDecoder.ofValue v = .ok ms) := by
  refine ⟨fun single => ?_, fun single => ?_⟩
  · exact Json.Decoder.decodeTextAlike parsed fun depth found => decoderAlike found single
  · refine Json.Decoder.decodeTextAlike parsed fun depth found => Json.Decoder.listAlike found ?_
    exact fun item member depth value own => decoderAlike own (single item member)

theorem readAmongOthers :
    let object := "\x7b\"ttl\":300,\"x\":1,\"x\":[\"ttl\"],\"href\":\"/m/a?claim_id=c\"\x7d"
    let list := "[" ++ object ++ ",[\"/m/b\"]]"
    (∃ v m, Json.parse object = some v ∧ decoder.decodeText object = .ok m ∧ decoder.ofValue v = .ok m ∧
      m.id = ⟨"a"⟩ ∧ m.claim = some ⟨"c"⟩ ∧ m.ttl = .ofSeconds 300) ∧
    ∃ v ms, Json.parse list = some v ∧ Remote.messagesDecoder.decodeText list = .ok ms ∧
      Remote.messagesDecoder.ofValue v = .ok ms ∧ ms.map (·.id) = [⟨"a"⟩, ⟨"b"⟩] := by
  intro object list
  constructor
  · obtain ⟨v, parsed⟩ := Option.isSome_iff_exists.mp (show (Json.parse object).isSome by decide +kernel)
    have shown : (decoder.decodeText object).toOption.map (fun m => (m.id, m.claim, m.ttl)) =
        some (⟨"a"⟩, some ⟨"c"⟩, .ofSeconds 300) := by decide +kernel
    cases read : decoder.decodeText object with
    | error e => simp [read, Except.toOption] at shown
    | ok m =>
      simp only [read, Except.toOption, Option.map_some, Option.some.injEq, Prod.mk.injEq] at shown
      exact ⟨v, m, parsed, rfl, ((readAlike parsed).1 (by decide +kernel) m).mp read, shown⟩
  · obtain ⟨v, parsed⟩ := Option.isSome_iff_exists.mp (show (Json.parse list).isSome by decide +kernel)
    have shown : (Remote.messagesDecoder.decodeText list).toOption.map (·.map (·.id)) = some [⟨"a"⟩, ⟨"b"⟩] := by
      decide +kernel
    cases read : Remote.messagesDecoder.decodeText list with
    | error e => simp [read, Except.toOption] at shown
    | ok ms =>
      simp only [read, Except.toOption, Option.map_some, Option.some.injEq] at shown
      exact ⟨v, ms, parsed, rfl, ((readAlike parsed).2 (by decide +kernel) ms).mp read, shown⟩

end Message
end CloudClient.Queue
