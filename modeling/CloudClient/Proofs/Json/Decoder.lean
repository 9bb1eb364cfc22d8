import CloudClient.Json.Decoder
import Mathlib.Data.List.Count
import Mathlib.Data.List.Induction
import Mathlib.Data.List.Nodup
/-! A decoder comes to the same result by either route, from the tree of a text or from its value, when the
text repeats none of the members that the decoder looks for. The order of the members does not matter then,
nor what else is among them. -/
namespace CloudClient.Json

/-! ### Trees with a value -/

namespace Tree

inductive Valued : Nat → Tree → Json → Prop
  | null {depth : Nat} : Valued depth .null .null
  | bool {depth : Nat} (b : Bool) : Valued depth (.bool b) (.bool b)
  | number {depth : Nat} (n : Number) : Valued depth (.number (some n)) (.number n)
  | string {depth : Nat} (s : String) : Valued depth (.string (some s)) (.string s)
  | array {depth : Nat} {items : List Tree} {values : List Json} (found : values? depth items = some values) :
    Valued (depth + 1) (.array items true) (.array values)
  | object {depth : Nat} {members : List (Key × Tree)} {pairs : Members}
    (found : members? depth members = some pairs) :
    Valued (depth + 1) (.object members true) (.object (Members.ofList pairs))

theorem valued {depth : Nat} {t : Tree} {v : Json} (found : t.value? depth = some v) : Valued depth t v := by
  cases t with
  | null =>
    cases found
    exact .null
  | bool b =>
    cases found
    exact .bool b
  | number n =>
    obtain ⟨n, rfl, rfl⟩ := Option.map_eq_some_iff.mp (by simpa only [value?] using found)
    exact .number n
  | string s =>
    obtain ⟨s, rfl, rfl⟩ := Option.map_eq_some_iff.mp (by simpa only [value?] using found)
    exact .string s
  | array items closed =>
    cases depth with
    | zero => simp [value?] at found
    | succ depth =>
      simp only [value?, Option.ite_none_right_eq_some, Option.map_eq_some_iff] at found
      obtain ⟨rfl, values, found, rfl⟩ := found
      exact .array found
  | object members closed =>
    cases depth with
    | zero => simp [value?] at found
    | succ depth =>
      simp only [value?, Option.ite_none_right_eq_some, Option.map_eq_some_iff] at found
      obtain ⟨rfl, pairs, found, rfl⟩ := found
      exact .object found
  | missing => simp [value?] at found

theorem valuesCons {depth : Nat} {item : Tree} {rest : List Tree} {values : List Json}
    (found : values? depth (item :: rest) = some values) :
    ∃ value later, item.value? depth = some value ∧ values? depth rest = some later ∧ values = value :: later := by
  rw [values?] at found
  split at found <;> cases found
  exact ⟨_, _, ‹_›, ‹_›, rfl⟩

theorem membersCons {depth : Nat} {first : Key × Tree} {rest : List (Key × Tree)} {pairs : Members}
    (found : members? depth (first :: rest) = some pairs) :
    ∃ key item value later, first = (.text key, item) ∧ item.value? depth = some value ∧
      members? depth rest = some later ∧ pairs = (key, value) :: later := by
  obtain ⟨key, item⟩ := first
  cases key with
  | text key =>
    rw [members?] at found
    split at found <;> cases found
    exact ⟨key, item, _, _, rfl, ‹_›, ‹_›, rfl⟩
  | unpaired => simp [members?] at found
  | other => simp [members?] at found

mutual

theorem wholeOfValue {depth : Nat} : (t : Tree) → {v : Json} → value? depth t = some v → isWhole t
  | .null, _, _ => rfl
  | .bool _, _, _ => rfl
  | .number _, _, _ => rfl
  | .string _, _, _ => rfl
  | .array items _, _, found => by
    cases valued found with
    | array inside => simp [isWhole, wholeOfValues items inside]
  | .object members _, _, found => by
    cases valued found with
    | object inside => simp [isWhole, wholeOfMembers members inside]
  | .missing, _, found => by simp [value?] at found

theorem wholeOfValues {depth : Nat} :
    (items : List Tree) → {values : List Json} → values? depth items = some values → areWhole items
  | [], _, _ => rfl
  | item :: rest, _, found => by
    obtain ⟨_, _, own, others, _⟩ := valuesCons found
    simp [areWhole, wholeOfValue item own, wholeOfValues rest others]

theorem wholeOfMembers {depth : Nat} :
    (members : List (Key × Tree)) → {pairs : Members} → members? depth members = some pairs → membersWhole members
  | [], _, _ => rfl
  | (key, item) :: rest, _, found => by
    obtain ⟨_, _, _, _, same, own, others, _⟩ := membersCons found
    cases same
    simp [membersWhole, wholeOfValue item own, wholeOfMembers rest others]

end

def items : Tree → List Tree
  | .array items _ => items
  | _ => []

def keys : Tree → List Key
  | .object members _ => members.map (·.1)
  | _ => []

def Unrepeated (names : List String) (t : Tree) : Prop := ∀ name ∈ names, t.keys.count (.text name) ≤ 1

instance (names : List String) (t : Tree) : Decidable (t.Unrepeated names) :=
  inferInstanceAs (Decidable (∀ name ∈ names, t.keys.count (.text name) ≤ 1))

theorem membersKeys {depth : Nat} {members : List (Key × Tree)} {pairs : Members}
    (found : members? depth members = some pairs) : members.map (·.1) = (pairs.map (·.1)).map Key.text := by
  induction members generalizing pairs with
  | nil =>
    cases found
    rfl
  | cons first rest ih =>
    obtain ⟨_, _, _, _, rfl, _, others, rfl⟩ := membersCons found
    simp [ih others]

end Tree

/-! ### Members in key order -/

namespace Members

theorem putPerm {key : String} (value : Json) {members : Members} (absent : key ∉ members.map (·.1)) :
    (members.put key value).Perm ((key, value) :: members) := by
  induction members with
  | nil => exact .refl _
  | cons first rest ih =>
    rw [List.map_cons, List.mem_cons, not_or] at absent
    rw [put]
    split
    · exact .refl _
    · rw [if_neg absent.1]
      exact ((ih absent.2).cons first).trans (.swap _ _ _)

theorem putUnlisted {names : List String} {key : String} (unlisted : key ∉ names) (value : Json)
    (members : Members) :
    (members.put key value).filter (·.1 ∈ names) = members.filter (·.1 ∈ names) := by
  induction members with
  | nil => simp [put, unlisted]
  | cons first rest ih =>
    rw [put]
    split
    · simp [unlisted]
    · split
      · rename_i same
        simp [← same, unlisted]
      · rw [List.filter_cons, ih, List.filter_cons]

/-- The last member of a key counts; where the listed names have one each, all of these are kept. -/
theorem listedPerm {names : List String} {pairs : List (String × Json)}
    (once : ((pairs.filter (·.1 ∈ names)).map (·.1)).Nodup) :
    ((ofList pairs).filter (·.1 ∈ names)).Perm (pairs.filter (·.1 ∈ names)) := by
  -- From the back, since `ofList` puts the members in one after another.
  induction pairs using List.reverseRecOn with
  | nil => exact .refl _
  | append_singleton pairs last ih =>
    obtain ⟨key, value⟩ := last
    have step : ofList (pairs ++ [(key, value)]) = (ofList pairs).put key value := by
      rw [ofList, List.foldl_append]
      rfl
    rw [List.filter_append, List.map_append] at once
    have earlier := ih (List.nodup_append.mp once).1
    rw [step, List.filter_append]
    by_cases listed : key ∈ names
    · have new : key ∉ (ofList pairs).map (·.1) := by
        intro member
        obtain ⟨entry, inside, rfl⟩ := List.mem_map.mp member
        have kept : entry ∈ (ofList pairs).filter (·.1 ∈ names) := List.mem_filter.mpr ⟨inside, decide_eq_true listed⟩
        exact (List.nodup_append.mp once).2.2 _ (List.mem_map_of_mem (earlier.subset kept)) _ (by simp [listed]) rfl
      have own : [(key, value)].filter (·.1 ∈ names) = [(key, value)] := by simp [listed]
      refine ((putPerm value new).filter _).trans ?_
      rw [List.filter_cons_of_pos (by simpa using listed), own]
      exact (earlier.cons _).trans (List.perm_append_singleton _ _).symm
    · have none : [(key, value)].filter (·.1 ∈ names) = [] := by simp [listed]
      rw [putUnlisted listed, none, List.append_nil]
      exact earlier

theorem onceOfCount {names : List String} {pairs : Members}
    (single : ∀ name ∈ names, ((pairs.map (·.1)).map Key.text).count (.text name) ≤ 1) :
    ((pairs.filter (·.1 ∈ names)).map (·.1)).Nodup := by
  have same : (pairs.filter (·.1 ∈ names)).map (·.1) = (pairs.map (·.1)).filter (· ∈ names) := by
    rw [List.filter_map]
    rfl
  rw [same, List.nodup_iff_count_le_one]
  intro key
  by_cases listed : key ∈ names
  · rw [List.count_filter (by simpa using listed)]
    have count := single key listed
    rwa [List.count_map_of_injective _ _ fun a b same => by cases same; rfl] at count
  · rw [List.count_eq_zero_of_not_mem fun member => listed (by simpa using List.of_mem_filter member)]
    exact Nat.zero_le _

end Members

/-! ### Fields -/

namespace Decoder

variable {α β σ : Type} {fields : List (Field σ)}

def Agree (x y : Except DecodeError α) : Prop := ∀ a, x = .ok a ↔ y = .ok a

theorem Agree.refl (x : Except DecodeError α) : Agree x x := fun _ => Iff.rfl

theorem Agree.bind {x y : Except DecodeError α} (same : Agree x y) {next next' : α → Except DecodeError β}
    (after : ∀ a, y = .ok a → Agree (next a) (next' a)) : Agree (x.bind next) (y.bind next') := by
  intro b
  cases read : y with
  | error e =>
    cases readToo : x with
    | error e => simp [Except.bind]
    | ok a => simp [(same a).mp readToo] at read
  | ok a =>
    rw [(same a).mpr read]
    exact after a read b

theorem Agree.map {x y : Except DecodeError α} (same : Agree x y) (f : α → β) : Agree (x.map f) (y.map f) := by
  have agree : Agree (x.bind (.ok ∘ f)) (y.bind (.ok ∘ f)) := same.bind fun _ _ => .refl _
  cases x <;> cases y <;> exact agree

def Alike (d : Decoder α) (depth : Nat) (t : Tree) (v : Json) : Prop := Agree (d.ofTree depth t) (d.ofValue v)

structure Independent (fields : List (Field σ)) : Prop where
  commute : ∀ f ∈ fields, ∀ g ∈ fields, f.name ≠ g.name → ∀ v w set other, f.decoder.ofValue v = .ok set →
    g.decoder.ofValue w = .ok other → ∀ s, set (other s) = other (set s)
  unmarked : ∀ f ∈ fields, ∀ g ∈ fields, f.name ≠ g.name → ∀ v set, f.decoder.ofValue v = .ok set →
    ∀ s, g.isSet (set s) = g.isSet s

theorem fieldFound {key : String} {f : Field σ} (found : fields.find? (·.name == key) = some f) :
    f ∈ fields ∧ f.name = key :=
  ⟨List.mem_of_find?_eq_some found, by simpa using List.find?_some found⟩

theorem fieldListed {key : String} : key ∉ fields.map (·.name) ↔ fields.find? (·.name == key) = none := by
  rw [List.find?_eq_none]
  simp

def writes (fields : List (Field σ)) (key : String) (item : Json) : Except DecodeError (σ → σ) :=
  match fields.find? (·.name == key) with
  | none => .ok id
  | some f => f.decoder.ofValue item

theorem readValuesCons (s : σ) (key : String) (item : Json) (rest : Members) :
    readValues fields s ((key, item) :: rest) =
      (writes fields key item).bind fun set => readValues fields (set s) rest := by
  rw [readValues, writes]
  cases fields.find? (·.name == key) with
  | none => rfl
  | some f =>
    dsimp only
    cases f.decoder.ofValue item <;> rfl

theorem writesCommute (independent : Independent fields) {a b : String} (differ : a ≠ b) {v w : Json}
    {set other : σ → σ} (first : writes fields a v = .ok set) (second : writes fields b w = .ok other) (s : σ) :
    set (other s) = other (set s) := by
  unfold writes at first second
  split at first
  · cases first
    rfl
  · rename_i f own
    split at second
    · cases second
      rfl
    · rename_i g found
      obtain ⟨member, rfl⟩ := fieldFound own
      obtain ⟨memberToo, rfl⟩ := fieldFound found
      exact independent.commute f member g memberToo differ v w set other first second s

theorem readValuesListed (s : σ) (members : Members) :
    readValues fields s (members.filter (·.1 ∈ fields.map (·.name))) = readValues fields s members := by
  induction members generalizing s with
  | nil => rfl
  | cons first rest ih =>
    obtain ⟨key, item⟩ := first
    by_cases listed : key ∈ fields.map (·.name)
    · rw [List.filter_cons_of_pos (by simpa using listed), readValuesCons, readValuesCons]
      simp only [ih]
    · have unknown : writes fields key item = .ok id := by
        rw [writes, fieldListed.mp listed]
      rw [List.filter_cons_of_neg (by simpa using listed), readValuesCons, unknown]
      exact ih s

theorem readValuesPerm (independent : Independent fields) {p q : Members} (same : p.Perm q)
    (once : (p.map (·.1)).Nodup) (s : σ) : Agree (readValues fields s p) (readValues fields s q) := by
  induction same generalizing s with
  | nil => exact .refl _
  | cons entry _ ih =>
    rw [readValuesCons, readValuesCons]
    exact (Agree.refl _).bind fun set _ => ih (List.nodup_cons.mp once).2 (set s)
  | swap first second rest =>
    obtain ⟨a, v⟩ := first
    obtain ⟨b, w⟩ := second
    have differ : b ≠ a := fun same => by simp [same] at once
    simp only [readValuesCons]
    intro t
    cases one : writes fields a v with
    | error e => cases writes fields b w <;> simp [Except.bind]
    | ok set =>
      cases two : writes fields b w with
      | error e => simp [Except.bind]
      | ok other => simp only [Except.bind, writesCommute independent differ two one s]
  | trans first _ ih ih' =>
    exact fun t => (ih once s t).trans (ih' ((first.map (·.1)).nodup_iff.mp once) s t)

def Faithful (d : Decoder α) : Prop := ∀ depth t v, t.value? depth = some v → d.Alike depth t v

theorem readMembersKnown {key : String} {f : Field σ} (known : fields.find? (·.name == key) = some f) {s : σ}
    (unset : f.isSet s = false) (depth : Nat) (item : Tree) (rest : List (Key × Tree)) :
    readMembers fields depth s ((.text key, item) :: rest) =
      (f.decoder.ofTree depth item).bind fun set => readMembers fields depth (set s) rest := by
  rw [readMembers, known]
  simp only [unset, Bool.false_eq_true, if_false]
  cases f.decoder.ofTree depth item <;> rfl

theorem readMembersUnknown {key : String} (unknown : fields.find? (·.name == key) = none) {item : Tree}
    (whole : item.isWhole) (depth : Nat) (s : σ) (rest : List (Key × Tree)) :
    readMembers fields depth s ((.text key, item) :: rest) = readMembers fields depth s rest := by
  rw [readMembers, unknown]
  exact if_pos whole

theorem readMembersAlike (faithful : ∀ f ∈ fields, Faithful f.decoder) (independent : Independent fields)
    {depth : Nat} {members : List (Key × Tree)} {pairs : Members} (found : Tree.members? depth members = some pairs)
    (once : ((pairs.filter (·.1 ∈ fields.map (·.name))).map (·.1)).Nodup) {s : σ}
    (clear : ∀ f ∈ fields, f.name ∈ pairs.map (·.1) → f.isSet s = false) :
    Agree (readMembers fields depth s members) (readValues fields s pairs) := by
  induction members generalizing s pairs with
  | nil =>
    cases found
    exact .refl _
  | cons first rest ih =>
    obtain ⟨key, item, value, later, rfl, own, others, rfl⟩ := Tree.membersCons found
    rw [readValuesCons, writes]
    cases named : fields.find? (·.name == key) with
    | none =>
      rw [List.filter_cons_of_neg (by simpa using fieldListed.mpr named)] at once
      rw [readMembersUnknown named (Tree.wholeOfValue item own)]
      exact ih others once fun f member inside => clear f member (List.mem_cons_of_mem _ inside)
    | some f =>
      obtain ⟨member, rfl⟩ := fieldFound named
      have listed : f.name ∈ fields.map (·.name) := List.mem_map_of_mem member
      rw [List.filter_cons_of_pos (by simpa using listed), List.map_cons, List.nodup_cons] at once
      rw [readMembersKnown named (clear f member List.mem_cons_self)]
      refine (faithful f member depth item value own).bind fun set read => ih others once.2 ?_
      -- The key does not come again, so what has now been set is none of the fields that are still to come.
      intro g memberToo inside
      have differ : f.name ≠ g.name := by
        intro same
        obtain ⟨entry, here, called⟩ := List.mem_map.mp inside
        have kept : entry ∈ later.filter (·.1 ∈ fields.map (·.name)) :=
          List.mem_filter.mpr ⟨here, by rw [called, ← same]; exact decide_eq_true listed⟩
        exact once.1 (List.mem_map.mpr ⟨entry, kept, called.trans same.symm⟩)
      rw [independent.unmarked f member g memberToo differ value set read s]
      exact clear g memberToo (List.mem_cons_of_mem _ inside)

theorem readPositionsAlike (faithful : ∀ f ∈ fields, Faithful f.decoder) {depth : Nat} {items : List Tree}
    {values : List Json} (found : Tree.values? depth items = some values) (short : Nat → DecodeError) (i : Nat)
    (s t : σ) :
    readPositions (fun f item => f.decoder.ofTree depth item) (.ok ()) short i fields items s = .ok (t, []) ↔
      readPositions (fun f item => f.decoder.ofValue item) (.ok ()) short i fields values s = .ok (t, []) := by
  induction fields generalizing items values i s with
  | nil =>
    cases items with
    | nil =>
      cases found
      simp [readPositions]
    | cons item rest =>
      obtain ⟨_, _, _, _, rfl⟩ := Tree.valuesCons found
      simp [readPositions]
  | cons f fields ih =>
    have rest : ∀ g ∈ fields, Faithful g.decoder := fun g member => faithful g (List.mem_cons_of_mem _ member)
    cases items with
    | nil =>
      cases found
      simp only [readPositions]
      split
      · simp
      · exact ih rest rfl (i + 1) s
    | cons item items =>
      obtain ⟨value, later, own, others, rfl⟩ := Tree.valuesCons found
      have here := faithful f (List.mem_cons_self ..) depth item value own
      simp only [readPositions]
      cases read : f.decoder.ofValue value with
      | error e =>
        cases readToo : f.decoder.ofTree depth item with
        | error e => simp
        | ok set => simp [(here set).mp readToo] at read
      | ok set =>
        rw [(here set).mpr read]
        exact ih rest others (i + 1) (set s)

/-! ### Decoders by their form -/

@[simp]
theorem mistypedTreeFails (expected : String) (t : Tree) (a : α) : mistypedTree expected t ≠ .ok a := by
  unfold mistypedTree
  cases foundInTree t <;> simp

@[simp]
theorem mistypedValueFails (expected : String) (v : Json) (a : α) : mistypedValue expected v ≠ .ok a := by
  simp [mistypedValue]

theorem Faithful.map {d : Decoder α} (faithful : Faithful d) (f : α → β) : Faithful (d.map f) :=
  fun depth t v found => (faithful depth t v found).map f

theorem Alike.refine {d : Decoder α} {depth : Nat} {t : Tree} {v : Json} (same : d.Alike depth t v)
    (f : α → Except String β) : (d.refine f).Alike depth t v :=
  same.bind fun _ _ => .refl _

theorem eachCons {ι : Type} (read : ι → Except DecodeError α) (item : ι) (rest : List ι) :
    each read (item :: rest) = (read item).bind fun a => (each read rest).map (a :: ·) := by
  rw [each]
  cases read item <;> rfl

theorem eachAlike {d : Decoder α} {depth : Nat} {items : List Tree} {values : List Json}
    (found : Tree.values? depth items = some values)
    (alike : ∀ item ∈ items, ∀ value, item.value? depth = some value → d.Alike depth item value) :
    Agree (each (d.ofTree depth) items) (each d.ofValue values) := by
  induction items generalizing values with
  | nil =>
    cases found
    exact .refl _
  | cons item rest ih =>
    obtain ⟨value, values, own, others, rfl⟩ := Tree.valuesCons found
    have first := alike item (List.mem_cons_self ..) value own
    have later := ih others fun item member => alike item (List.mem_cons_of_mem _ member)
    rw [eachCons, eachCons]
    exact first.bind fun a _ => later.map (a :: ·)

theorem listAlike {d : Decoder α} {depth : Nat} {t : Tree} {v : Json} (found : t.value? depth = some v)
    (alike : ∀ item ∈ t.items, ∀ depth value, item.value? depth = some value → d.Alike depth item value) :
    (list d).Alike depth t v := by
  cases Tree.valued found with
  | array inside =>
    have all := eachAlike inside fun item member => alike item member _
    intro as
    simp only [list, if_true]
    rw [← all as]
    split <;> simp_all
  | _ => exact fun a => by simp [list]

theorem eachRefined {ι : Type} {read : ι → Except DecodeError α} {f : α → Except String β} {items : List ι}
    {as : List α} {bs : List β} (found : each read items = .ok as) (good : List.Forall₂ (f · = .ok ·) as bs) :
    each (fun item => (read item).bind fun a => (f a).mapError .refused) items = .ok bs := by
  induction items generalizing as bs with
  | nil =>
    cases found
    cases good
    rfl
  | cons item items ih =>
    rw [eachCons] at found
    cases own : read item with
    | error e =>
      rw [own] at found
      contradiction
    | ok a =>
      cases others : each read items with
      | error e =>
        rw [own, others] at found
        contradiction
      | ok later =>
        rw [own, others] at found
        cases found
        cases good with
        | cons first rest =>
          rw [eachCons, ih others rest]
          simp only [own, Except.bind, first, Except.mapError, Except.map]

theorem listRefined {d : Decoder α} {f : α → Except String β} {depth : Nat} {t : Tree} {as : List α} {bs : List β}
    (found : (list d).ofTree depth t = .ok as) (good : List.Forall₂ (f · = .ok ·) as bs) :
    (list (d.refine f)).ofTree depth t = .ok bs := by
  cases t with
  | array items closed =>
    cases depth with
    | zero => contradiction
    | succ depth =>
      simp only [list] at found ⊢
      split at found
      · contradiction
      · rename_i own
        split at found
        · rename_i closed
          cases found
          have all : each ((d.refine f).ofTree depth) items = .ok bs := eachRefined own good
          simp only [all, closed, if_true]
        · contradiction
  | _ => simp [list] at found

theorem jsonFaithful : Faithful json := by
  intro depth t v found a
  simp [json, found]

theorem stringFaithful : Faithful string := by
  intro depth t v found
  cases Tree.valued found with
  | string s => exact .refl _
  | _ => exact fun a => by simp [string]

theorem natFaithful : Faithful nat := by
  intro depth t v found
  cases Tree.valued found with
  | number n => exact .refl _
  | _ => exact fun a => by simp [nat]

section

variable (name : String) (fields : List (Field σ)) (empty : σ)

theorem recordObjectTree (depth : Nat) (members : List (Key × Tree)) :
    (record name fields empty).ofTree (depth + 1) (.object members true) =
      (readMembers fields depth empty members).bind (complete fields) := by
  simp only [record, if_true]
  cases readMembers fields depth empty members <;> rfl

theorem recordObjectValue (members : Members) :
    (record name fields empty).ofValue (.object members) =
      (readValues fields empty members).bind (complete fields) := by
  simp only [record]
  cases readValues fields empty members <;> rfl

theorem recordArrayTree (depth : Nat) (items : List Tree) (s : σ) :
    (record name fields empty).ofTree (depth + 1) (.array items true) = .ok s ↔
      readPositions (fun f item => f.decoder.ofTree depth item) (.ok ())
        (fun i => .invalidLength i (lengthText name fields)) 0 fields items empty = .ok (s, []) := by
  simp only [record, if_true, Bool.true_and, List.isEmpty_iff]
  split
  · simp_all
  · rename_i read
    simp only [read, Except.ok.injEq, Prod.mk.injEq]
    split <;> simp_all

theorem recordArrayValue (items : List Json) (s : σ) :
    (record name fields empty).ofValue (.array items) = .ok s ↔
      readPositions (fun f item => f.decoder.ofValue item) (.ok ())
        (fun i => .invalidLength i (lengthText name fields)) 0 fields items empty = .ok (s, []) := by
  simp only [record, List.isEmpty_iff]
  split
  · simp_all
  · rename_i read
    simp only [read, Except.ok.injEq, Prod.mk.injEq]
    split <;> simp_all

end

theorem recordAlike (name : String) (faithful : ∀ f ∈ fields, Faithful f.decoder) (independent : Independent fields)
    {empty : σ} (fresh : ∀ f ∈ fields, f.isSet empty = false) {depth : Nat} {t : Tree} {v : Json}
    (found : t.value? depth = some v) (single : t.Unrepeated (fields.map (·.name))) :
    (record name fields empty).Alike depth t v := by
  cases Tree.valued found with
  | @object depth members pairs inside =>
    rw [Tree.Unrepeated, Tree.keys, Tree.membersKeys inside] at single
    have once := Members.onceOfCount single
    have same := Members.listedPerm once
    have read : Agree (readMembers fields depth empty members) (readValues fields empty (Members.ofList pairs)) := by
      intro s
      rw [readMembersAlike faithful independent inside once (fun f member _ => fresh f member) s,
        ← readValuesListed _ pairs, ← readValuesListed _ (Members.ofList pairs)]
      exact (readValuesPerm independent same ((same.map _).nodup_iff.mpr once) empty s).symm
    rw [Alike, recordObjectTree, recordObjectValue]
    exact read.bind fun _ _ => .refl _
  | array inside =>
    intro s
    rw [recordArrayTree, recordArrayValue]
    exact readPositionsAlike faithful inside _ 0 empty s
  | _ => exact fun a => by simp [record]

/-! ### Whole texts -/

theorem decodeTextOf {d : Decoder α} {e : Decoder β} {text : String} {a : α} {b : β}
    (decoded : d.decodeText text = .ok a)
    (also : ∀ depth t, d.ofTree depth t = .ok a → e.ofTree depth t = .ok b) : e.decodeText text = .ok b := by
  simp only [decodeText] at decoded ⊢
  split at decoded
  · contradiction
  · rename_i own
    split at decoded
    · rename_i whole
      cases decoded
      simp only [also _ _ own, whole, if_true]
    · contradiction

theorem decodeTextAlike {d : Decoder α} {text : String} {v : Json} (parsed : parse text = some v)
    (alike : ∀ depth, (Tree.ofText text).1.value? depth = some v → d.Alike depth (Tree.ofText text).1 v) (a : α) :
    d.decodeText text = .ok a ↔ d.ofValue v = .ok a := by
  unfold parse at parsed
  split at parsed
  · rename_i t whole
    rw [whole] at alike
    rw [← alike _ parsed a]
    simp only [decodeText, whole, if_true]
    cases d.ofTree Tree.maxDepth t <;> simp
  · contradiction

end Decoder
end CloudClient.Json
