import CloudClient.Text.Basic
/-! Numbers of 64 bits in decimal: which texts are read as one, and that every number is read back. -/
namespace CloudClient.Text

structure Decimal (s : String) (n : Nat) : Prop where
  small : n < UInt64.size
  written : ∃ digits, (s.toList = digits ∨ s.toList = '+' :: digits) ∧ digits ≠ [] ∧
    (∀ c ∈ digits, c.isDigit) ∧ Nat.ofDigitChars 10 digits 0 = n

variable {digits : List Char} {m n : Nat} {s : String}

theorem digitsFailed (digits : List Char) :
    digits.foldl (fun (n : Option Nat) c => n.bind fun n =>
      if '0' ≤ c ∧ c ≤ '9' then some (n * 10 + (c.toNat - '0'.toNat)) else none) none = none := by
  induction digits with
  | nil => rfl
  | cons c digits ih => exact ih

theorem digitsFolded :
    digits.foldl (fun n c => n.bind fun n =>
        if '0' ≤ c ∧ c ≤ '9' then some (n * 10 + (c.toNat - '0'.toNat)) else none) (some m) = some n ↔
      (∀ c ∈ digits, c.isDigit) ∧ Nat.ofDigitChars 10 digits m = n := by
  induction digits generalizing m with
  | nil => simp
  | cons c digits ih =>
    rw [List.foldl_cons, List.forall_mem_cons, Nat.ofDigitChars_cons, Nat.mul_comm 10, Option.bind_some]
    by_cases inside : '0' ≤ c ∧ c ≤ '9'
    · have digit : c.isDigit := Char.isDigit_iff_toNat.mpr inside
      rw [if_pos inside, ih]
      simp only [digit, true_and]
    · have other : ¬ c.isDigit := fun digit => inside (Char.isDigit_iff_toNat.mp digit)
      rw [if_neg inside, digitsFailed]
      simp only [reduceCtorEq, other, false_and]

theorem unsignedDigits (decimal : ∀ c ∈ digits, c.isDigit) : unsigned digits = digits := by
  unfold unsigned
  split
  · exact absurd (decimal '+' List.mem_cons_self) (by decide)
  · rfl

theorem unsignedWritten (decimal : ∀ c ∈ digits, c.isDigit) (written : s.toList = digits ∨ s.toList = '+' :: digits) :
    unsigned s.toList = digits := by
  rcases written with plain | signed
  · rw [plain, unsignedDigits decimal]
  · rw [signed]
    rfl

theorem nat64Iff : nat64? s = some n ↔ Decimal s n := by
  constructor
  · intro read
    unfold nat64? at read
    dsimp only at read
    split at read
    · nomatch read
    · rename_i given
      obtain ⟨value, folded, bounded⟩ := Option.bind_eq_some_iff.mp read
      obtain ⟨decimal, valued⟩ := digitsFolded.mp folded
      split at bounded
      · rename_i small
        cases bounded
        refine ⟨small, unsigned s.toList, ?_, by simpa using given, decimal, valued⟩
        unfold unsigned
        split
        · rename_i plus
          exact .inr plus
        · exact .inl rfl
      · nomatch bounded
  · rintro ⟨small, digits, written, given, decimal, valued⟩
    have folded : digitsValue? digits = some n := digitsFolded.mpr ⟨decimal, valued⟩
    rw [nat64?, unsignedWritten decimal written]
    simp only [List.isEmpty_iff, given, if_false, folded, Option.bind_some, if_pos small]

theorem decimalText (small : n < UInt64.size) : Decimal (toString n) n where
  small
  written := ⟨Nat.toDigits 10 n, .inl Nat.toList_repr, Nat.toDigits_ne_nil,
    fun _ member => Nat.isDigit_of_mem_toDigits (by decide) (by decide) member, Nat.ofDigitChars_ten_toDigits⟩

theorem nat64OfText (n : Nat) : nat64? (toString n) = if n < UInt64.size then some n else none := by
  split
  · rename_i small
    exact nat64Iff.mpr (decimalText small)
  · rename_i large
    refine Option.eq_none_iff_forall_ne_some.mpr fun m read => large ?_
    obtain ⟨small, digits, written, -, decimal, valued⟩ := nat64Iff.mp read
    have text : (toString n).toList = Nat.toDigits 10 n := Nat.toList_repr
    have own : ∀ c ∈ Nat.toDigits 10 n, c.isDigit := fun _ member =>
      Nat.isDigit_of_mem_toDigits (by decide) (by decide) member
    have same : Nat.toDigits 10 n = digits := by
      rw [← unsignedWritten decimal written, text, unsignedDigits own]
    rw [← same, Nat.ofDigitChars_ten_toDigits] at valued
    exact valued ▸ small

end CloudClient.Text
