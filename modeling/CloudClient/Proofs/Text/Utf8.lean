import CloudClient.Text.Utf8
/-! Reading the octets of a text gives the text back: each character is read whole, and the reader stands
between characters again. -/
namespace CloudClient.Text.Utf8

theorem inCodeSpace (c : Char) : c.toNat < 0xD800 ∨ (0xDFFF < c.toNat ∧ c.toNat < 0x110000) :=
  c.valid

theorem decodeFromInside {needed low high bits b : Nat} (rest : List Nat) (fits : low ≤ b ∧ b ≤ high)
    (more : ¬ needed ≤ 1) :
    decodeFrom (.inside needed low high bits) (b :: rest) =
      decodeFrom (.inside (needed - 1) 0x80 0xBF (bits * 0x40 + (b - 0x80))) rest := by
  simp only [decodeFrom, step, if_pos fits, if_neg more, List.nil_append]

theorem decodeFromLast {low high bits b : Nat} (rest : List Nat) (fits : low ≤ b ∧ b ≤ high) :
    decodeFrom (.inside 1 low high bits) (b :: rest) =
      Char.ofNat (bits * 0x40 + (b - 0x80)) :: decodeFrom .start rest := by
  simp [decodeFrom, step, if_pos fits]

theorem decodeFromOpening {b : Nat} {s : State} (rest : List Nat) (opens : openWith b = .more s) :
    decodeFrom .start (b :: rest) = decodeFrom s rest := by
  simp only [decodeFrom, step, enter, opens, List.nil_append]

/-- The first octet of a character of three octets or four narrows the second one, so that no character
has two forms and no half of a surrogate pair has any. -/
theorem opensThree {n : Nat} (large : 0x800 ≤ n) (small : n < 0x10000) (paired : n < 0xD800 ∨ 0xDFFF < n) :
    ∃ low high, openWith (0xE0 + n / 0x1000) = .more (.inside 2 low high (n / 0x1000)) ∧
      low ≤ 0x80 + n / 0x40 % 0x40 ∧ 0x80 + n / 0x40 % 0x40 ≤ high := by
  unfold openWith
  rw [if_neg (by omega), if_neg (by omega)]
  by_cases least : n / 0x1000 = 0
  · rw [if_pos (by omega), least]
    exact ⟨0xA0, 0xBF, rfl, by omega, by omega⟩
  · rw [if_neg (by omega)]
    by_cases beside : n / 0x1000 = 13
    · rw [if_pos (by omega), beside]
      exact ⟨0x80, 0x9F, rfl, by omega, by omega⟩
    · rw [if_neg (by omega), if_pos (by omega), Nat.add_sub_cancel_left]
      exact ⟨0x80, 0xBF, rfl, by omega, by omega⟩

theorem opensFour {n : Nat} (large : 0x10000 ≤ n) (small : n < 0x110000) :
    ∃ low high, openWith (0xF0 + n / 0x40000) = .more (.inside 3 low high (n / 0x40000)) ∧
      low ≤ 0x80 + n / 0x1000 % 0x40 ∧ 0x80 + n / 0x1000 % 0x40 ≤ high := by
  unfold openWith
  rw [if_neg (by omega), if_neg (by omega), if_neg (by omega), if_neg (by omega), if_neg (by omega)]
  by_cases least : n / 0x40000 = 0
  · rw [if_pos (by omega), least]
    exact ⟨0x90, 0xBF, rfl, by omega, by omega⟩
  · rw [if_neg (by omega)]
    by_cases greatest : n / 0x40000 = 4
    · rw [if_neg (by omega), if_pos (by omega), greatest]
      exact ⟨0x80, 0x8F, rfl, by omega, by omega⟩
    · rw [if_pos (by omega), Nat.add_sub_cancel_left]
      exact ⟨0x80, 0xBF, rfl, by omega, by omega⟩

theorem decodeFromEncoded (c : Char) (rest : List Nat) :
    decodeFrom .start (encodeChar c ++ rest) = c :: decodeFrom .start rest := by
  have codes := inCodeSpace c
  have char {n : Nat} (whole : n = c.toNat) : Char.ofNat n = c := by rw [whole, Char.ofNat_toNat]
  rw [encodeChar]
  by_cases one : c.toNat < 0x80
  · simp only [if_pos one, List.cons_append, List.nil_append, decodeFrom, step, enter, openWith, char rfl]
  by_cases two : c.toNat < 0x800
  · have opens : openWith (0xC0 + c.toNat / 0x40) = .more (.inside 1 0x80 0xBF (c.toNat / 0x40)) := by
      unfold openWith
      rw [if_neg (by omega), if_pos (by omega), Nat.add_sub_cancel_left]
    simp only [if_neg one, if_pos two, List.cons_append, List.nil_append]
    rw [decodeFromOpening _ opens, decodeFromLast _ (by omega), char (by omega)]
  by_cases three : c.toNat < 0x10000
  · obtain ⟨low, high, opens, fits⟩ := opensThree (by omega) three (by omega)
    simp only [if_neg one, if_neg two, if_pos three, List.cons_append, List.nil_append]
    rw [decodeFromOpening _ opens, decodeFromInside _ fits (by decide), decodeFromLast _ (by omega),
      char (by omega)]
  · obtain ⟨low, high, opens, fits⟩ := opensFour (by omega) (show c.toNat < 0x110000 by omega)
    simp only [if_neg one, if_neg two, if_neg three, List.cons_append, List.nil_append]
    rw [decodeFromOpening _ opens, decodeFromInside _ fits (by decide), decodeFromInside _ (by omega) (by decide),
      decodeFromLast _ (by omega), char (by omega)]

theorem decodeEncoded (s : List Char) : decode (encode s) = s := by
  unfold decode encode
  induction s with
  | nil => rfl
  | cons c s ih => rw [List.flatMap_cons, decodeFromEncoded, ih]

theorem octetOfChar {c : Char} {n : Nat} (member : n ∈ encodeChar c) : n < 0x100 := by
  have codes := inCodeSpace c
  rw [encodeChar] at member
  by_cases one : c.toNat < 0x80
  · simp only [if_pos one, List.mem_singleton] at member
    omega
  by_cases two : c.toNat < 0x800
  · simp only [if_neg one, if_pos two, List.mem_cons, List.not_mem_nil, or_false] at member
    omega
  by_cases three : c.toNat < 0x10000
  · simp only [if_neg one, if_neg two, if_pos three, List.mem_cons, List.not_mem_nil, or_false] at member
    omega
  · simp only [if_neg one, if_neg two, if_neg three, List.mem_cons, List.not_mem_nil, or_false] at member
    omega

theorem startOfChar (c : Char) : ∃ n octets, encodeChar c = n :: octets ∧ (n < 0x80 → n = c.toNat) := by
  rw [encodeChar]
  by_cases one : c.toNat < 0x80
  · exact ⟨_, _, if_pos one, fun _ => rfl⟩
  by_cases two : c.toNat < 0x800
  · exact ⟨_, _, by rw [if_neg one, if_pos two], fun ascii => by omega⟩
  by_cases three : c.toNat < 0x10000
  · exact ⟨_, _, by rw [if_neg one, if_neg two, if_pos three], fun ascii => by omega⟩
  · exact ⟨_, _, by rw [if_neg one, if_neg two, if_neg three], fun ascii => by omega⟩

theorem octetOfText {s : List Char} {n : Nat} (member : n ∈ encode s) : n < 0x100 := by
  obtain ⟨c, _, inside⟩ := List.mem_flatMap.mp member
  exact octetOfChar inside

theorem encodeAscii {c : Char} (ascii : c.toNat < 0x80) (rest : List Char) :
    encode (c :: rest) = c.toNat :: encode rest := by
  simp only [encode, List.flatMap_cons, encodeChar, if_pos ascii, List.cons_append, List.nil_append]

end CloudClient.Text.Utf8
