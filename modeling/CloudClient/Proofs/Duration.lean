import CloudClient.Duration
/-! Spans in words. A span is held in a word of seconds and a word of the nanoseconds after them, and it is multiplied
word by word. The carry between them loses nothing, and the words fail just where the product is longer than every
span. -/
namespace CloudClient.Duration

structure Words where
  seconds : UInt64
  nanos : UInt32
  below : nanos.toNat < nanosPerSecond

namespace Words

def span (w : Words) : Duration := ⟨w.seconds.toNat * nanosPerSecond + w.nanos.toNat⟩

def second : UInt64 := 1000000000

/-- A word for a number, unless the number is beyond all words and the word has wrapped around. -/
def unwrapped? (word : UInt64) (n : Nat) : Option UInt64 := if n < UInt64.size then some word else none

def plus? (a b : UInt64) : Option UInt64 := unwrapped? (a + b) (a.toNat + b.toNat)

def times? (a b : UInt64) : Option UInt64 := unwrapped? (a * b) (a.toNat * b.toNat)

def rest (nanos : UInt64) : UInt32 := (nanos % second).toUInt32

theorem restNat (nanos : UInt64) : (rest nanos).toNat = nanos.toNat % nanosPerSecond := by
  have small : nanos.toNat % nanosPerSecond < 2 ^ 32 := Nat.lt_trans (Nat.mod_lt _ (by decide)) (by decide)
  rw [rest, UInt64.toNat_toUInt32, UInt64.toNat_mod]
  exact Nat.mod_eq_of_lt small

def scale? (w : Words) (n : UInt32) : Option Words :=
  let nanos := w.nanos.toUInt64 * n.toUInt64
  (times? w.seconds n.toUInt64).bind fun product =>
    (plus? product (nanos / second)).map fun seconds =>
      ⟨seconds, rest nanos, restNat nanos ▸ Nat.mod_lt _ (by decide)⟩

theorem unwrappedIff {word c : UInt64} {n : Nat} (wraps : word.toNat = n % UInt64.size) :
    unwrapped? word n = some c ↔ c.toNat = n := by
  unfold unwrapped?
  split
  · rename_i fits
    rw [Option.some_inj, ← UInt64.toNat_inj, wraps, Nat.mod_eq_of_lt fits, eq_comm]
  · rename_i beyond
    have small := c.toNat_lt_size
    simp only [reduceCtorEq, false_iff]
    omega

theorem plusIff {a b c : UInt64} : plus? a b = some c ↔ c.toNat = a.toNat + b.toNat :=
  unwrappedIff (UInt64.toNat_add a b)

theorem timesIff {a b c : UInt64} : times? a b = some c ↔ c.toNat = a.toNat * b.toNat :=
  unwrappedIff (UInt64.toNat_mul a b)

theorem nanosApart (w : Words) (n : UInt32) :
    (w.nanos.toUInt64 * n.toUInt64).toNat = w.nanos.toNat * n.toNat := by
  have small : w.nanos.toNat * n.toNat < nanosPerSecond * UInt32.size :=
    Nat.mul_lt_mul_of_lt_of_le w.below (Nat.le_of_lt n.toNat_lt_size) (by decide)
  -- a second's nanoseconds take 30 bits and a factor 32, so that a word has room for both
  rw [UInt64.toNat_mul, UInt32.toNat_toUInt64, UInt32.toNat_toUInt64]
  exact Nat.mod_eq_of_lt (Nat.lt_trans small (by decide))

theorem carried {seconds nanos product apart : Nat} (below : nanos < nanosPerSecond) :
    seconds * nanosPerSecond + nanos = product * nanosPerSecond + apart ↔
      seconds = product + apart / nanosPerSecond ∧ nanos = apart % nanosPerSecond := by
  unfold nanosPerSecond at *
  omega

theorem spanScaled {w v : Words} {n : Nat} : v.span = w.span.scale n ↔
    v.seconds.toNat = w.seconds.toNat * n + w.nanos.toNat * n / nanosPerSecond ∧
      v.nanos.toNat = w.nanos.toNat * n % nanosPerSecond := by
  have apart : (w.seconds.toNat * nanosPerSecond + w.nanos.toNat) * n =
      w.seconds.toNat * n * nanosPerSecond + w.nanos.toNat * n := by
    rw [Nat.add_mul, Nat.mul_right_comm]
  rw [← carried v.below, ← apart]
  exact ⟨congrArg Duration.nanos, congrArg Duration.mk⟩

theorem scaledIff {w v : Words} {n : UInt32} : w.scale? n = some v ↔ v.span = w.span.scale n.toNat := by
  have filled : (w.nanos.toUInt64 * n.toUInt64 / second).toNat = w.nanos.toNat * n.toNat / nanosPerSecond := by
    rw [UInt64.toNat_div, nanosApart]
    rfl
  have left : (rest (w.nanos.toUInt64 * n.toUInt64)).toNat = w.nanos.toNat * n.toNat % nanosPerSecond := by
    rw [restNat, nanosApart]
  simp only [scale?, Option.bind_eq_some_iff, Option.map_eq_some_iff, timesIff, plusIff, filled,
    UInt32.toNat_toUInt64]
  rw [spanScaled]
  constructor
  · rintro ⟨product, whole, seconds, sum, rfl⟩
    exact ⟨whole ▸ sum, left⟩
  · rintro ⟨sum, nanos⟩
    -- the seconds alone fit a word, as they do with what is carried over to them
    have small : w.seconds.toNat * n.toNat < UInt64.size :=
      Nat.lt_of_le_of_lt (sum ▸ Nat.le_add_right _ _) v.seconds.toNat_lt_size
    obtain ⟨seconds, kept, below⟩ := v
    have same : rest (w.nanos.toUInt64 * n.toUInt64) = kept := UInt32.toNat_inj.mp (left.trans nanos.symm)
    refine ⟨.ofNatLT _ small, UInt64.toNat_ofNatLT, seconds, ?_, ?_⟩
    · rw [UInt64.toNat_ofNatLT]
      exact sum
    · simp only [same]

end Words

def Held (d : Duration) : Prop := ∃ w : Words, w.span = d

theorem heldIff {d : Duration} : d.Held ↔ d < limit := by
  constructor
  · rintro ⟨w, rfl⟩
    have word := w.seconds.toNat_lt_size
    have below := w.below
    simp only [lt_def, limit, nanos_ofSeconds, Words.span]
    unfold nanosPerSecond UInt64.size at *
    omega
  · intro short
    have word : d.seconds < UInt64.size := (Nat.div_lt_iff_lt_mul (by decide)).mpr short
    have below : d.nanos % nanosPerSecond < nanosPerSecond := Nat.mod_lt _ (by decide)
    have small : d.nanos % nanosPerSecond < UInt32.size := Nat.lt_trans below (by decide)
    refine ⟨⟨.ofNatLT d.seconds word, .ofNatLT _ small, ?_⟩, congrArg mk ?_⟩
    · rwa [UInt32.toNat_ofNatLT]
    · rw [UInt64.toNat_ofNatLT, UInt32.toNat_ofNatLT, Nat.mul_comm]
      exact Nat.div_add_mod _ _

theorem Held.shorter {d e : Duration} (held : e.Held) (order : d ≤ e) : d.Held :=
  heldIff.mpr (Nat.lt_of_le_of_lt order (heldIff.mp held))

theorem checkedHeld {d : Duration} (held : d.Held) : d.checked = some d := if_pos (heldIff.mp held)

theorem checkedUnheld {d : Duration} (unheld : ¬ d.Held) : d.checked = none :=
  if_neg fun short => unheld (heldIff.mpr short)

theorem Words.scaled (w : Words) (n : UInt32) : (w.scale? n).map span = (w.span.scale n.toNat).checked := by
  cases product : w.scale? n with
  | some v =>
    have is := scaledIff.mp product
    rw [Option.map_some, is, checkedHeld ⟨v, is⟩]
  | none =>
    refine (checkedUnheld fun ⟨v, is⟩ => ?_).symm
    rw [scaledIff.mpr is] at product
    contradiction

theorem scaleMono {d : Duration} {m n : Nat} (order : m ≤ n) : d.scale m ≤ d.scale n := Nat.mul_le_mul_left _ order

theorem leScale {d : Duration} {n : Nat} (positive : 0 < n) : d ≤ d.scale n := Nat.le_mul_of_pos_right _ positive

end CloudClient.Duration
