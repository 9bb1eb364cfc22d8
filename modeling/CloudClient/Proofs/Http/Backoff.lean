import CloudClient.Proofs.Duration
import CloudClient.Proofs.Http.Retrying
/-! Delays grow from the first one of a policy up to its longest. The product of the first delay and a factor is taken
before it is cut to the longest delay, so that it may be longer than every span; but no delay fails before one that
does not, and none fails at all where the first one is below `2 ^ 32` seconds. -/
namespace CloudClient.Http

open Duration (Words)

namespace Backoff

def growth : Backoff → Nat → Nat
  | constant, _ => 1
  | linear, attempt => attempt + 1
  | exponential, attempt => min (Nat.pow 2 attempt) (UInt32.size - 1)

def growthWord : Backoff → UInt32 → UInt32
  | constant, _ => 1
  | linear, attempt => attempt + 1
  | exponential, attempt =>
    if Nat.pow 2 attempt.toNat < UInt32.size then .ofNat (Nat.pow 2 attempt.toNat) else .ofNat maxFactor

variable {a b : Nat}

theorem factorIs (kind : Backoff) (attempt : Nat) : kind.factor attempt = kind.growth attempt := by
  cases kind with
  | constant | linear => rfl
  | exponential =>
    simp only [factor, growth]
    split
    · rename_i few
      have small : Nat.pow 2 attempt ≤ Nat.pow 2 31 := Nat.pow_le_pow_right (by decide) (Nat.le_of_lt_succ few)
      exact (Nat.min_eq_left (Nat.le_trans small (by decide))).symm
    · rename_i many
      have large : Nat.pow 2 32 ≤ Nat.pow 2 attempt := Nat.pow_le_pow_right (by decide) (Nat.not_lt.mp many)
      exact (Nat.min_eq_right (Nat.le_trans (by decide) large)).symm

theorem growthPositive (kind : Backoff) (attempt : Nat) : 0 < kind.growth attempt := by
  cases kind with
  | constant => exact Nat.one_pos
  | linear => exact Nat.succ_pos attempt
  | exponential => exact Nat.lt_min.mpr ⟨Nat.pow_pos (by decide), by decide⟩

theorem growthMono (kind : Backoff) (order : a ≤ b) : kind.growth a ≤ kind.growth b := by
  cases kind with
  | constant => exact Nat.le_refl 1
  | linear => exact Nat.succ_le_succ order
  | exponential =>
    have power : Nat.pow 2 a ≤ Nat.pow 2 b := Nat.pow_le_pow_right (by decide) order
    exact Nat.le_min.mpr ⟨Nat.le_trans (Nat.min_le_left _ _) power, Nat.min_le_right _ _⟩

theorem growthSmall (kind : Backoff) (small : a < UInt32.size - 1) : kind.growth a < UInt32.size := by
  cases kind with
  | constant => exact (by decide : 1 < UInt32.size)
  | linear => exact Nat.add_lt_of_lt_sub small
  | exponential => exact Nat.lt_of_le_of_lt (Nat.min_le_right _ _) (by decide)

theorem growthWords (kind : Backoff) {attempt : UInt32} (small : attempt.toNat < UInt32.size - 1) :
    (kind.growthWord attempt).toNat = kind.growth attempt.toNat := by
  have fits := kind.growthSmall small
  cases kind with
  | constant => rfl
  | linear =>
    rw [growthWord, UInt32.toNat_add]
    exact Nat.mod_eq_of_lt fits
  | exponential =>
    simp only [growthWord, growth]
    split
    · rename_i short
      rw [UInt32.toNat_ofNat_of_lt' short]
      exact (Nat.min_eq_left (Nat.le_sub_one_of_lt short)).symm
    · rename_i long
      have top : UInt32.size - 1 ≤ Nat.pow 2 attempt.toNat := Nat.le_trans (by decide) (Nat.not_lt.mp long)
      rw [Nat.min_eq_right top]
      rfl

end Backoff

namespace RetryPolicy

variable {p : RetryPolicy} {a b : Nat}

theorem validIff : p.validate = .ok () ↔ p.initialDelay ≤ p.maxDelay := by
  unfold validate
  split
  · rename_i longer
    simp only [reduceCtorEq, false_iff]
    exact Nat.not_le.mpr longer
  · rename_i within
    simp only [true_iff]
    exact Nat.not_lt.mp within

def product (p : RetryPolicy) (attempt : Nat) : Duration := p.initialDelay.scale (p.backoff.growth attempt)

theorem delayChecked (p : RetryPolicy) (attempt : Nat) :
    p.delay? attempt = (p.product attempt).checked.map (min · p.maxDelay) := by
  rw [delay?, product, Backoff.factorIs]

theorem delayHeld (held : (p.product a).Held) : p.delay? a = some (min (p.product a) p.maxDelay) := by
  rw [delayChecked, Duration.checkedHeld held, Option.map_some]

theorem delayUnheld (unheld : ¬ (p.product a).Held) : p.delay? a = Option.none := by
  rw [delayChecked, Duration.checkedUnheld unheld, Option.map_none]

theorem productMono (order : a ≤ b) : p.product a ≤ p.product b :=
  Duration.scaleMono (p.backoff.growthMono order)

theorem productHeld (small : a < UInt32.size - 1) (short : p.initialDelay < .ofSeconds UInt32.size) :
    (p.product a).Held := by
  have factor := p.backoff.growthSmall small
  refine Duration.heldIff.mpr (Nat.lt_of_lt_of_le (Nat.mul_lt_mul'' short factor) ?_)
  decide

theorem ascending (valid : p.validate = .ok ()) (order : a ≤ b) :
    p.initialDelay ≤ min (p.product a) p.maxDelay ∧
      min (p.product a) p.maxDelay ≤ min (p.product b) p.maxDelay ∧ min (p.product b) p.maxDelay ≤ p.maxDelay := by
  have within : p.initialDelay ≤ p.maxDelay := validIff.mp valid
  have first : p.initialDelay ≤ p.product a := Duration.leScale (p.backoff.growthPositive a)
  have grows : p.product a ≤ p.product b := productMono order
  simp only [Duration.le_def, Duration.nanos_min] at *
  omega

theorem delayScaled {attempt : UInt32} (small : attempt.toNat < UInt32.size - 1) {w : Words}
    (held : w.span = p.initialDelay) : p.delay? attempt.toNat =
      (w.scale? (p.backoff.growthWord attempt)).map fun product => min product.span p.maxDelay := by
  rw [delayChecked, product, ← held, ← p.backoff.growthWords small, ← Words.scaled, Option.map_map]
  rfl

theorem backedOff (valid : p.validate = .ok ()) {a b : UInt32} (order : a ≤ b) (small : b.toNat < UInt32.size - 1) :
    let product (attempt : UInt32) := p.initialDelay.scale (p.backoff.growth attempt.toNat)
    ((product b).Held → (product a).Held ∧ ∃ early late, p.delay? a.toNat = some early ∧
      p.delay? b.toNat = some late ∧ p.initialDelay ≤ early ∧ early ≤ late ∧ late ≤ p.maxDelay ∧
      early = min (product a) p.maxDelay) ∧
    (¬ (product b).Held → p.delay? b.toNat = Option.none) ∧
    (p.initialDelay < .ofSeconds UInt32.size → (product b).Held) ∧
    ∀ w : Words, w.span = p.initialDelay → p.delay? b.toNat =
      (w.scale? (p.backoff.growthWord b)).map fun product => min product.span p.maxDelay := by
  refine ⟨fun held => ?_, delayUnheld, productHeld small, fun w => delayScaled small⟩
  have earlier : (p.product a.toNat).Held := held.shorter (productMono order)
  obtain ⟨least, grows, most⟩ := ascending valid order
  exact ⟨earlier, _, _, delayHeld earlier, delayHeld held, least, grows, most, rfl⟩

theorem backedOffByLargest :
    let p : RetryPolicy := ⟨3, .exponential, ⟨1999999999⟩, .ofMillis UInt64.size⟩
    let w : Words := ⟨1, 999999999, by decide⟩
    let later : UInt32 := 40
    p.validate = .ok () ∧ 1 ≤ later ∧ later.toNat < UInt32.size - 1 ∧ w.span = p.initialDelay ∧
      p.backoff.growth later.toNat = UInt32.size - 1 ∧ (p.initialDelay.scale (p.backoff.growth later.toNat)).Held ∧
      (∃ early late, p.delay? 1 = some early ∧ p.delay? later.toNat = some late ∧ p.initialDelay ≤ early ∧
        early ≤ late ∧ late ≤ p.maxDelay ∧ early = ⟨3999999998⟩) ∧
      p.delay? later.toNat =
        (w.scale? (p.backoff.growthWord later)).map fun product => min product.span p.maxDelay := by
  intro p w later
  obtain ⟨steps, _, safe, words⟩ := backedOff (rfl : p.validate = .ok ()) (by decide : 1 ≤ later) (by decide)
  have held := safe (by decide)
  have first : w.span = p.initialDelay := by decide
  obtain ⟨_, early, late, sooner, after, least, grows, most, exactly⟩ := steps held
  exact ⟨rfl, by decide, by decide, first, by decide, held,
    ⟨early, late, sooner, after, least, grows, most, exactly.trans (by decide)⟩, words w first⟩

end RetryPolicy

namespace Client

variable {c : Client} {r : Request}

theorem waitsAscending (valid : c.config.retry.validate = .ok ())
    (short : c.config.retry.initialDelay < .ofSeconds UInt32.size) (few : c.retriesFor r < UInt32.size)
    {script : Nat → Attempt} (unasked : ∀ i headers body seconds, script i = .reply 429 headers body →
      ¬ Asks headers seconds) :
    let delays := (c.exchange (scripted script) r []).delays
    delays.Pairwise (· ≤ ·) ∧ ∀ d ∈ delays, c.config.retry.initialDelay ≤ d ∧ d ≤ c.config.retry.maxDelay := by
  have settles := settlingSettles script (c.retriesFor r)
  have waited {i : Nat} (before : i < settling script (c.retriesFor r)) :
      delayAfter c.config.retry i (script i) = min (c.config.retry.product i) c.config.retry.maxDelay := by
    have small : i < UInt32.size - 1 :=
      Nat.lt_of_lt_of_le before (Nat.le_trans settles.allowed (Nat.le_sub_one_of_lt few))
    have delay := RetryPolicy.delayHeld (RetryPolicy.productHeld small short)
    have own : c.config.retry.delay? i = some (delayAfter c.config.retry i (script i)) :=
      (delayWaited (Option.isSome_of_eq_some delay) (script i)).policy (unasked i)
    exact Option.some.inj (own.symm.trans delay)
  rw [exchangeScripted]
  constructor
  · refine List.pairwise_map.mpr (List.Pairwise.imp_of_mem ?_ List.pairwise_lt_range)
    intro i j first second order
    rw [waited (List.mem_range.mp first), waited (List.mem_range.mp second)]
    exact (RetryPolicy.ascending valid (Nat.le_of_lt order)).2.1
  · intro d member
    obtain ⟨i, inside, rfl⟩ := List.mem_map.mp member
    rw [waited (List.mem_range.mp inside)]
    obtain ⟨least, _, most⟩ := RetryPolicy.ascending valid (Nat.le_refl i)
    exact ⟨least, most⟩

end Client
end CloudClient.Http
