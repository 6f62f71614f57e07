import Mathlib.Tactic.IntervalCases
import Mathlib.Tactic.Positivity

/-!
# Delays between callback attempts

`callback/worker.go`: the delay doubles with each attempt until it reaches a maximum. Durations,
in nanoseconds, and attempt numbers are 64-bit integers, and the guard before the product is a
comparison with a quotient, so that no product wraps around.
-/

namespace MinimaxProxy.Callback

/-- The delays of a `Worker` (worker.go:22). -/
structure Worker where
  initialBackoff : Int64
  maxBackoff : Int64

/-- The exponent: `attempt - 1`, at most 30. -/
def power (attempt : Int64) : Int64 := if attempt - 1 > 30 then 30 else attempt - 1

/-- `time.Duration(1) << power`. -/
def factor (attempt : Int64) : Int64 := 1 <<< power attempt

namespace Worker

/-- The initial delay, `time.Second` where none is set. -/
def initial (w : Worker) : Int64 := if w.initialBackoff ≤ 0 then 1000000000 else w.initialBackoff

/-- The maximum delay, `5 * time.Minute` where none is set. -/
def maximum (w : Worker) : Int64 := if w.maxBackoff ≤ 0 then 300000000000 else w.maxBackoff

/-- The guard of `backoff`: the product would pass the maximum. -/
def capped (w : Worker) (attempt : Int64) : Bool := w.initial ≥ w.maximum || w.initial > w.maximum / factor attempt

/-- `backoff` (worker.go:97). -/
def backoff (w : Worker) (attempt : Int64) : Int64 := if w.capped attempt then w.maximum else w.initial * factor attempt

end Worker

/-! ## The factor -/

section
variable {attempt : Int64}

theorem power_toInt (first : 1 ≤ attempt) : (power attempt).toInt = min (attempt.toInt - 1) 30 := by
  have least : 1 ≤ attempt.toInt := Int64.le_iff_toInt_le.mp first
  have most := attempt.toInt_lt
  have unwrapped : (attempt - 1).toInt = attempt.toInt - 1 := by
    rw [Int64.toInt_sub]
    exact Int.bmod_eq_of_le (by simp; omega) (by simp; omega)
  unfold power
  split
  · next above =>
    have : (30 : Int) < attempt.toInt - 1 := unwrapped ▸ Int64.lt_iff_toInt_lt.mp above
    rw [min_eq_right (by omega)]
    rfl
  · next within =>
    have : ¬ (30 : Int) < attempt.toInt - 1 := fun above => within (Int64.lt_iff_toInt_lt.mpr (unwrapped ▸ above))
    rw [min_eq_left (by omega), unwrapped]

/-- A shift by at most 30 places is a power of two. -/
theorem shift_toInt {p : Int64} (least : 0 ≤ p.toInt) (most : p.toInt ≤ 30) : ((1 : Int64) <<< p).toInt = 2 ^ p.toInt.toNat := by
  rw [← p.ofInt_toInt]
  generalize p.toInt = k at *
  rw [Int64.toInt_ofInt_of_le (by omega) (by omega)]
  interval_cases k <;> rfl

theorem factor_toInt (first : 1 ≤ attempt) : (factor attempt).toInt = 2 ^ (min (attempt.toInt - 1) 30).toNat := by
  have least : 1 ≤ attempt.toInt := Int64.le_iff_toInt_le.mp first
  rw [factor, shift_toInt, power_toInt first]
  · rw [power_toInt first]
    omega
  · rw [power_toInt first]
    omega

theorem factor_pos (first : 1 ≤ attempt) : 0 < (factor attempt).toInt := by
  rw [factor_toInt first]
  positivity

end

/-! ## The delay -/

namespace Worker
variable {w : Worker} {attempt : Int64}

theorem initial_pos (w : Worker) : 0 < w.initial.toInt := by
  unfold initial
  split
  · decide
  · next set => exact Int64.lt_iff_toInt_lt.mp (Int64.not_le.mp set)

theorem maximum_pos (w : Worker) : 0 < w.maximum.toInt := by
  unfold maximum
  split
  · decide
  · next set => exact Int64.lt_iff_toInt_lt.mp (Int64.not_le.mp set)

/-- The guard, over the integers: the quotient rounds down, so it decides about the product. -/
theorem not_capped_iff (first : 1 ≤ attempt) : w.capped attempt = false ↔
    w.initial.toInt < w.maximum.toInt ∧ w.initial.toInt * (factor attempt).toInt ≤ w.maximum.toInt := by
  have quotient : (w.maximum / factor attempt).toInt = w.maximum.toInt / (factor attempt).toInt := by
    rw [Int64.toInt_div_of_ne_left, Int.tdiv_eq_ediv_of_nonneg (maximum_pos w).le]
    intro least
    have := maximum_pos w
    rw [least] at this
    revert this
    decide
  rw [← Int.le_ediv_iff_mul_le (factor_pos first), ← quotient]
  simp only [capped, Bool.or_eq_false_iff, decide_eq_false_iff_not, ge_iff_le, gt_iff_lt, Int64.le_iff_toInt_le, Int64.lt_iff_toInt_lt,
    not_le, not_lt]

/-- Where the code multiplies, the product does not wrap around. -/
theorem product_exact (first : 1 ≤ attempt) (multiplies : w.capped attempt = false) :
    (w.initial * factor attempt).toInt = w.initial.toInt * (factor attempt).toInt := by
  obtain ⟨-, fits⟩ := (not_capped_iff first).mp multiplies
  have positive := Int.mul_pos (initial_pos w) (factor_pos first)
  have bound := w.maximum.toInt_lt
  rw [Int64.toInt_mul]
  exact Int.bmod_eq_of_le (by simp; omega) (by simp; omega)

theorem backoff_toInt (w : Worker) (first : 1 ≤ attempt) :
    (w.backoff attempt).toInt = min w.maximum.toInt (w.initial.toInt * (factor attempt).toInt) := by
  unfold backoff
  cases capped : w.capped attempt with
  | false =>
    obtain ⟨-, fits⟩ := (not_capped_iff first).mp capped
    exact (product_exact first capped).trans (min_eq_right fits).symm
  | true =>
    have beyond : ¬ (w.initial.toInt < w.maximum.toInt ∧ w.initial.toInt * (factor attempt).toInt ≤ w.maximum.toInt) :=
      fun within => by simp [(not_capped_iff first).mpr within] at capped
    -- A factor is at least 1, so an initial delay past the maximum leaves the product past it too.
    have grows : w.initial.toInt ≤ w.initial.toInt * (factor attempt).toInt :=
      le_mul_of_one_le_right (initial_pos w).le (factor_pos first)
    rw [if_pos rfl, min_eq_left (by omega)]

theorem factor_mono {later : Int64} (first : 1 ≤ attempt) (after : attempt ≤ later) : (factor attempt).toInt ≤ (factor later).toInt := by
  have order := Int64.le_iff_toInt_le.mp after
  have start := Int64.le_iff_toInt_le.mp first
  rw [factor_toInt first, factor_toInt (Int64.le_trans first after)]
  exact pow_le_pow_right₀ (by decide) (by omega)

/-- The delay is the integer minimum, is positive and never decreases, and the product the code
computes for it is exact. -/
theorem backoff_exact (w : Worker) (first : 1 ≤ attempt) :
    (w.capped attempt = false → (w.initial * factor attempt).toInt = w.initial.toInt * (factor attempt).toInt) ∧
    (w.backoff attempt).toInt = min w.maximum.toInt (w.initial.toInt * 2 ^ (min (attempt.toInt - 1) 30).toNat) ∧
    0 < (w.backoff attempt).toInt ∧ ∀ later, attempt ≤ later → w.backoff attempt ≤ w.backoff later := by
  refine ⟨product_exact first, factor_toInt first ▸ backoff_toInt w first, ?_, fun later after => ?_⟩
  · rw [backoff_toInt w first]
    exact lt_min (maximum_pos w) (Int.mul_pos (initial_pos w) (factor_pos first))
  · rw [Int64.le_iff_toInt_le, backoff_toInt w first, backoff_toInt w (Int64.le_trans first after)]
    have grows := Int.mul_le_mul_of_nonneg_left (factor_mono first after) (initial_pos w).le
    exact min_le_min_left _ grows

/-- Attempts 1 and 4 of a worker with a minute at most. -/
theorem backoff_exact_minute : (Worker.backoff ⟨1000000000, 60000000000⟩ 1).toInt = 1000000000 ∧
    (Worker.backoff ⟨1000000000, 60000000000⟩ 1) ≤ (Worker.backoff ⟨1000000000, 60000000000⟩ 4) :=
  ⟨(backoff_exact ⟨1000000000, 60000000000⟩ (by decide)).2.1, (backoff_exact ⟨1000000000, 60000000000⟩ (by decide)).2.2.2 4 (by decide)⟩

end Worker
end MinimaxProxy.Callback
