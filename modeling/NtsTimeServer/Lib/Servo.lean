import Mathlib.Algebra.Order.Field.Basic
import Mathlib.Tactic.Linarith

/-!
# A frequency servo

A servo keeps a frequency, moves it a fraction of the way to the frequency it measures, and keeps it
within a limit. Errors of predictions with the frequency before and after are compared.
-/

namespace NtsTimeServer.Lib

variable {K : Type*} [Field K] [LinearOrder K] [IsStrictOrderedRing K]

def saturate (limit value : K) : K :=
  if limit < value then limit else if value < -limit then -limit else value

theorem abs_saturate_le {limit : K} (nonneg : 0 ≤ limit) (value : K) : |saturate limit value| ≤ limit := by
  unfold saturate
  rw [abs_le]
  split
  · constructor <;> linarith
  · split <;> constructor <;> linarith

theorem saturate_of_abs_le {limit value : K} (within : |value| ≤ limit) : saturate limit value = value := by
  obtain ⟨low, high⟩ := abs_le.mp within
  rw [saturate, if_neg (not_lt.mpr high), if_neg (not_lt.mpr low)]

def PartOf (moved whole : K) : Prop := 0 ≤ moved ∧ moved ≤ whole ∨ whole ≤ moved ∧ moved ≤ 0

theorem PartOf.mul_left {moved whole factor : K} (part : PartOf moved whole) (nonneg : 0 ≤ factor) :
    PartOf (factor * moved) (factor * whole) := by
  rcases part with ⟨low, high⟩ | ⟨low, high⟩
  · exact Or.inl ⟨mul_nonneg nonneg low, mul_le_mul_of_nonneg_left high nonneg⟩
  · exact Or.inr ⟨mul_le_mul_of_nonneg_left low nonneg, mul_nonpos_of_nonneg_of_nonpos nonneg high⟩

theorem saturate_partOf {limit start : K} (within : |start| ≤ limit) (move : K) :
    PartOf (saturate limit (start + move) - start) move := by
  obtain ⟨low, high⟩ := abs_le.mp within
  unfold saturate
  split
  · exact Or.inl ⟨by linarith, by linarith⟩
  split
  · exact Or.inr ⟨by linarith, by linarith⟩
  rcases le_total 0 move with up | down
  · exact Or.inl ⟨by linarith, by linarith⟩
  · exact Or.inr ⟨by linarith, by linarith⟩

theorem error_of_corrected {error offset moved gain : K} (gain_nonneg : 0 ≤ gain) (gain_lt : gain < 1)
    (offset_nonneg : 0 ≤ offset) (part : PartOf moved (gain * (error - offset))) :
    (1 - gain) * |error| ≤ |error - moved| + gain * offset := by
  have above := le_abs_self (error - moved)
  have below := neg_abs_le (error - moved)
  have slack : 0 ≤ gain * offset := mul_nonneg gain_nonneg offset_nonneg
  have shrink : (1 - gain) * |error - moved| ≤ |error - moved| := by
    have := mul_nonneg gain_nonneg (abs_nonneg (error - moved))
    linarith
  rcases part with ⟨low, high⟩ | ⟨low, high⟩
  · rcases le_total 0 error with positive | negative
    · rw [abs_of_nonneg positive]
      linarith
    · have scaled : (1 - gain) * -error ≤ (1 - gain) * |error - moved| :=
        mul_le_mul_of_nonneg_left (by linarith) (by linarith)
      rw [abs_of_nonpos negative]
      linarith
  · rcases le_total 0 error with positive | negative
    · have scaled : (1 - gain) * error ≤ (1 - gain) * |error - moved| :=
        mul_le_mul_of_nonneg_left (by linarith) (by linarith)
      rw [abs_of_nonneg positive]
      linarith
    · rw [abs_of_nonpos negative]
      linarith

end NtsTimeServer.Lib
