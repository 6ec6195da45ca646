import Mathlib.Data.Rat.Floor
import Mathlib.Tactic.FieldSimp
import Mathlib.Tactic.Linarith

/-!
# Rounded quotients

The quotient of two naturals to the nearest natural, halves up, as integer arithmetic computes it.
-/

namespace NtsTimeServer.Lib

def roundDiv (numerator denominator : Nat) : Nat := (numerator + denominator / 2) / denominator

variable {denominator : Nat}

theorem roundDiv_eq_iff (positive : 0 < denominator) {numerator quotient : Nat} :
    roundDiv numerator denominator = quotient ↔
      quotient * denominator ≤ numerator + denominator / 2 ∧
        numerator + denominator / 2 < (quotient + 1) * denominator := by
  rw [roundDiv, Nat.div_eq_iff positive]
  have next : (quotient + 1) * denominator = quotient * denominator + denominator := Nat.succ_mul _ _
  omega

theorem roundDiv_eq_floor (positive : 0 < denominator) (numerator : Nat) :
    (roundDiv numerator denominator : ℤ) = ⌊(numerator : ℚ) / denominator + 1 / 2⌋ := by
  obtain ⟨low, high⟩ := (roundDiv_eq_iff positive).mp (Eq.refl (roundDiv numerator denominator))
  have low' : 2 * (roundDiv numerator denominator * denominator) ≤ 2 * numerator + denominator := by
    omega
  have high' : 2 * numerator + denominator < 2 * ((roundDiv numerator denominator + 1) * denominator) := by
    omega
  have scale : (0 : ℚ) < denominator := Nat.cast_pos.mpr positive
  have half : (numerator : ℚ) / denominator + 1 / 2 = (2 * numerator + denominator) / (2 * denominator) := by
    field_simp
  rw [eq_comm, Int.floor_eq_iff, half, le_div_iff₀ (by linarith), div_lt_iff₀ (by linarith)]
  have lowCast : (2 * (roundDiv numerator denominator * denominator) : ℚ) ≤ 2 * numerator + denominator :=
    mod_cast low'
  have highCast : (2 * numerator + denominator : ℚ) <
      2 * ((roundDiv numerator denominator + 1) * denominator) := mod_cast high'
  push_cast
  constructor <;> linarith

theorem roundDiv_error (positive : 0 < denominator) (numerator : Nat) :
    |(roundDiv numerator denominator : ℚ) - numerator / denominator| ≤ 1 / 2 := by
  have floor : ((roundDiv numerator denominator : ℤ) : ℚ) =
      ⌊(numerator : ℚ) / denominator + 1 / 2⌋ := by
    rw [roundDiv_eq_floor positive]
  rw [Int.cast_natCast] at floor
  have low := Int.floor_le ((numerator : ℚ) / denominator + 1 / 2)
  have high := Int.lt_floor_add_one ((numerator : ℚ) / denominator + 1 / 2)
  rw [floor, abs_le]
  constructor <;> linarith

theorem roundDiv_add_mul (positive : 0 < denominator) (whole part : Nat) :
    roundDiv (whole * denominator + part) denominator = whole + roundDiv part denominator := by
  rw [roundDiv, Nat.add_assoc, Nat.mul_comm, Nat.mul_add_div positive, roundDiv]

/-- The whole denominators can be taken out before scaling. -/
theorem roundDiv_split (positive : 0 < denominator) (numerator scale : Nat) :
    roundDiv (numerator * scale) denominator =
      numerator / denominator * scale + roundDiv (numerator % denominator * scale) denominator := by
  rw [← roundDiv_add_mul positive]
  congr 1
  calc numerator * scale
      = (numerator / denominator * denominator + numerator % denominator) * scale := by
        rw [Nat.div_add_mod']
    _ = _ := by rw [Nat.add_mul, Nat.mul_right_comm]

theorem roundDiv_lt {numerator bound : Nat} (positive : 0 < denominator)
    (below : numerator + denominator / 2 < bound * denominator) : roundDiv numerator denominator < bound :=
  (Nat.div_lt_iff_lt_mul positive).mpr below

theorem roundDiv_roundDiv {coarse fine : Nat} (positive : 0 < coarse) (finer : coarse < fine)
    (count : Nat) : roundDiv (roundDiv (count * fine) coarse * coarse) fine = count := by
  obtain ⟨low, high⟩ := (roundDiv_eq_iff positive).mp (Eq.refl (roundDiv (count * fine) coarse))
  rw [roundDiv_eq_iff (positive.trans finer)]
  rw [Nat.succ_mul] at high ⊢
  omega

theorem roundDiv_strictMono {coarse fine : Nat} (positive : 0 < coarse) (finer : coarse ≤ fine) :
    StrictMono fun count => roundDiv (count * fine) coarse := by
  intro first second less
  change roundDiv (first * fine) coarse < roundDiv (second * fine) coarse
  refine Nat.lt_of_succ_le ((Nat.le_div_iff_mul_le positive).mpr ?_)
  have low := ((roundDiv_eq_iff positive).mp (Eq.refl (roundDiv (first * fine) coarse))).1
  have step : (first + 1) * fine ≤ second * fine := Nat.mul_le_mul_right fine less
  rw [Nat.succ_mul] at step ⊢
  omega

/-! ## Halves away from zero -/

def roundAway (q : ℚ) : ℤ := if 0 ≤ q then ⌊q + 1 / 2⌋ else ⌈q - 1 / 2⌉

theorem roundAway_of_nonneg {q : ℚ} (nonneg : 0 ≤ q) : roundAway q = ⌊q + 1 / 2⌋ := if_pos nonneg

theorem roundAway_neg (q : ℚ) : roundAway (-q) = -roundAway q := by
  rcases lt_trichotomy q 0 with negative | zero | positive
  · rw [roundAway, roundAway, if_pos (by linarith), if_neg (by linarith), ← Int.floor_neg]
    congr 1
    ring
  · norm_num [zero, roundAway]
  · rw [roundAway, roundAway, if_neg (by linarith), if_pos positive.le, ← Int.ceil_neg]
    congr 1
    ring

theorem le_roundAway {m : ℤ} {q : ℚ} (le : m ≤ q) : m ≤ roundAway q := by
  rw [roundAway]
  split
  · exact Int.le_floor.mpr (by linarith)
  · exact Int.le_ceil_iff.mpr (by linarith)

theorem roundAway_le {m : ℤ} {q : ℚ} (le : q ≤ m) : roundAway q ≤ m := by
  have reflected : -m ≤ roundAway (-q) := le_roundAway (by push_cast; linarith)
  rw [roundAway_neg] at reflected
  omega

theorem roundDiv_eq_roundAway (positive : 0 < denominator) (numerator : Nat) :
    (roundDiv numerator denominator : ℤ) = roundAway (numerator / denominator) := by
  rw [roundDiv_eq_floor positive, roundAway_of_nonneg (by positivity)]

/-! ## Quotients toward zero -/

theorem tdiv_split_of_nonneg {divisor scale n : Int} (positive : 0 < divisor) (factor : 0 ≤ scale)
    (nonneg : 0 ≤ n) :
    n.tdiv divisor * scale + (n.tmod divisor * scale).tdiv divisor = (n * scale).tdiv divisor := by
  have rest : 0 ≤ n % divisor * scale := mul_nonneg (Int.emod_nonneg n positive.ne') factor
  rw [Int.tdiv_eq_ediv_of_nonneg nonneg, Int.tmod_eq_emod_of_nonneg nonneg,
    Int.tdiv_eq_ediv_of_nonneg rest, Int.tdiv_eq_ediv_of_nonneg (mul_nonneg nonneg factor)]
  have split : n * scale = n % divisor * scale + n / divisor * scale * divisor := by
    calc n * scale
        = (n % divisor + divisor * (n / divisor)) * scale := by rw [Int.emod_add_mul_ediv]
      _ = _ := by ring
  rw [split, Int.add_mul_ediv_right _ _ positive.ne', add_comm]

theorem tdiv_split {divisor scale : Int} (positive : 0 < divisor) (factor : 0 ≤ scale) (n : Int) :
    n.tdiv divisor * scale + (n.tmod divisor * scale).tdiv divisor = (n * scale).tdiv divisor := by
  rcases Int.le_total 0 n with nonneg | nonpos
  · exact tdiv_split_of_nonneg positive factor nonneg
  · have reflected := tdiv_split_of_nonneg positive factor (Int.neg_nonneg_of_nonpos nonpos)
    rw [Int.neg_tdiv, Int.neg_tmod, neg_mul, neg_mul, neg_mul, Int.neg_tdiv, Int.neg_tdiv] at reflected
    omega

theorem tdiv_error {divisor : Int} (positive : 0 < divisor) (n : Int) :
    |(n.tdiv divisor : ℚ) - n / divisor| < 1 := by
  have scale : (0 : ℚ) < divisor := Int.cast_pos.mpr positive
  have parts : (n : ℚ) / divisor = n.tdiv divisor + n.tmod divisor / divisor := by
    have split : (n : ℚ) = divisor * n.tdiv divisor + n.tmod divisor := by
      exact_mod_cast (Int.mul_tdiv_add_tmod n divisor).symm
    rw [split]
    field_simp
  have small : |n.tmod divisor| < divisor :=
    abs_lt.mpr ⟨Int.lt_tmod_of_pos n positive, Int.tmod_lt_of_pos n positive⟩
  rw [parts, sub_add_cancel_left, abs_neg, abs_div, abs_of_pos scale, div_lt_one scale]
  exact_mod_cast small

end NtsTimeServer.Lib
