import Mathlib.Algebra.BigOperators.Fin
import Mathlib.Algebra.Order.Chebyshev
import Mathlib.Data.Nat.Sqrt
import NtsTimeServer.Lib.Rounding

/-!
# Samples of a measured value

The sum of squares of integer samples, their successive differences, and how the mean, the root of
the mean square and the extremes of the samples lie to one another.
-/

namespace NtsTimeServer.Lib

def sumSquares (values : List Int) : Nat := (values.map fun value => value.natAbs ^ 2).sum

def differences (values : List Int) : List Int :=
  (values.tail.zip values).map fun (later, earlier) => later - earlier

theorem sum_sq_le (values : List Int) :
    values.sum.natAbs ^ 2 ≤ values.length * sumSquares values := by
  have chebyshev := sq_sum_le_card_mul_sum_sq (s := Finset.univ)
    (f := fun i : Fin values.length => values[i.1])
  have squares : (sumSquares values : Int) = (values.map fun value => value ^ 2).sum := by
    simp [sumSquares, Nat.cast_list_sum, Function.comp_def]
  rw [Fin.sum_univ_fun_getElem values fun value => value,
    Fin.sum_univ_fun_getElem values fun value => value ^ 2, ← squares, Finset.card_univ,
    Fintype.card_fin, List.map_id', ← Int.natAbs_sq] at chebyshev
  exact_mod_cast chebyshev

theorem roundDiv_le_sqrt {total count squares : Nat} (positive : 0 < count)
    (le : total ^ 2 ≤ count * squares) :
    roundDiv total count ≤ Nat.sqrt (squares / count) + 1 := by
  have below : squares < count * (Nat.sqrt (squares / count) + 1) ^ 2 :=
    Nat.mul_comm _ count ▸ (Nat.div_lt_iff_lt_mul positive).mp (Nat.lt_succ_sqrt' _)
  generalize Nat.sqrt (squares / count) = root at *
  have small : total < count * (root + 1) := by
    apply lt_of_pow_lt_pow_left₀ 2 (Nat.zero_le _)
    calc total ^ 2
        ≤ count * squares := le
      _ < count * (count * (root + 1) ^ 2) := Nat.mul_lt_mul_of_pos_left below positive
      _ = (count * (root + 1)) ^ 2 := by ring
  apply Nat.le_of_lt_succ
  apply roundDiv_lt positive
  have next : (root + 1).succ * count = count * (root + 1) + count := by
    rw [Nat.succ_mul, Nat.mul_comm]
  omega

/-! ## Least and greatest -/

theorem isLeast_foldl_min {α : Type*} [LinearOrder α] (values : List α) (start : α) :
    IsLeast { value | value = start ∨ value ∈ values } (values.foldl min start) := by
  induction values generalizing start with
  | nil => simp [IsLeast, lowerBounds]
  | cons value rest ih =>
      obtain ⟨member, least⟩ := ih (min start value)
      rw [List.foldl_cons]
      constructor
      · rcases member with eq | member
        · rw [Set.mem_ofPred_eq, eq]
          rcases min_choice start value with first | second
          · exact Or.inl first
          · exact Or.inr (by simp [second])
        · exact Or.inr (List.mem_cons_of_mem _ member)
      · rintro other (rfl | member)
        · exact (least (Or.inl rfl)).trans (min_le_left _ _)
        · rcases List.mem_cons.mp member with rfl | member
          · exact (least (Or.inl rfl)).trans (min_le_right _ _)
          · exact least (Or.inr member)

theorem isLeast_min {values : List Int} (nonempty : values ≠ []) :
    IsLeast { value | value ∈ values } (values.foldl min (values.headD 0)) := by
  obtain ⟨value, rest, rfl⟩ := List.exists_cons_of_ne_nil nonempty
  simpa using isLeast_foldl_min (value :: rest) value

theorem isGreatest_max {values : List Int} (nonempty : values ≠ []) :
    IsGreatest { value | value ∈ values } (values.foldl max (values.headD 0)) := by
  obtain ⟨value, rest, rfl⟩ := List.exists_cons_of_ne_nil nonempty
  have greatest : IsGreatest { other | other = value ∨ other ∈ value :: rest }
      ((value :: rest).foldl max value) := @isLeast_foldl_min Intᵒᵈ _ (value :: rest) value
  simpa using greatest

end NtsTimeServer.Lib
