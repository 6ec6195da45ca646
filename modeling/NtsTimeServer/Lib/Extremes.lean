import Mathlib.Algebra.Order.Group.Abs
import Mathlib.Order.Bounds.Basic
import Mathlib.Data.List.MinMax

/-!
# Extremes of a set of values
-/

namespace NtsTimeServer.Lib

section

variable {α : Type*} [AddCommGroup α] [LinearOrder α] [IsOrderedAddMonoid α] {values : Set α} {least greatest : α}

theorem isGreatest_distance (low : IsLeast values least) (high : IsGreatest values greatest) :
    IsGreatest { distance | ∃ a ∈ values, ∃ b ∈ values, |a - b| = distance } (greatest - least) := by
  constructor
  · exact ⟨greatest, high.1, least, low.1, abs_of_nonneg (sub_nonneg.mpr (low.2 high.1))⟩
  · rintro _ ⟨a, memA, b, memB, rfl⟩
    exact abs_sub_le_iff.mpr ⟨sub_le_sub (high.2 memA) (low.2 memB), sub_le_sub (high.2 memB) (low.2 memA)⟩

end

theorem argmin_congr {α β : Type*} [LinearOrder β] {f g : α → β} {list : List α}
    (same : ∀ a ∈ list, f a = g a) : list.argmin f = list.argmin g := by
  induction list using List.reverseRecOn with
  | nil => rfl
  | append_singleton list a ih =>
      rw [List.argmin_concat, List.argmin_concat, ih fun b mem => same b (by simp [mem])]
      cases found : list.argmin g with
      | none => rfl
      | some c =>
          have mem : c ∈ list := List.argmin_mem found
          simp only [same c (by simp [mem]), same a (by simp)]

end NtsTimeServer.Lib
