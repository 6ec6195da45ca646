import Mathlib.Algebra.BigOperators.Group.List.Basic
import Mathlib.Algebra.GroupWithZero.Nat
import Mathlib.Data.Nat.Basic

/-!
# Token buckets

A bucket holds at most `capacity` tokens. Each request first gains some tokens and is then allowed if
there is one left, which it takes.
-/

namespace NtsTimeServer.Lib

/-- The answers to requests that gain the given tokens, from a bucket that holds `tokens`. -/
def bucketRun (capacity : Nat) : Nat → List Nat → List Bool
  | _, [] => []
  | tokens, gain :: gains =>
      let filled := min (tokens + gain) capacity
      decide (0 < filled) :: bucketRun capacity (filled - 1) gains

def gained (gains : List Nat) (count : Nat) : Nat := (gains.take count).sum

@[simp] theorem gained_zero (gains : List Nat) : gained gains 0 = 0 := rfl

@[simp] theorem gained_cons_succ (gain : Nat) (gains : List Nat) (count : Nat) :
    gained (gain :: gains) (count + 1) = gain + gained gains count := by
  rw [gained, List.take_succ_cons, List.sum_cons, gained]

/-- From the start on the requests never outrun the tokens there are. -/
def WithinTokens (tokens : Nat) (gains : List Nat) : Prop :=
  ∀ last < gains.length, last + 1 ≤ tokens + gained gains (last + 1)

/-- From any request on the requests never outrun a full bucket. -/
def WithinCapacity (capacity : Nat) (gains : List Nat) : Prop :=
  ∀ first last, first ≤ last → last < gains.length →
    last + 1 + gained gains (first + 1) ≤ first + capacity + gained gains (last + 1)

theorem withinTokens_cons {tokens gain : Nat} {gains : List Nat} :
    WithinTokens tokens (gain :: gains) ↔
      0 < tokens + gain ∧ WithinTokens (tokens + gain - 1) gains := by
  constructor
  · intro within
    have now := within 0 (Nat.succ_pos _)
    rw [gained_cons_succ, gained_zero] at now
    refine ⟨by omega, fun last inside => ?_⟩
    have later := within (last + 1) (Nat.succ_lt_succ inside)
    rw [gained_cons_succ] at later
    omega
  · rintro ⟨now, later⟩ last inside
    rw [gained_cons_succ]
    cases last with
    | zero =>
        rw [gained_zero]
        omega
    | succ last =>
        have := later last (Nat.lt_of_succ_lt_succ inside)
        omega

theorem withinCapacity_cons {capacity gain : Nat} {gains : List Nat} :
    WithinCapacity capacity (gain :: gains) ↔
      0 < capacity ∧ WithinTokens (capacity - 1) gains ∧ WithinCapacity capacity gains := by
  constructor
  · intro within
    have now := within 0 0 le_rfl (Nat.succ_pos _)
    refine ⟨by omega, fun last inside => ?_, fun first last order inside => ?_⟩
    · have later := within 0 (last + 1) (Nat.zero_le _) (Nat.succ_lt_succ inside)
      rw [gained_cons_succ, gained_cons_succ, gained_zero] at later
      omega
    · have later := within (first + 1) (last + 1) (Nat.succ_le_succ order) (Nat.succ_lt_succ inside)
      rw [gained_cons_succ, gained_cons_succ] at later
      omega
  · rintro ⟨now, later, rest⟩ first last order inside
    rw [gained_cons_succ, gained_cons_succ]
    cases last with
    | zero =>
        obtain rfl := Nat.le_zero.mp order
        omega
    | succ last =>
        have inside' := Nat.lt_of_succ_lt_succ inside
        cases first with
        | zero =>
            have := later last inside'
            rw [gained_zero]
            omega
        | succ first =>
            have := rest first last (Nat.le_of_succ_le_succ order) inside'
            omega

theorem withinTokens_min {tokens other : Nat} {gains : List Nat} :
    WithinTokens (min tokens other) gains ↔ WithinTokens tokens gains ∧ WithinTokens other gains := by
  simp only [WithinTokens]
  constructor
  · intro within
    refine ⟨fun last inside => ?_, fun last inside => ?_⟩ <;>
      · have := within last inside
        omega
  · rintro ⟨first, second⟩ last inside
    have := first last inside
    have := second last inside
    omega

theorem bucketRun_all_iff {capacity tokens : Nat} {gains : List Nat} :
    (∀ allowed ∈ bucketRun capacity tokens gains, allowed = true) ↔
      WithinTokens tokens gains ∧ WithinCapacity capacity gains := by
  induction gains generalizing tokens with
  | nil => simp [bucketRun, WithinTokens, WithinCapacity]
  | cons gain gains ih =>
      have split : min (tokens + gain) capacity - 1 = min (tokens + gain - 1) (capacity - 1) := by
        omega
      have some : 0 < min (tokens + gain) capacity ↔ 0 < tokens + gain ∧ 0 < capacity := by omega
      rw [bucketRun, List.forall_mem_cons, decide_eq_true_iff, ih, split, withinTokens_min,
        withinTokens_cons, withinCapacity_cons, some]
      constructor
      · rintro ⟨⟨first, full⟩, ⟨tokens, capacity⟩, rest⟩
        exact ⟨⟨first, tokens⟩, full, capacity, rest⟩
      · rintro ⟨⟨first, tokens⟩, full, capacity, rest⟩
        exact ⟨⟨first, full⟩, ⟨tokens, capacity⟩, rest⟩

theorem bucketRun_full_iff {capacity : Nat} {gains : List Nat} :
    (∀ allowed ∈ bucketRun capacity capacity (0 :: gains), allowed = true) ↔
      WithinCapacity capacity (0 :: gains) := by
  rw [bucketRun_all_iff, and_iff_right_iff_imp]
  intro within last inside
  have := within 0 last (Nat.zero_le _) inside
  rw [gained_cons_succ] at this
  omega

end NtsTimeServer.Lib
