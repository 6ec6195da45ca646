import Mathlib.Data.List.Basic
import Mathlib.Order.Nat

/-!
# Scanning for the least key

A linear scan that remembers the best index so far and only replaces it by a strictly smaller key.
-/

namespace NtsTimeServer.Lib

variable {ι : Type*}

/-- The index with the least key under `limit`, the first of them, or `best` if there is none. -/
def scanLeast (matching : ι → Bool) (key : ι → Nat) : List ι → Option ι → Nat → Option ι
  | [], best, _ => best
  | i :: rest, best, limit =>
      if matching i ∧ key i < limit then scanLeast matching key rest (some i) (key i)
      else scanLeast matching key rest best limit

variable {matching : ι → Bool} {key : ι → Nat}

theorem scanLeast_some {list : List ι} {best : Option ι} {limit : Nat} {i : ι}
    (found : scanLeast matching key list best limit = some i) :
    best = some i ∧ (∀ j ∈ list, matching j = true → limit ≤ key j) ∨
      i ∈ list ∧ matching i = true ∧ key i < limit ∧
        ∀ j ∈ list, matching j = true → key i ≤ key j := by
  induction list generalizing best limit with
  | nil => exact Or.inl ⟨found, by simp⟩
  | cons k rest ih =>
      rw [scanLeast] at found
      split at found
      · rename_i better
        refine Or.inr ?_
        rcases ih found with ⟨same, least⟩ | ⟨member, matched, less, least⟩
        · obtain rfl := Option.some.inj same
          refine ⟨List.mem_cons_self, better.1, better.2, ?_⟩
          intro j member matched
          rcases List.mem_cons.mp member with rfl | member
          · exact le_rfl
          · exact least j member matched
        · refine ⟨List.mem_cons_of_mem _ member, matched, less.trans better.2, ?_⟩
          intro j member' matched'
          rcases List.mem_cons.mp member' with rfl | member'
          · exact less.le
          · exact least j member' matched'
      · rename_i worse
        have above : matching k = true → limit ≤ key k := fun matched =>
          not_lt.mp fun less => worse ⟨matched, less⟩
        rcases ih found with ⟨same, least⟩ | ⟨member, matched, less, least⟩
        · refine Or.inl ⟨same, ?_⟩
          intro j member matched
          rcases List.mem_cons.mp member with rfl | member
          · exact above matched
          · exact least j member matched
        · refine Or.inr ⟨List.mem_cons_of_mem _ member, matched, less, ?_⟩
          intro j member' matched'
          rcases List.mem_cons.mp member' with rfl | member'
          · exact less.le.trans (above matched')
          · exact least j member' matched'

theorem scanLeast_least {list : List ι} {limit : Nat} {i : ι}
    (found : scanLeast matching key list none limit = some i) :
    i ∈ list ∧ matching i = true ∧ key i < limit ∧
      ∀ j ∈ list, matching j = true → key i ≤ key j := by
  rcases scanLeast_some found with ⟨none, -⟩ | least
  · cases none
  · exact least

theorem scanLeast_none {list : List ι} {best : Option ι} {limit : Nat}
    (missed : scanLeast matching key list best limit = none) :
    best = none ∧ ∀ j ∈ list, matching j = true → limit ≤ key j := by
  induction list generalizing best limit with
  | nil => exact ⟨missed, by simp⟩
  | cons k rest ih =>
      rw [scanLeast] at missed
      split at missed
      · cases (ih missed).1
      · rename_i worse
        obtain ⟨none, above⟩ := ih missed
        refine ⟨none, fun j member matched => ?_⟩
        rcases List.mem_cons.mp member with rfl | member
        · exact not_lt.mp fun less => worse ⟨matched, less⟩
        · exact above j member matched

end NtsTimeServer.Lib
