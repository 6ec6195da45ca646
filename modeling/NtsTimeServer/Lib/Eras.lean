import Mathlib.Data.Nat.Basic

/-!
# A counter without its eras

A count is known by its residue modulo `size` only; the counts with the same quotient are one era.
Residues compare as the counts do inside an era, and an era that comes later is at least `size` on.
-/

namespace NtsTimeServer.Lib

def eraStart (size count : Nat) : Nat := size * (count / size)

theorem residue_add_eraStart (size count : Nat) : count % size + eraStart size count = count :=
  Nat.mod_add_div count size

theorem eraStart_mono (size : Nat) {first second : Nat} (le : first ≤ second) :
    eraStart size first ≤ eraStart size second :=
  Nat.mul_le_mul_left size (Nat.div_le_div_right le)

theorem eraStart_eq_or_later (size : Nat) {first second : Nat} (le : first ≤ second) :
    eraStart size second = eraStart size first ∨
      eraStart size first + size ≤ eraStart size second := by
  have quotients : first / size ≤ second / size := Nat.div_le_div_right le
  rcases Nat.eq_or_lt_of_le quotients with same | later
  · exact Or.inl (by rw [eraStart, eraStart, same])
  · refine Or.inr ?_
    calc eraStart size first + size
      _ = size * (first / size + 1) := (Nat.mul_succ _ _).symm
      _ ≤ eraStart size second := Nat.mul_le_mul_left size later

end NtsTimeServer.Lib
