import Mathlib.Algebra.Order.Group.Unbundled.Int
import Mathlib.Tactic.Ring

/-!
# Arithmetic that may leave its type

An operation whose result the machine type does not hold has no result.
-/

namespace NtsTimeServer.Lib

def InSigned (bits : Nat) (n : Int) : Prop := -2 ^ (bits - 1) ≤ n ∧ n < 2 ^ (bits - 1)

instance (bits : Nat) (n : Int) : Decidable (InSigned bits n) := inferInstanceAs (Decidable (_ ∧ _))

def signed (bits : Nat) (n : Int) : Option Int := if InSigned bits n then some n else none

def unsigned (bits n : Nat) : Option Nat := if n < 2 ^ bits then some n else none

variable {bits : Nat} {σ : Type*} {α β : Type}

theorem signed_eq {n : Int} (fits : InSigned bits n) : signed bits n = some n := if_pos fits

theorem unsigned_eq {n : Nat} (fits : n < 2 ^ bits) : unsigned bits n = some n := if_pos fits

theorem yields {first : Option α} {rest : α → Option β} {a : α} {b : β} (value : first = some a)
    (result : rest a = some b) : (first >>= rest) = some b := by
  rw [value]
  exact result

theorem foldlM_some {step : σ → α → Option σ} {total : σ → α → σ} (held : σ → Prop)
    {list : List α} {s : σ} (start : held s)
    (steps : ∀ s, ∀ x ∈ list, held s → step s x = some (total s x) ∧ held (total s x)) :
    list.foldlM step s = some (list.foldl total s) ∧ held (list.foldl total s) := by
  induction list generalizing s with
  | nil => exact ⟨rfl, start⟩
  | cons x rest ih =>
      obtain ⟨stepped, held'⟩ := steps s x List.mem_cons_self start
      rw [List.foldlM_cons, stepped]
      exact ih held' fun s x member => steps s x (List.mem_cons_of_mem _ member)

theorem foldl_of_foldlM {step : σ → α → Option σ} {total : σ → α → σ}
    (agree : ∀ s x t, step s x = some t → total s x = t) {list : List α} {s t : σ}
    (checked : list.foldlM step s = some t) : list.foldl total s = t := by
  induction list generalizing s with
  | nil => exact Option.some.inj checked
  | cons x rest ih =>
      rw [List.foldlM_cons] at checked
      obtain ⟨next, stepped, checked⟩ := Option.bind_eq_some_iff.mp checked
      rw [List.foldl_cons, agree s x next stepped]
      exact ih checked

theorem foldlM_signed {list : List Int} (start : Int)
    (fits : ∀ read, read <+: list → InSigned bits (start + read.sum)) :
    list.foldlM (fun sum n => signed bits (sum + n)) start = some (start + list.sum) := by
  induction list generalizing start with
  | nil => simp
  | cons n rest ih =>
      have first := fits [n] (by simp)
      rw [List.sum_singleton] at first
      rw [List.foldlM_cons, signed_eq first, List.sum_cons, ← add_assoc]
      apply ih
      intro read isPrefix
      have next := fits (n :: read) (by simpa using isPrefix)
      rwa [List.sum_cons, ← add_assoc] at next

end NtsTimeServer.Lib
