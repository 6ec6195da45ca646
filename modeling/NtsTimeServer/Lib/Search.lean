import Mathlib.Data.List.Basic

/-!
# Searching a text

The first occurrence of a pattern, and the last occurrence of an element before a position.
-/

namespace NtsTimeServer.Lib

variable {α : Type*}

def OccursAt (pattern text : List α) (offset : Nat) : Prop := pattern <+: text.drop offset

structure FirstAt (pattern text : List α) (offset : Nat) : Prop where
  occurs : OccursAt pattern text offset
  first : ∀ earlier, earlier < offset → ¬OccursAt pattern text earlier

theorem FirstAt.unique {pattern text : List α} {i j : Nat} (here : FirstAt pattern text i)
    (there : FirstAt pattern text j) : i = j := by
  rcases Nat.lt_trichotomy i j with less | same | more
  · exact absurd here.occurs (there.first i less)
  · exact same
  · exact absurd there.occurs (here.first j more)

variable [DecidableEq α]

def findPattern (pattern : List α) : List α → Option Nat
  | [] => if pattern = [] then some 0 else none
  | a :: rest => if pattern.isPrefixOf (a :: rest) then some 0 else (findPattern pattern rest).map (· + 1)

theorem findPattern_eq_none_iff {pattern text : List α} :
    findPattern pattern text = none ↔ ∀ offset, ¬OccursAt pattern text offset := by
  induction text with
  | nil =>
      rw [findPattern]
      simp [OccursAt]
  | cons a rest ih =>
      rw [findPattern]
      split
      next here =>
        refine ⟨nofun, fun nowhere => absurd ?_ (nowhere 0)⟩
        exact List.isPrefixOf_iff_prefix.mp here
      next elsewhere =>
        rw [ List.isPrefixOf_iff_prefix] at elsewhere
        rw [Option.map_eq_none_iff, ih]
        constructor
        · intro nowhere offset
          cases offset with
          | zero => exact elsewhere
          | succ offset => exact nowhere offset
        · intro nowhere offset
          exact nowhere (offset + 1)

theorem findPattern_eq_some_iff {pattern text : List α} {offset : Nat} :
    findPattern pattern text = some offset ↔ FirstAt pattern text offset := by
  induction text generalizing offset with
  | nil =>
      rw [findPattern]
      constructor
      · intro found
        split at found
        next empty =>
          obtain rfl := Option.some.inj found
          exact ⟨by simp [OccursAt, empty], nofun⟩
        · cases found
      · intro here
        have empty : pattern = [] := by simpa [OccursAt] using here.occurs
        have zero : 0 = offset := by
          refine FirstAt.unique ⟨?_, nofun⟩ here
          rw [empty]
          exact List.nil_prefix
        rw [if_pos empty, zero]
  | cons a rest ih =>
      rw [findPattern]
      split
      next here =>
        have atStart : FirstAt pattern (a :: rest) 0 := ⟨ List.isPrefixOf_iff_prefix.mp here, nofun⟩
        rw [Option.some.injEq]
        constructor
        · rintro rfl
          exact atStart
        · intro there
          exact atStart.unique there
      next elsewhere =>
        rw [ List.isPrefixOf_iff_prefix] at elsewhere
        rw [Option.map_eq_some_iff]
        constructor
        · rintro ⟨before, found, rfl⟩
          have here := ih.mp found
          refine ⟨here.occurs, fun earlier less => ?_⟩
          cases earlier with
          | zero => exact elsewhere
          | succ earlier => exact here.first earlier (by omega)
        · intro here
          cases offset with
          | zero => exact absurd here.occurs elsewhere
          | succ offset =>
              refine ⟨offset, ih.mpr ⟨here.occurs, fun earlier less => ?_⟩, rfl⟩
              exact here.first (earlier + 1) (by omega)

end NtsTimeServer.Lib
