import Mathlib.Data.List.DropRight
import Mathlib.Data.List.Rotate

/-!
# A ring that is turned back to its oldest entry

A ring of `k` cells of which `count` are filled and the cell `next` is written next. When a full ring
has been written in the middle, it is rotated so that its oldest entry is in cell 0 again.
-/

namespace NtsTimeServer.Lib

variable {α β : Type*} {k count next : Nat} {cells past : List α}

def ringCount (k count : Nat) : Nat := if count < k then count + 1 else count

def ringCells (k : Nat) (cells : List α) (count next : Nat) (x : α) : List α :=
  let written := cells.set next x
  let after := (next + 1) % k
  if ringCount k count = k ∧ after ≠ 0 then written.rotate after else written

def ringNext (k count next : Nat) : Nat :=
  let after := (next + 1) % k
  if ringCount k count = k ∧ after ≠ 0 then 0 else after

/-- The ring holds the last entries of `past` in their order, from cell 0 on. -/
structure Window (k : Nat) (cells : List α) (count next : Nat) (past : List α) : Prop where
  length_eq : cells.length = k
  count_eq : count = min past.length k
  next_eq : next = if past.length < k then past.length else 0
  kept : cells.take count = past.rtake k

namespace Window

theorem empty (positive : 0 < k) (length_eq : cells.length = k) : Window k cells 0 0 [] := by
  constructor <;> simp [length_eq, positive]

theorem next_lt (window : Window k cells count next past) (positive : 0 < k) : next < k := by
  rw [window.next_eq]
  split <;> assumption

theorem filling (window : Window k cells count next past) (x : α) (room : past.length < k) :
    Window k (ringCells k cells count next x) (ringCount k count) (ringNext k count next)
      (past ++ [x]) := by
  have next_eq : next = past.length := by simp [window.next_eq, room]
  have count_eq : count = past.length := by simp [window.count_eq, room.le]
  have counted : ringCount k count = past.length + 1 := by simp [ringCount, count_eq, room]
  -- the cell after the last one is cell 0, so that becoming full turns nothing
  have straight : ¬(ringCount k count = k ∧ (next + 1) % k ≠ 0) := by
    rintro ⟨full, turned⟩
    rw [counted, ← next_eq] at full
    simp [full] at turned
  have written : ringCells k cells count next x = cells.set past.length x := by
    rw [ringCells, if_neg straight, next_eq]
  have moved : ringNext k count next = (past.length + 1) % k := by
    rw [ringNext, if_neg straight, next_eq]
  have read : cells.take past.length = past := by
    have kept := window.kept
    rw [count_eq, List.rtake, Nat.sub_eq_zero_of_le room.le] at kept
    simpa using kept
  rw [written, moved, counted]
  constructor
  · simp [window.length_eq]
  · simp only [List.length_append, List.length_singleton]
    omega
  · rcases Nat.lt_or_ge (past.length + 1) k with more | full
    · simp [more, Nat.mod_eq_of_lt more]
    · have equal : past.length + 1 = k := by omega
      simp [equal]
  · rw [List.rtake, Nat.sub_eq_zero_of_le (by simp; omega), List.drop_zero, List.take_add_one,
      List.take_set_of_le le_rfl, read]
    simp [window.length_eq, room]

theorem turning (window : Window k cells count next past) (x : α) (positive : 0 < k)
    (full : k ≤ past.length) :
    Window k (ringCells k cells count next x) (ringCount k count) (ringNext k count next)
      (past ++ [x]) := by
  have next_eq : next = 0 := by simp [window.next_eq, Nat.not_lt.mpr full]
  have count_eq : count = k := by simp [window.count_eq, full]
  have counted : ringCount k count = k := by simp [ringCount, count_eq]
  obtain ⟨size, rfl⟩ : ∃ size, k = size + 1 := ⟨k - 1, by omega⟩
  have kept : cells = past.rtake (size + 1) := by
    rw [← window.kept, count_eq, ← window.length_eq, List.take_length]
  obtain ⟨oldest, rest, split_cells⟩ := List.exists_cons_of_length_eq_add_one window.length_eq
  have dropped : past.rtake size = rest := by
    have : past.rtake size = (past.rtake (size + 1)).drop 1 := by
      simp only [List.rtake, List.drop_drop]
      congr 1
      omega
    rw [this, ← kept, split_cells, List.drop_one, List.tail_cons]
  have turned : ringCells (size + 1) cells count next x = rest ++ [x] := by
    simp only [ringCells, counted, next_eq, split_cells, List.set_cons_zero]
    cases size with
    | zero =>
        have length_eq := window.length_eq
        simp only [split_cells, List.length_cons, Nat.add_right_cancel_iff,
          List.length_eq_zero_iff] at length_eq
        simp [length_eq]
    | succ size => simp [List.rotate_eq_rotate']
  have zero : ringNext (size + 1) count next = 0 := by
    simp only [ringNext, counted, true_and]
    split
    · rfl
    · rename_i straight
      exact not_not.mp straight
  rw [turned, zero, counted]
  have length_eq : (rest ++ [x]).length = size + 1 := by
    rw [← window.length_eq, split_cells]
    simp
  constructor
  · exact length_eq
  · simp only [List.length_append, List.length_singleton]
    omega
  · rw [List.length_append, List.length_singleton, if_neg (by omega)]
  · rw [List.rtake_concat_succ, dropped, ← length_eq, List.take_length]

theorem push (window : Window k cells count next past) (x : α) (positive : 0 < k) :
    Window k (ringCells k cells count next x) (ringCount k count) (ringNext k count next)
      (past ++ [x]) := by
  rcases Nat.lt_or_ge past.length k with room | full
  · exact window.filling x room
  · exact window.turning x positive full

theorem neighbours (window : Window k cells count next past) :
    (cells.take count).tail.zip (cells.take count) <:+ past.tail.zip past := by
  rw [window.kept, List.rtake]
  have zipped : ∀ n, ((past.drop n).tail.zip (past.drop n)) = (past.tail.zip past).drop n := by
    intro n
    simp [List.zip, List.drop_zipWith]
  rw [zipped]
  exact List.drop_suffix _ _

end Window

theorem Window.zip {others otherPast : List β} (window : Window k cells count next past)
    (other : Window k others count next otherPast) (same : past.length = otherPast.length) :
    (cells.zip others).take count = (past.zip otherPast).rtake k := by
  rw [List.zip, List.take_zipWith, window.kept, other.kept, List.rtake, List.rtake, List.rtake,
    List.drop_zipWith, same]
  simp [same]

end NtsTimeServer.Lib
