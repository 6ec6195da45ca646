import Mathlib.Data.BitVec

/-!
# Loops on machine words

Unsigned additions and subtractions that fault instead of wrapping, and `while` loops that are given
a number of turns. A turn of a loop is a partial step: `none` where its condition is false.
-/

namespace NtsTimeServer.Lib

inductive WordFault
  | overflow
  | underflow
  deriving DecidableEq, Repr

variable {bits : Nat}

def addExact (a b : BitVec bits) : Except WordFault (BitVec bits) :=
  if a.toNat + b.toNat < 2 ^ bits then .ok (a + b) else .error .overflow

def subExact (a b : BitVec bits) : Except WordFault (BitVec bits) :=
  if b.toNat ≤ a.toNat then .ok (a - b) else .error .underflow

@[simp] theorem WordFault.ok_bind {α β : Type} (a : α) (rest : α → Except WordFault β) :
    (.ok a >>= rest) = rest a := rfl

theorem addExact_ok {a b : BitVec bits} (fits : a.toNat + b.toNat < 2 ^ bits) :
    ∃ sum, addExact a b = .ok sum ∧ sum.toNat = a.toNat + b.toNat :=
  ⟨a + b, if_pos fits, BitVec.toNat_add_of_lt fits⟩

theorem subExact_ok {a b : BitVec bits} (below : b.toNat ≤ a.toNat) :
    ∃ rest, subExact a b = .ok rest ∧ rest.toNat = a.toNat - b.toNat :=
  ⟨a - b, if_pos below, BitVec.toNat_sub_of_le (BitVec.le_def.mpr below)⟩

theorem toNat_shiftRight_one (a : BitVec bits) : (a >>> 1).toNat = a.toNat / 2 := by
  rw [BitVec.toNat_ushiftRight, Nat.shiftRight_eq_div_pow, pow_one]

theorem toNat_shiftRight_two (a : BitVec bits) : (a >>> 2).toNat = a.toNat / 4 := by
  rw [BitVec.toNat_ushiftRight, Nat.shiftRight_eq_div_pow]

/-! ## Loops -/

variable {σ ε : Type*}

/-- Why a loop has no result: a fault of one of its turns, or more turns than it was given. -/
inductive LoopStop (ε : Type*)
  | fault (err : ε)
  | running
  deriving DecidableEq, Repr

def loop (turn : σ → Except ε (Option σ)) : Nat → σ → Except (LoopStop ε) σ
  | 0, _ => .error .running
  | fuel + 1, s =>
      match turn s with
      | .error err => .error (.fault err)
      | .ok none => .ok s
      | .ok (some next) => loop turn fuel next

variable {turn : σ → Except ε (Option σ)}

theorem loop_ok {invariant : Nat → σ → Prop}
    (step : ∀ n s, invariant n s → turn s = .ok none ∨
      ∃ m next, turn s = .ok (some next) ∧ m < n ∧ invariant m next)
    {n fuel : Nat} {s : σ} (start : invariant n s) (enough : n < fuel) :
    ∃ m final, loop turn fuel s = .ok final ∧ m ≤ n ∧ invariant m final ∧ turn final = .ok none := by
  induction fuel generalizing n s with
  | zero => exact absurd enough n.not_lt_zero
  | succ fuel ih =>
      rcases step n s start with ended | ⟨m, next, taken, fewer, holds⟩
      · exact ⟨n, s, by simp [loop, ended], le_rfl, start, ended⟩
      · obtain ⟨left, final, result, most, holds, ended⟩ :=
          ih holds (fewer.trans_le (Nat.le_of_lt_succ enough))
        exact ⟨left, final, by simp [loop, taken, result], most.trans fewer.le, holds, ended⟩

end NtsTimeServer.Lib
