import Mathlib.Data.Nat.Sqrt
import Mathlib.Tactic.Linarith
import NtsTimeServer.Model.PeerMeasurement
import NtsTimeServer.Model.SquareRoot

namespace NtsTimeServer.Proof
open Model Lib

/-- With `turns` digits left, `root` is the partial root and `value` is what its square lacks. The
variable `result` of the loop is `root * 2 ^ turns`. -/
structure Digits (total turns root value : Nat) : Prop where
  square : root ^ 2 + value = total
  below : value < 2 * (root * 2 ^ turns) + 4 ^ turns

theorem result_shift (turns root : Nat) : root * 2 ^ (turns + 1) / 2 = root * 2 ^ turns := by
  rw [pow_succ, ← mul_assoc, Nat.mul_div_cancel _ two_pos]

theorem four_pow (turns : Nat) : 4 ^ turns = 2 ^ turns * 2 ^ turns := by
  rw [← mul_pow]
  rfl

theorem result_next (turns root : Nat) :
    root * 2 ^ (turns + 1) / 2 + 4 ^ turns = (root + 2 ^ turns) * 2 ^ turns := by
  rw [result_shift, four_pow]
  ring

namespace Digits

variable {total turns root value : Nat}

theorem start (fits : value < 4 ^ turns) : Digits value turns 0 value :=
  ⟨by simp, by simpa using fits⟩

theorem one (digits : Digits total (turns + 1) root value)
    (fits : root * 2 ^ (turns + 1) + 4 ^ turns ≤ value) :
    Digits total turns (root + 2 ^ turns) (value - (root * 2 ^ (turns + 1) + 4 ^ turns)) := by
  obtain ⟨rest, rfl⟩ := Nat.exists_eq_add_of_le fits
  rw [Nat.add_sub_cancel_left]
  obtain ⟨square, below⟩ := digits
  constructor
  · rw [← square, four_pow]
    ring
  · have doubled : root * 2 ^ (turns + 1) = 2 * (root * 2 ^ turns) := by ring
    have quadrupled : 4 ^ (turns + 1) = 4 * 4 ^ turns := pow_succ' 4 turns
    rw [add_mul, ← four_pow]
    omega

theorem zero (digits : Digits total (turns + 1) root value)
    (small : value < root * 2 ^ (turns + 1) + 4 ^ turns) : Digits total turns root value := by
  refine ⟨digits.square, ?_⟩
  have doubled : root * 2 ^ (turns + 1) = 2 * (root * 2 ^ turns) := by ring
  rwa [doubled] at small

theorem eq_sqrt (digits : Digits total 0 root value) : root = Nat.sqrt total := by
  obtain ⟨square, below⟩ := digits
  rw [pow_zero, pow_zero, mul_one] at below
  apply Nat.eq_sqrt'.mpr
  constructor
  · rw [← square]
    exact Nat.le_add_right _ _
  · rw [← square]
    linarith [add_sq root 1]

end Digits

theorem isqrtLoop_spec {total turns root value : Nat} (digits : Digits total turns root value) :
    isqrtLoop turns value (root * 2 ^ turns) = Nat.sqrt total := by
  induction turns generalizing root value with
  | zero =>
      rw [isqrtLoop, pow_zero, mul_one]
      exact digits.eq_sqrt
  | succ turns ih =>
      rw [isqrtLoop]
      split
      · rename_i fits
        rw [result_next]
        exact ih (digits.one fits)
      · rename_i small
        rw [result_shift]
        exact ih (digits.zero (not_le.mp small))

theorem isqrtTurns_le (value : Nat) (turns : Nat) : isqrtTurns value turns ≤ turns := by
  induction turns with
  | zero => exact le_rfl
  | succ turns ih =>
      rw [isqrtTurns]
      split
      · omega
      · exact le_rfl

theorem lt_isqrtTurns {value turns : Nat} (fits : value < 4 ^ turns) :
    value < 4 ^ isqrtTurns value turns := by
  induction turns with
  | zero => exact fits
  | succ turns ih =>
      rw [isqrtTurns]
      split
      · rename_i above
        exact ih above
      · exact fits

theorem isqrtU64_eq_sqrt {value : Nat} (fits : value < 2 ^ 64) : isqrtU64 value = Nat.sqrt value := by
  have below : value < 4 ^ isqrtTurns value 32 := by
    apply lt_isqrtTurns
    norm_num at fits ⊢
    exact fits
  have spec := isqrtLoop_spec (Digits.start below)
  rwa [zero_mul] at spec

/-! ## Without an overflow -/

theorem tried_fits {turns root : Nat} (within : root + 2 ^ (turns + 1) ≤ 2 ^ 32) :
    root * 2 ^ (turns + 1) + 4 ^ turns < 2 ^ 64 := by
  have positive := Nat.two_pow_pos turns
  rw [pow_succ] at within
  rw [four_pow, pow_succ]
  nlinarith [positive]

theorem isqrtLoopChecked_eq {turns root : Nat} (value : Nat) (within : root + 2 ^ turns ≤ 2 ^ 32) :
    isqrtLoopChecked turns value (root * 2 ^ turns) = some (isqrtLoop turns value (root * 2 ^ turns)) := by
  induction turns generalizing root value with
  | zero => rfl
  | succ turns ih =>
      have tried := tried_fits within
      have positive := Nat.two_pow_pos turns
      have next : root * 2 ^ (turns + 1) / 2 + 4 ^ turns < 2 ^ 64 := by omega
      rw [pow_succ, mul_two] at within
      rw [isqrtLoopChecked, isqrtLoop, unsigned_eq tried]
      dsimp only [Option.bind_eq_bind, Option.bind_some]
      split
      · rw [unsigned_eq next, Option.bind_some, result_next]
        exact ih _ (by omega)
      · rw [result_shift]
        exact ih _ (by omega)

theorem isqrtU64Checked_eq {value : Nat} : isqrtU64Checked value = some (isqrtU64 value) := by
  have within : 0 + 2 ^ isqrtTurns value 32 ≤ 2 ^ 32 := by
    rw [Nat.zero_add]
    exact Nat.pow_le_pow_right two_pos (isqrtTurns_le value 32)
  have checked := isqrtLoopChecked_eq value within
  rwa [zero_mul] at checked

theorem four_pow_div (turns : Nat) : 4 ^ (turns + 1) / 4 = 4 ^ turns := by
  rw [pow_succ, Nat.mul_div_cancel _ four_pos]

structure Lowering (total turns : Nat) (s : IsqrtState) : Prop where
  value : s.value.toNat = total
  result : s.result = 0
  bit : s.bit.toNat = 4 ^ turns / 4
  fits : total < 4 ^ turns

theorem lowerBit_step {total turns : Nat} {s : IsqrtState} (lowering : Lowering total turns s) :
    lowerBit s = .ok none ∨
      ∃ fewer next, lowerBit s = .ok (some next) ∧ fewer < turns ∧ Lowering total fewer next := by
  rw [lowerBit]
  split
  · rename_i above
    right
    rw [gt_iff_lt, BitVec.lt_def, lowering.value, lowering.bit] at above
    cases turns with
    | zero => simp at above
    | succ turns =>
        rw [four_pow_div] at above
        refine ⟨turns, _, rfl, turns.lt_succ_self, lowering.value, lowering.result, ?_, above⟩
        rw [toNat_shiftRight_two, lowering.bit, four_pow_div]
  · exact .inl rfl

structure Extracting (total turns root : Nat) (s : IsqrtState) : Prop where
  digits : Digits total turns root s.value.toNat
  result : s.result.toNat = root * 2 ^ turns
  bit : s.bit.toNat = 4 ^ turns / 4
  within : root + 2 ^ turns ≤ 2 ^ 32

namespace Extracting

variable {total turns root : Nat} {s : IsqrtState}

theorem bit_eq (extracting : Extracting total (turns + 1) root s) : s.bit.toNat = 4 ^ turns := by
  rw [extracting.bit, four_pow_div]

theorem bit_ne (extracting : Extracting total (turns + 1) root s) : s.bit ≠ 0 := by
  intro none
  have bit := extracting.bit_eq
  rw [none] at bit
  exact (Nat.pow_pos four_pos).ne bit

theorem bit_next (extracting : Extracting total (turns + 1) root s) :
    (s.bit >>> 2).toNat = 4 ^ turns / 4 := by
  rw [toNat_shiftRight_two, extracting.bit_eq]

theorem result_half (extracting : Extracting total (turns + 1) root s) :
    (s.result >>> 1).toNat = root * 2 ^ turns := by
  rw [toNat_shiftRight_one, extracting.result, result_shift]

theorem try_ok (extracting : Extracting total (turns + 1) root s) : ∃ tried,
    addExact s.result s.bit = .ok tried ∧ tried.toNat = root * 2 ^ (turns + 1) + 4 ^ turns := by
  have fits := tried_fits extracting.within
  rw [← extracting.result, ← extracting.bit_eq] at fits ⊢
  exact addExact_ok fits

theorem grow_ok (extracting : Extracting total (turns + 1) root s) : ∃ next,
    addExact (s.result >>> 1) s.bit = .ok next ∧ next.toNat = (root + 2 ^ turns) * 2 ^ turns := by
  have fits := tried_fits extracting.within
  rw [← result_next, result_shift, ← extracting.result_half, ← extracting.bit_eq]
  apply addExact_ok
  rw [extracting.result_half, extracting.bit_eq, ← result_shift]
  omega

theorem within_one (extracting : Extracting total (turns + 1) root s) :
    root + 2 ^ turns + 2 ^ turns ≤ 2 ^ 32 := by
  have within := extracting.within
  rwa [pow_succ, mul_two, ← add_assoc] at within

theorem within_zero (extracting : Extracting total (turns + 1) root s) :
    root + 2 ^ turns ≤ 2 ^ 32 :=
  (Nat.le_add_right _ _).trans extracting.within_one

end Extracting

theorem extractDigit_step {total turns root : Nat} {s : IsqrtState}
    (extracting : Extracting total (turns + 1) root s) : ∃ root' next,
      extractDigit s = .ok (some next) ∧ Extracting total turns root' next := by
  obtain ⟨tried, added, tried_eq⟩ := extracting.try_ok
  rw [extractDigit, if_pos extracting.bit_ne, added, WordFault.ok_bind, WordFault.ok_bind]
  by_cases fits : s.value ≥ tried
  · have fits_nat := BitVec.le_def.mp fits
    obtain ⟨rest, subtracted, rest_eq⟩ := subExact_ok fits_nat
    obtain ⟨next, grown, next_eq⟩ := extracting.grow_ok
    rw [tried_eq] at fits_nat rest_eq
    refine ⟨root + 2 ^ turns, ⟨rest, next, s.bit >>> 2⟩, ?_, ?_, next_eq, extracting.bit_next,
      extracting.within_one⟩
    · rw [if_pos fits, subtracted, grown]
      rfl
    · rw [rest_eq]
      exact extracting.digits.one fits_nat
  · have small := BitVec.lt_def.mp (BitVec.not_le.mp fits)
    rw [tried_eq] at small
    refine ⟨root, ⟨s.value, s.result >>> 1, s.bit >>> 2⟩, ?_, extracting.digits.zero small,
      extracting.result_half, extracting.bit_next, extracting.within_zero⟩
    rw [if_neg fits]
    rfl

theorem extractDigit_turn (total turns : Nat) (s : IsqrtState)
    (extracting : ∃ root, Extracting total turns root s) : extractDigit s = .ok none ∨
      ∃ fewer next, extractDigit s = .ok (some next) ∧ fewer < turns ∧
        ∃ root, Extracting total fewer root next := by
  obtain ⟨root, extracting⟩ := extracting
  cases turns with
  | zero =>
      left
      have bit : s.bit = 0 := BitVec.eq_of_toNat_eq extracting.bit
      rw [extractDigit, bit]
      rfl
  | succ turns =>
      right
      obtain ⟨root', next, taken, holds⟩ := extractDigit_step extracting
      exact ⟨turns, next, taken, turns.lt_succ_self, root', holds⟩

theorem extractDigit_over {total turns root : Nat} {s : IsqrtState}
    (extracting : Extracting total turns root s) (ended : extractDigit s = .ok none) :
    s.result.toNat = Nat.sqrt total := by
  cases turns with
  | zero =>
      rw [extracting.result, pow_zero, mul_one]
      exact extracting.digits.eq_sqrt
  | succ turns =>
      obtain ⟨_, _, taken, _⟩ := extractDigit_step extracting
      rw [ended] at taken
      cases taken

theorem top_bit : (1#64 <<< 62).toNat = 4 ^ 32 / 4 := by decide

theorem Lowering.start (value : BitVec 64) :
    Lowering value.toNat 32 { value, result := 0, bit := 1#64 <<< 62 } :=
  ⟨rfl, rfl, top_bit, value.isLt.trans_eq (by norm_num)⟩

theorem Lowering.extracting {total turns : Nat} {s : IsqrtState} (lowering : Lowering total turns s)
    (most : turns ≤ 32) : Extracting total turns 0 s where
  digits := by
    rw [lowering.value]
    exact .start lowering.fits
  result := by simp [lowering.result]
  bit := lowering.bit
  within := by
    rw [Nat.zero_add]
    exact Nat.pow_le_pow_right two_pos most

theorem isqrtU64Run_eq_sqrt {fuel : Nat} (enough : 32 < fuel) (value : BitVec 64) :
    ∃ result, isqrtU64Run fuel value = .ok result ∧ result.toNat = Nat.sqrt value.toNat := by
  obtain ⟨turns, lowered, first, most, lowering, -⟩ :=
    loop_ok (fun _ _ => lowerBit_step) (Lowering.start value) enough
  obtain ⟨_, final, second, -, ⟨root, extracting⟩, ended⟩ :=
    loop_ok (extractDigit_turn value.toNat) ⟨0, lowering.extracting most⟩ (most.trans_lt enough)
  refine ⟨final.result, ?_, extractDigit_over extracting ended⟩
  rw [isqrtU64Run, first]
  simp only [bind, Except.bind, second]
  rfl

theorem isqrtU64Run_eq {fuel : Nat} (enough : 32 < fuel) (value : BitVec 64) :
    isqrtU64Run fuel value = .ok (BitVec.ofNat 64 (isqrtU64 value.toNat)) := by
  obtain ⟨result, returned, root⟩ := isqrtU64Run_eq_sqrt enough value
  rw [returned, isqrtU64_eq_sqrt value.isLt, ← root, BitVec.ofNat_toNat, BitVec.setWidth_eq]

theorem isqrtU64_total (value : BitVec 64) : ∃ result : BitVec 64,
    (∀ fuel, 32 < fuel → isqrtU64Run fuel value = .ok result) ∧
      result.toNat * result.toNat ≤ value.toNat ∧
      value.toNat < (result.toNat + 1) * (result.toNat + 1) := by
  obtain ⟨result, returned, root⟩ := isqrtU64Run_eq_sqrt (Nat.lt_succ_self 32) value
  refine ⟨result, ?_, ?_, ?_⟩
  · intro fuel enough
    have same := isqrtU64Run_eq (Nat.lt_succ_self 32) value
    exact (isqrtU64Run_eq enough value).trans (same.symm.trans returned)
  · rw [root]
    exact Nat.sqrt_le _
  · rw [root]
    exact Nat.lt_succ_sqrt _

example : isqrtU64Run 33 (BitVec.allOnes 64) = .ok (BitVec.ofNat 64 (2 ^ 32 - 1)) := by
  decide +kernel

end NtsTimeServer.Proof
