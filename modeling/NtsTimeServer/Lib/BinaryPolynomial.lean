import Mathlib.Algebra.Polynomial.Div
import Mathlib.Algebra.Field.ZMod
import Mathlib.Data.Nat.Size
import Mathlib.Tactic.ComputeDegree

/-!
# Numbers as polynomials over GF(2)

The bits of a number are the coefficients of a polynomial. Exclusive or adds, doubling multiplies by `X`,
and numbers below `2 ^ n` are the polynomials of a degree below `n`.
-/

namespace NtsTimeServer.Lib
open Polynomial

noncomputable def bitPolynomial (number : Nat) : (ZMod 2)[X] :=
  ∑ i ∈ Finset.range number.size, if number.testBit i then X ^ i else 0

/-- The number whose bits are the first coefficients of a polynomial. -/
noncomputable def polynomialBits (count : Nat) (polynomial : (ZMod 2)[X]) : Nat :=
  Nat.ofBits fun i : Fin count => decide (polynomial.coeff i = 1)

theorem coeff_bitPolynomial (number i : Nat) :
    (bitPolynomial number).coeff i = if number.testBit i then 1 else 0 := by
  have terms (j : Nat) : (if number.testBit j then X ^ j else 0 : (ZMod 2)[X]).coeff i =
      if j = i then if number.testBit i then 1 else 0 else 0 := by
    by_cases same : j = i
    · subst same
      split <;> simp
    · split <;> simp [coeff_X_pow, Ne.symm same]
  rw [bitPolynomial, finsetSum_coeff, Finset.sum_congr rfl fun j _ => terms j,
    Finset.sum_ite_eq' (Finset.range number.size)]
  split
  · rfl
  next beyond =>
    have large := Nat.size_le.mp (not_lt.mp (Finset.mem_range.not.mp beyond))
    simp [Nat.testBit_lt_two_pow large]

theorem bitPolynomial_xor (first second : Nat) :
    bitPolynomial (first ^^^ second) = bitPolynomial first + bitPolynomial second := by
  ext i
  rw [coeff_add, coeff_bitPolynomial, coeff_bitPolynomial, coeff_bitPolynomial, Nat.testBit_xor]
  cases first.testBit i <;> cases second.testBit i <;> decide

theorem bitPolynomial_two_mul (number : Nat) :
    bitPolynomial (2 * number) = X * bitPolynomial number := by
  ext i
  cases i with
  | zero => simp [coeff_bitPolynomial]
  | succ i =>
      rw [coeff_X_mul, coeff_bitPolynomial, coeff_bitPolynomial, Nat.testBit_succ,
        Nat.mul_div_cancel_left _ (by decide)]

@[simp] theorem bitPolynomial_one : bitPolynomial 1 = 1 := by simp [bitPolynomial]

theorem bitPolynomial_two_pow (exponent : Nat) : bitPolynomial (2 ^ exponent) = X ^ exponent := by
  induction exponent with
  | zero => simp
  | succ exponent ih => rw [pow_succ', bitPolynomial_two_mul, ih, pow_succ']

theorem degree_bitPolynomial_lt {number count : Nat} (small : number < 2 ^ count) :
    (bitPolynomial number).degree < count := by
  rw [degree_lt_iff_coeff_zero]
  intro i beyond
  have : number < 2 ^ i := small.trans_le (Nat.pow_le_pow_right (by decide) beyond)
  simp [coeff_bitPolynomial, Nat.testBit_lt_two_pow this]

theorem polynomialBits_bitPolynomial {number count : Nat} (small : number < 2 ^ count) :
    polynomialBits count (bitPolynomial number) = number := by
  apply Nat.eq_of_testBit_eq
  intro i
  rcases lt_or_ge i count with below | beyond
  · rw [polynomialBits, Nat.testBit_ofBits_lt _ _ below, coeff_bitPolynomial]
    cases number.testBit i <;> decide
  · have : number < 2 ^ i := small.trans_le (Nat.pow_le_pow_right (by decide) beyond)
    rw [polynomialBits, Nat.testBit_ofBits_ge _ _ beyond, Nat.testBit_lt_two_pow this]

/-! ## Doubling in a field of `2 ^ count` elements -/

/-- Multiplication by `X` modulo a polynomial. -/
noncomputable def fieldDouble (count : Nat) (modulus : (ZMod 2)[X]) (number : Nat) : Nat :=
  polynomialBits count ((X * bitPolynomial number) %ₘ modulus)

theorem fieldDouble_eq {count reduction number doubled : Nat} {modulus : (ZMod 2)[X]}
    (monic : modulus.Monic) (degree : modulus.degree = count)
    (tail : modulus = X ^ count + bitPolynomial reduction) (small : doubled < 2 ^ count)
    (shifted : doubled = 2 * number ∨ doubled = 2 * number ^^^ (2 ^ count ^^^ reduction)) :
    fieldDouble count modulus number = doubled := by
  have remainder (quotient : (ZMod 2)[X])
      (sum : bitPolynomial doubled + modulus * quotient = X * bitPolynomial number) :
      fieldDouble count modulus number = doubled := by
    have below : (bitPolynomial doubled).degree < modulus.degree := by
      rw [degree]
      exact degree_bitPolynomial_lt small
    rw [fieldDouble, (div_modByMonic_unique _ _ monic ⟨sum, below⟩).2,
      polynomialBits_bitPolynomial small]
  rcases shifted with rfl | reduced
  · apply remainder 0
    rw [mul_zero, add_zero, bitPolynomial_two_mul]
  · apply remainder 1
    rw [reduced, bitPolynomial_xor, bitPolynomial_xor, bitPolynomial_two_mul, bitPolynomial_two_pow,
      ← tail, mul_one, add_assoc, CharTwo.add_self_eq_zero, add_zero]

end NtsTimeServer.Lib
