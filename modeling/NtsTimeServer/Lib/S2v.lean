import NtsTimeServer.Lib.BinaryPolynomial
import NtsTimeServer.Lib.Bytes

/-!
# S2V of RFC 5297

A vector of strings is turned into one block by a function from strings to blocks (CMAC under a key),
doubling in GF(2^128), and exclusive or.
-/

namespace NtsTimeServer.Lib
open Polynomial

/-- `x^128 + x^7 + x^2 + x + 1` -/
noncomputable def blockModulus : (ZMod 2)[X] := X ^ 128 + (X ^ 7 + X ^ 2 + X + 1)

/-- `dbl` -/
noncomputable def blockDouble (block : Bytes) : Bytes :=
  beBytes 16 (fieldDouble 128 blockModulus (beValue block))

/-- `pad`: the string, a one bit, and as many zero bits as make a block. -/
def blockPad (string : Bytes) : Bytes := string ++ 0x80 :: List.replicate (15 - string.length) 0

def leftmost (string : Bytes) (count : Nat) : Bytes := string.take count

def rightmost (string : Bytes) (count : Nat) : Bytes := string.drop (string.length - count)

/-- `xorend` -/
def xorend (string block : Bytes) : Bytes :=
  leftmost string (string.length - block.length) ++ xorBytes (rightmost string block.length) block

/-- `S2V` with `AES-CMAC(K, ·)` as a parameter -/
noncomputable def rfcS2v (cmac : Bytes → Bytes) (strings : List Bytes) : Bytes :=
  match strings.getLast? with
  | none => cmac (beBytes 16 1)
  | some last =>
      let d := strings.dropLast.foldl (fun d string => xorBytes (blockDouble d) (cmac string))
        (cmac (List.replicate 16 0))
      if 16 ≤ last.length then cmac (xorend last d)
      else cmac (xorBytes (blockDouble d) (blockPad last))

/-- The initial counter of the encryption: the tag with bits 31 and 63 cleared. -/
def counterBlock (tag : Bytes) : Bytes :=
  beBytes 16 (Nat.ofBits fun i : Fin 128 => (beValue tag).testBit i && decide (i.val ≠ 31 ∧ i.val ≠ 63))

theorem blockModulus_monic : blockModulus.Monic := by
  unfold blockModulus
  apply monic_X_pow_add
  compute_degree!

theorem blockModulus_degree : blockModulus.degree = (128 : Nat) := by
  unfold blockModulus
  compute_degree!

theorem bitPolynomial_reduction : bitPolynomial 0x87 = X ^ 7 + X ^ 2 + X + 1 := by
  have bits : 0x87 = ((2 ^ 7 ^^^ 2 ^ 2) ^^^ 2 ^ 1) ^^^ 1 := by simp
  rw [bits, bitPolynomial_xor, bitPolynomial_xor, bitPolynomial_xor, bitPolynomial_two_pow,
    bitPolynomial_two_pow, bitPolynomial_two_pow, bitPolynomial_one, pow_one]

theorem blockModulus_eq : blockModulus = X ^ 128 + bitPolynomial 0x87 := by
  unfold blockModulus
  exact congrArg _ bitPolynomial_reduction.symm

@[simp] theorem blockDouble_length (block : Bytes) : (blockDouble block).length = 16 := beBytes_length _ _

theorem blockDouble_eq {block doubled : Bytes} (length : doubled.length = 16)
    (shifted : beValue doubled = 2 * beValue block ∨
      beValue doubled = 2 * beValue block ^^^ (2 ^ 128 ^^^ 0x87)) : blockDouble block = doubled := by
  have small : beValue doubled < 2 ^ 128 := by
    have below := beValue_lt doubled
    rwa [length] at below
  rw [blockDouble, fieldDouble_eq blockModulus_monic blockModulus_degree blockModulus_eq small shifted]
  have bytes := beBytes_beValue doubled
  rwa [length] at bytes

theorem counterBlock_eq {tag counter : Bytes} (length : counter.length = 16)
    (cleared : ∀ i < 128, (beValue counter).testBit i =
      ((beValue tag).testBit i && decide (i ≠ 31 ∧ i ≠ 63))) : counterBlock tag = counter := by
  have small : beValue counter < 2 ^ 128 := by
    have below := beValue_lt counter
    rwa [length] at below
  have value : (Nat.ofBits fun i : Fin 128 =>
      (beValue tag).testBit i && decide (i.val ≠ 31 ∧ i.val ≠ 63)) = beValue counter := by
    apply Nat.eq_of_testBit_eq
    intro i
    rcases lt_or_ge i 128 with below | beyond
    · rw [Nat.testBit_ofBits_lt _ _ below, cleared i below]
    · rw [Nat.testBit_ofBits_ge _ _ beyond,
        Nat.testBit_lt_two_pow (small.trans_le (Nat.pow_le_pow_right (by decide) beyond))]
  rw [counterBlock, value]
  have bytes := beBytes_beValue counter
  rwa [length] at bytes

end NtsTimeServer.Lib
