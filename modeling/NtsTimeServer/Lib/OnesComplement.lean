import Mathlib.Algebra.GroupWithZero.Nat
import NtsTimeServer.Lib.Bytes

/-!
# One's complement sums

Sums of 16-bit words with end-around carry, as the internet checksum takes them. Two sums fold to
the same word when they agree modulo 65535 and neither or both are zero.
-/

namespace NtsTimeServer.Lib

def foldCarries (sum : Nat) : Nat :=
  if sum / 65536 = 0 then sum else foldCarries (sum % 65536 + sum / 65536)
termination_by sum
decreasing_by omega

theorem foldCarries_spec (sum : Nat) : foldCarries sum ≤ 65535 ∧
    foldCarries sum % 65535 = sum % 65535 ∧ (0 < foldCarries sum ↔ 0 < sum) := by
  induction sum using foldCarries.induct with
  | case1 sum small =>
      rw [foldCarries, if_pos small]
      exact ⟨by omega, rfl, Iff.rfl⟩
  | case2 sum large ih =>
      rw [foldCarries, if_neg large]
      obtain ⟨le, mod, pos⟩ := ih
      exact ⟨le, mod.trans (by omega), pos.trans (by omega)⟩

theorem foldCarries_eq_ones_iff {sum : Nat} :
    foldCarries sum = 65535 ↔ 0 < sum ∧ sum % 65535 = 0 := by
  obtain ⟨le, mod, pos⟩ := foldCarries_spec sum
  constructor
  · intro ones
    rw [ones] at mod pos
    exact ⟨pos.mp (by decide), mod.symm⟩
  · rintro ⟨positive, divides⟩
    have := pos.mpr positive
    omega

/-- The sum of the 16-bit words; an odd byte at the end counts as a high byte. -/
def wordSum : Bytes → Nat
  | [] => 0
  | [high] => high.toNat * 256
  | high :: low :: rest => high.toNat * 256 + low.toNat + wordSum rest

theorem wordSum_append {first : Bytes} (even : first.length % 2 = 0) (second : Bytes) :
    wordSum (first ++ second) = wordSum first + wordSum second := by
  induction first using wordSum.induct with
  | case1 => simp [wordSum]
  | case2 high => simp at even
  | case3 high low rest ih =>
      have even' : rest.length % 2 = 0 := by
        simp only [List.length_cons] at even
        omega
      simp only [List.cons_append, wordSum, ih even']
      omega

theorem wordSum_beBytes (value : Nat) : wordSum (beBytes 2 value) = value % 65536 := by
  simp only [beBytes, List.nil_append, List.cons_append, wordSum, UInt8.toNat_ofNat']
  omega

theorem wordSum_beBytes_double (value : Nat) :
    wordSum (beBytes 4 value) = value / 65536 % 65536 + value % 65536 := by
  rw [beBytes_add 2 2, wordSum_append (by rw [beBytes_length]), wordSum_beBytes, wordSum_beBytes]
  rfl

theorem wordSum_window {bytes : Bytes} {offset : Nat} (within : offset + 2 ≤ bytes.length) :
    wordSum (window bytes offset 2) = readBe16 bytes offset := by
  rw [window_readBe within, wordSum_beBytes]
  exact Nat.mod_eq_of_lt (readBe_lt 2 bytes offset)

theorem wordSum_window_add {bytes : Bytes} {offset first : Nat} (even : first % 2 = 0)
    (within : offset + first ≤ bytes.length) (second : Nat) :
    wordSum (window bytes offset (first + second)) =
      wordSum (window bytes offset first) + wordSum (window bytes (offset + first) second) := by
  rw [window_add, wordSum_append (by rwa [window_length within])]

/-! ## Replacing words under a checksum -/

/-- The checksum after one word under it changes; the checksum is the complement of the sum. -/
def replaceWord (checksum oldWord newWord : Nat) : Nat :=
  65535 - foldCarries ((65535 - checksum) + (65535 - oldWord) + newWord)

def replaceWords (checksum : Nat) (words : List (Nat × Nat)) : Nat :=
  words.foldl (fun checksum word => replaceWord checksum word.1 word.2) checksum

theorem replaceWord_spec {checksum oldWord : Nat} (newWord : Nat) (fits : checksum ≤ 65535)
    (oldFits : oldWord ≤ 65535) : replaceWord checksum oldWord newWord ≤ 65535 ∧
      (replaceWord checksum oldWord newWord + newWord) % 65535 = (checksum + oldWord) % 65535 := by
  obtain ⟨le, mod, -⟩ := foldCarries_spec ((65535 - checksum) + (65535 - oldWord) + newWord)
  unfold replaceWord
  omega

theorem replaceWords_spec {words : List (Nat × Nat)} (oldFits : ∀ word ∈ words, word.1 ≤ 65535)
    {checksum : Nat} (fits : checksum ≤ 65535) : replaceWords checksum words ≤ 65535 ∧
      (replaceWords checksum words + (words.map Prod.snd).sum) % 65535 =
        (checksum + (words.map Prod.fst).sum) % 65535 := by
  induction words generalizing checksum with
  | nil => exact ⟨fits, rfl⟩
  | cons word rest ih =>
      obtain ⟨wordFits, restFit⟩ := List.forall_mem_cons.mp oldFits
      obtain ⟨le, mod⟩ := replaceWord_spec word.2 fits wordFits
      obtain ⟨le', mod'⟩ := ih restFit le
      refine ⟨le', ?_⟩
      have step : replaceWords checksum (word :: rest) =
        replaceWords (replaceWord checksum word.1 word.2) rest := rfl
      simp only [step, List.map_cons, List.sum_cons]
      omega

end NtsTimeServer.Lib
