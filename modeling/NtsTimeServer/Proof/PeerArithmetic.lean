import Mathlib.Data.Fin.VecNotation
import NtsTimeServer.Lib.Rounding
import NtsTimeServer.Model.PeerMeasurement

namespace NtsTimeServer.Proof
open Model Lib

/-! True instants are counted in units of 2^-32 seconds and have no eras. -/

def stampOf (instant : Int) : Nat := (instant % 2 ^ 64).toNat

def timestampOf (instant : Int) : NtpTimestamp := ⟨stampOf instant / 2 ^ 32, stampOf instant % 2 ^ 32⟩

def exactNs (delta : Int) : ℚ := delta * 1000000000 / 4294967296

theorem exactNs_add (first second : Int) :
    exactNs (first + second) = exactNs first + exactNs second := by
  simp only [exactNs]
  push_cast
  ring

theorem exactNs_sub (first second : Int) :
    exactNs (first - second) = exactNs first - exactNs second := by
  simp only [exactNs]
  push_cast
  ring

theorem exactNs_mono {first second : Int} (le : first ≤ second) : exactNs first ≤ exactNs second := by
  have cast : (first : ℚ) ≤ second := by exact_mod_cast le
  unfold exactNs
  linarith

theorem timestampToFixed_timestampOf (instant : Int) :
    timestampToFixed (timestampOf instant) = stampOf instant := by
  simp [timestampToFixed, timestampOf, Nat.div_add_mod']

theorem i64_sub64_stampOf {later earlier : Int} (near : |later - earlier| < 2 ^ 63) :
    i64 (sub64 (stampOf later) (stampOf earlier)) = later - earlier := by
  rw [abs_lt] at near
  unfold i64 sub64 u64 stampOf
  omega

theorem i64_bounds (n : Int) : -2 ^ 63 ≤ i64 n ∧ i64 n < 2 ^ 63 := by
  unfold i64
  omega

theorem fixedDeltaNs_eq (a b : Nat) :
    fixedDeltaNs a b = (i64 (sub64 a b) * 1000000000).tdiv 4294967296 :=
  tdiv_split (by decide) (by decide) _

theorem scaled_bounds {delta : Int} (low : -2 ^ 63 ≤ delta) (high : delta < 2 ^ 63) :
    -2147483648000000000 ≤ (delta * 1000000000).tdiv 4294967296 ∧
      (delta * 1000000000).tdiv 4294967296 ≤ 2147483648000000000 := by
  have below := Int.tdiv_le_tdiv (c := 4294967296) (by decide)
    (show -9223372036854775808 * 1000000000 ≤ delta * 1000000000 by omega)
  have above := Int.tdiv_le_tdiv (c := 4294967296) (by decide)
    (show delta * 1000000000 ≤ 9223372036854775808 * 1000000000 by omega)
  exact ⟨below, above⟩

theorem fixedDeltaNs_bounds (a b : Nat) :
    -2147483648000000000 ≤ fixedDeltaNs a b ∧ fixedDeltaNs a b ≤ 2147483648000000000 := by
  rw [fixedDeltaNs_eq]
  exact scaled_bounds (i64_bounds _).1 (i64_bounds _).2

theorem fixedDeltaNs_error {later earlier : Int} (near : |later - earlier| < 2 ^ 63) :
    |(fixedDeltaNs (stampOf later) (stampOf earlier) : ℚ) - exactNs (later - earlier)| < 1 := by
  have error := tdiv_error (show (0 : Int) < 4294967296 by decide) ((later - earlier) * 1000000000)
  rw [fixedDeltaNs_eq, i64_sub64_stampOf near, exactNs]
  exact_mod_cast error

theorem deltaNsChecked_eq {delta : Int} (low : -2 ^ 63 ≤ delta) (high : delta < 2 ^ 63) :
    deltaNsChecked delta = some ((delta * 1000000000).tdiv 4294967296) := by
  have whole : InSigned 64 (delta.tdiv 4294967296 * 1000000000) := by
    have below := Int.tdiv_le_tdiv (c := 4294967296) (by decide)
      (show -9223372036854775808 ≤ delta by omega)
    have above := Int.tdiv_le_tdiv (c := 4294967296) (by decide)
      (show delta ≤ 9223372036854775808 by omega)
    have least : (-9223372036854775808 : Int).tdiv 4294967296 = -2147483648 := rfl
    have most : (9223372036854775808 : Int).tdiv 4294967296 = 2147483648 := rfl
    unfold InSigned
    omega
  have scaled : InSigned 64 (delta.tmod 4294967296 * 1000000000) := by
    have below := Int.lt_tmod_of_pos delta (show (0 : Int) < 4294967296 by decide)
    have above := Int.tmod_lt_of_pos delta (show (0 : Int) < 4294967296 by decide)
    unfold InSigned
    omega
  have total : InSigned 64 ((delta * 1000000000).tdiv 4294967296) := by
    have bounds := scaled_bounds low high
    unfold InSigned
    omega
  have split := tdiv_split (show (0 : Int) < 4294967296 by decide)
    (show (0 : Int) ≤ 1000000000 by decide) delta
  rw [deltaNsChecked, signed_eq whole, signed_eq scaled]
  change signed 64 (delta.tdiv 4294967296 * 1000000000 +
    (delta.tmod 4294967296 * 1000000000).tdiv 4294967296) = _
  rw [split, signed_eq total]

theorem fixedDeltaNsChecked_eq (a b : Nat) : fixedDeltaNsChecked a b = some (fixedDeltaNs a b) := by
  rw [fixedDeltaNs_eq]
  exact deltaNsChecked_eq (i64_bounds _).1 (i64_bounds _).2

/-! ## Offset and delay -/

theorem halves_eq (a b : Int) :
    -1 ≤ 2 * (a.tdiv 2 + b.tdiv 2 + (a.tmod 2 + b.tmod 2).tdiv 2) - (a + b) ∧
      2 * (a.tdiv 2 + b.tdiv 2 + (a.tmod 2 + b.tmod 2).tdiv 2) - (a + b) ≤ 1 := by
  have first := Int.mul_tdiv_add_tmod a 2
  have second := Int.mul_tdiv_add_tmod b 2
  have odd := Int.mul_tdiv_add_tmod (a.tmod 2 + b.tmod 2) 2
  have low := Int.lt_tmod_of_pos (a.tmod 2 + b.tmod 2) (show (0 : Int) < 2 by decide)
  have high := Int.tmod_lt_of_pos (a.tmod 2 + b.tmod 2) (show (0 : Int) < 2 by decide)
  omega

theorem measuredOffsetNs_eq (f1 f2 f3 f4 : Nat) :
    -1 ≤ 2 * measuredOffsetNs f1 f2 f3 f4 - (fixedDeltaNs f2 f1 + fixedDeltaNs f3 f4) ∧
      2 * measuredOffsetNs f1 f2 f3 f4 - (fixedDeltaNs f2 f1 + fixedDeltaNs f3 f4) ≤ 1 :=
  halves_eq _ _

theorem measuredOffsetNs_bounds (f1 f2 f3 f4 : Nat) :
    -2147483648000000000 ≤ measuredOffsetNs f1 f2 f3 f4 ∧
      measuredOffsetNs f1 f2 f3 f4 ≤ 2147483648000000000 := by
  obtain ⟨low, high⟩ := measuredOffsetNs_eq f1 f2 f3 f4
  obtain ⟨low₁, high₁⟩ := fixedDeltaNs_bounds f2 f1
  obtain ⟨low₂, high₂⟩ := fixedDeltaNs_bounds f3 f4
  omega

theorem measuredOffsetNs_error (t : Fin 4 → Int) (near : ∀ i j, |t i - t j| < 2 ^ 63) :
    |(measuredOffsetNs (stampOf (t 0)) (stampOf (t 1)) (stampOf (t 2)) (stampOf (t 3)) : ℚ) -
      exactNs ((t 1 - t 0) + (t 2 - t 3)) / 2| ≤ 2 := by
  have rounded := measuredOffsetNs_eq (stampOf (t 0)) (stampOf (t 1)) (stampOf (t 2)) (stampOf (t 3))
  have first := abs_lt.mp (fixedDeltaNs_error (near 1 0))
  have second := abs_lt.mp (fixedDeltaNs_error (near 2 3))
  generalize measuredOffsetNs _ _ _ _ = offsetNs at *
  generalize fixedDeltaNs _ _ = a at *
  generalize fixedDeltaNs _ _ = b at *
  have low : (-1 : ℚ) ≤ 2 * offsetNs - (a + b) := by exact_mod_cast rounded.1
  have high : (2 * offsetNs - (a + b) : ℚ) ≤ 1 := by exact_mod_cast rounded.2
  rw [exactNs_add, abs_le]
  constructor <;> linarith

theorem measuredDelayNs_error (t : Fin 4 → Int) (near : ∀ i j, |t i - t j| < 2 ^ 63) :
    |(measuredDelayNs (stampOf (t 0)) (stampOf (t 1)) (stampOf (t 2)) (stampOf (t 3)) : ℚ) -
      exactNs ((t 3 - t 0) - (t 2 - t 1))| ≤ 2 := by
  have whole := abs_lt.mp (fixedDeltaNs_error (near 3 0))
  have server := abs_lt.mp (fixedDeltaNs_error (near 2 1))
  unfold measuredDelayNs
  generalize fixedDeltaNs _ _ = a at *
  generalize fixedDeltaNs _ _ = b at *
  rw [exactNs_sub, Int.cast_sub, abs_le]
  constructor <;> linarith

theorem measureChecked_of_bounds {f1 f2 f3 f4 : Nat} {a b whole server : Int}
    (first : fixedDeltaNsChecked f2 f1 = some a) (second : fixedDeltaNsChecked f3 f4 = some b)
    (third : fixedDeltaNsChecked f4 f1 = some whole) (fourth : fixedDeltaNsChecked f3 f2 = some server)
    (bounds : ∀ n, n = a ∨ n = b ∨ n = whole ∨ n = server →
      -2147483648000000000 ≤ n ∧ n ≤ 2147483648000000000) :
    measureChecked f1 f2 f3 f4 =
      some (a.tdiv 2 + b.tdiv 2 + (a.tmod 2 + b.tmod 2).tdiv 2, whole - server) := by
  simp only [forall_eq_or_imp, forall_eq] at bounds
  obtain ⟨boundsA, boundsB, boundsW, boundsS⟩ := bounds
  have splitA := Int.mul_tdiv_add_tmod a 2
  have splitB := Int.mul_tdiv_add_tmod b 2
  have lowA := Int.lt_tmod_of_pos a (show (0 : Int) < 2 by decide)
  have highA := Int.tmod_lt_of_pos a (show (0 : Int) < 2 by decide)
  have lowB := Int.lt_tmod_of_pos b (show (0 : Int) < 2 by decide)
  have highB := Int.tmod_lt_of_pos b (show (0 : Int) < 2 by decide)
  have halves : InSigned 64 (a.tdiv 2 + b.tdiv 2) := by
    unfold InSigned
    omega
  have odd : InSigned 64 (a.tmod 2 + b.tmod 2) := by
    unfold InSigned
    omega
  have offset : InSigned 64 (a.tdiv 2 + b.tdiv 2 + (a.tmod 2 + b.tmod 2).tdiv 2) := by
    obtain ⟨low, high⟩ := halves_eq a b
    unfold InSigned
    omega
  have delay : InSigned 64 (whole - server) := by
    unfold InSigned
    omega
  simp only [measureChecked, first, second, third, fourth, Option.bind_eq_bind, Option.bind_some,
    signed_eq halves, signed_eq odd, signed_eq offset, signed_eq delay]

theorem measureChecked_eq (f1 f2 f3 f4 : Nat) :
    measureChecked f1 f2 f3 f4 = some (measuredOffsetNs f1 f2 f3 f4, measuredDelayNs f1 f2 f3 f4) := by
  refine measureChecked_of_bounds (fixedDeltaNsChecked_eq _ _) (fixedDeltaNsChecked_eq _ _)
    (fixedDeltaNsChecked_eq _ _) (fixedDeltaNsChecked_eq _ _) ?_
  intro n among
  rcases among with eq | eq | eq | eq
  · rw [eq]
    exact fixedDeltaNs_bounds f2 f1
  · rw [eq]
    exact fixedDeltaNs_bounds f3 f4
  · rw [eq]
    exact fixedDeltaNs_bounds f4 f1
  · rw [eq]
    exact fixedDeltaNs_bounds f3 f2

def Refused (monitor : PeerMonitor) (index : Fin 4) (t1 : NtpTimestamp) (response : Bytes) : Prop :=
  (byteAt response 0 / 8 % 8 < 3 ∨ byteAt response 0 % 8 ≠ 4 ∨ byteAt response 0 / 64 = 3 ∨
      byteAt response 1 > 15 ∨ ¬originIs response t1 ∨ readBe64 response 32 = 0 ∨
      readBe64 response 40 = 0) ∨
    (monitor.runtime index).lastServerT3Valid ∧
      (monitor.runtime index).lastServerT3 = readBe64 response 40

section

variable {monitor : PeerMonitor} {index : Fin 4} {t1 t4 : NtpTimestamp} {response : Bytes}
  {nowUs : Int}

theorem processMeasurement_measured (measured : ¬Refused monitor index t1 response) :
    processMeasurement monitor index t1 t4 response nowUs =
      if measuredDelayNs (timestampToFixed t1) (readBe64 response 32) (readBe64 response 40)
          (timestampToFixed t4) < 0 then updateFailure monitor index .invalid { rejected := true }
      else updateSuccess monitor index response (readBe64 response 40)
        (measuredOffsetNs (timestampToFixed t1) (readBe64 response 32) (readBe64 response 40)
          (timestampToFixed t4))
        (measuredDelayNs (timestampToFixed t1) (readBe64 response 32) (readBe64 response 40)
          (timestampToFixed t4)) nowUs := by
  obtain ⟨wellFormed, fresh⟩ := not_or.mp measured
  unfold processMeasurement
  dsimp only
  rw [if_neg wellFormed, if_neg fresh]
  rfl

end

theorem peer_arithmetic_within_two_ns (t : Fin 4 → Int) (near : ∀ i j, |t i - t j| < 2 ^ 63) :
    ∃ offsetNs delayNs,
      measureChecked (stampOf (t 0)) (stampOf (t 1)) (stampOf (t 2)) (stampOf (t 3)) =
        some (offsetNs, delayNs) ∧
      |(offsetNs : ℚ) - exactNs ((t 1 - t 0) + (t 2 - t 3)) / 2| ≤ 2 ∧
      |(delayNs : ℚ) - exactNs ((t 3 - t 0) - (t 2 - t 1))| ≤ 2 ∧
      ∀ monitor index response nowUs, readBe64 response 32 = stampOf (t 1) →
        readBe64 response 40 = stampOf (t 2) → ¬Refused monitor index (timestampOf (t 0)) response →
        processMeasurement monitor index (timestampOf (t 0)) (timestampOf (t 3)) response nowUs =
          if delayNs < 0 then updateFailure monitor index .invalid { rejected := true }
          else updateSuccess monitor index response (stampOf (t 2)) offsetNs delayNs nowUs := by
  refine ⟨_, _, measureChecked_eq _ _ _ _, measuredOffsetNs_error t near, measuredDelayNs_error t near, ?_⟩
  intro monitor index response nowUs second third measured
  rw [processMeasurement_measured measured, timestampToFixed_timestampOf,
    timestampToFixed_timestampOf, second, third]

theorem peer_arithmetic_rollover : ∃ offsetNs delayNs,
    measureChecked (2 ^ 64 - 8589934592) 21474836480 25769803776 12884901888 = some (offsetNs, delayNs) ∧
      |(offsetNs : ℚ) - 5000000000| ≤ 2 ∧ |(delayNs : ℚ) - 4000000000| ≤ 2 := by
  obtain ⟨offsetNs, delayNs, measured, offset, delay, -⟩ := peer_arithmetic_within_two_ns
    ![2 ^ 64 - 8589934592, 2 ^ 64 + 21474836480, 2 ^ 64 + 25769803776, 2 ^ 64 + 12884901888] (by decide)
  refine ⟨offsetNs, delayNs, measured, ?_, ?_⟩
  · simp [exactNs] at offset
    norm_num at offset
    exact offset
  · simp [exactNs] at delay
    norm_num at delay
    exact delay

end NtsTimeServer.Proof
