import Mathlib.Tactic.FieldSimp
import Mathlib.Tactic.Ring
import NtsTimeServer.Lib.Servo
import NtsTimeServer.Proof.ServedTime

namespace NtsTimeServer.Proof
open Model Lib

def servedUtc (clock : ClockContext ℚ) (captureUs : Nat) : ℚ :=
  utcSecondsAt clock.anchorCaptureUs clock.anchorUtcSeconds clock.frequencyPpm captureUs

theorem sub64_eq {a b : Nat} (le : b ≤ a) (fits : a < 2 ^ 64) : sub64 a b = a - b := by
  unfold sub64 u64
  omega

theorem utcSecondsAt_rat {anchorCaptureUs captureUs : Nat} (later : anchorCaptureUs ≤ captureUs)
    (fits : captureUs < 2 ^ 64) (anchorUtcSeconds : Int) (frequencyPpm : ℚ) :
    utcSecondsAt anchorCaptureUs anchorUtcSeconds frequencyPpm captureUs =
      anchorUtcSeconds + ((captureUs : ℚ) - anchorCaptureUs) / 1000000 *
        (1 + frequencyPpm / 1000000) := by
  rw [utcSecondsAt, sub64_eq later fits]
  simp only [ofInt_rat, Int.cast_natCast, Int.cast_ofNat, Int.cast_one]
  rw [Nat.cast_sub later]

theorem utcSecondsAt_anchor {captureUs : Nat} (fits : captureUs < 2 ^ 64) (utcSeconds : Int)
    (frequencyPpm : ℚ) : utcSecondsAt captureUs utcSeconds frequencyPpm captureUs = utcSeconds := by
  rw [utcSecondsAt_rat le_rfl fits, sub_self, zero_div, zero_mul, add_zero]

theorem llround_error (value : ℚ) : |(Double.llround value : ℚ) - value| ≤ 1 / 2 := by
  change |((if 0 ≤ value then ⌊value + 1 / 2⌋ else ⌈value - 1 / 2⌉ : Int) : ℚ) - value| ≤ 1 / 2
  rw [abs_le]
  split
  · have := Int.floor_le (value + 1 / 2)
    have := Int.lt_floor_add_one (value + 1 / 2)
    constructor <;> linarith
  · have := Int.le_ceil (value - 1 / 2)
    have := Int.ceil_lt_add_one (value - 1 / 2)
    constructor <;> linarith

/-- The UTC seconds of a timestamp, which does not tell its era. -/
def timestampUtc (timestamp : NtpTimestamp) (era : Nat) : ℚ :=
  (timestamp.seconds : ℚ) + era * 4294967296 - appNtpEpochDelta + timestamp.fraction / 4294967296

theorem u32_add_era (count : Nat) :
    ((u32 count : Nat) : ℚ) + ((count / 4294967296 : Nat) : ℚ) * 4294967296 = count := by
  exact_mod_cast Nat.mod_add_div' count 4294967296

theorem truncate_nonneg {value : ℚ} (nonneg : 0 ≤ value) : ∃ whole : Nat,
    Double.truncate value = whole ∧ (whole : ℚ) ≤ value ∧ value < whole + 1 := by
  obtain ⟨whole, floor⟩ : ∃ whole : Nat, ⌊value⌋ = whole :=
    Int.eq_ofNat_of_zero_le (Int.floor_nonneg.mpr nonneg)
  have truncated : Double.truncate value = ⌊value⌋ := if_pos nonneg
  obtain ⟨low, high⟩ := Int.floor_eq_iff.mp floor
  rw [Int.cast_natCast] at low high
  exact ⟨whole, truncated.trans floor, low, high⟩

theorem truncate_neg {value : ℚ} (negative : value < 0) : (Double.truncate value).toNat = 0 := by
  refine Int.toNat_of_nonpos ?_
  change (if 0 ≤ value then ⌊value⌋ else ⌈value⌉) ≤ 0
  rw [if_neg (not_le.mpr negative)]
  exact Int.ceil_le.mpr (by simpa using negative.le)

theorem getNtpTimestamp_cut {clock : ClockContext ℚ} {lock : Bool} {now : Nat}
    {timestamp : NtpTimestamp} (read : getNtpTimestamp clock lock (some now) = some timestamp) :
    ∃ era, timestampUtc timestamp era ≤ servedUtc clock now ∧
      servedUtc clock now < timestampUtc timestamp era + 1 / 4294967296 := by
  obtain ⟨-, nonneg, fields⟩ := getNtpTimestamp_some read
  change ¬servedUtc clock now < ((0 : Int) : ℚ) at nonneg
  rw [Int.cast_zero, not_lt] at nonneg
  obtain ⟨seconds, whole, low, high⟩ := truncate_nonneg nonneg
  obtain ⟨fraction, part, low', high'⟩ := truncate_nonneg
    (show 0 ≤ (servedUtc clock now - seconds) * 4294967296 by linarith)
  have small : fraction < 4294967296 := by
    have : (fraction : ℚ) < 4294967296 := by linarith
    exact_mod_cast this
  change timestamp = ⟨u32 ((Double.truncate (servedUtc clock now)).toNat + appNtpEpochDelta),
    u32 (Double.truncate ((servedUtc clock now -
      (((Double.truncate (servedUtc clock now)).toNat : Int) : ℚ)) * ((4294967296 : Int) : ℚ))).toNat⟩
    at fields
  rw [whole, Int.toNat_natCast, Int.cast_natCast, Int.cast_ofNat, part, Int.toNat_natCast,
    u32_eq small] at fields
  refine ⟨(seconds + appNtpEpochDelta) / 4294967296, ?_⟩
  have era := u32_add_era (seconds + appNtpEpochDelta)
  rw [Nat.cast_add] at era
  rw [fields, timestampUtc]
  constructor <;> linarith

/-! ## The frequency -/

def measuredFrequencyPpm (clock : ClockContext ℚ) (sample : TimingSample) : ℚ :=
  (1 - (((sample.ppsCaptureUs - clock.lastSampleCaptureUs : Nat) : ℚ) / 1000000) /
    ((sample.utcSeconds - clock.lastSampleUtcSeconds : Int) : ℚ)) * 1000000

theorem filteredFrequencyPpm_rat {clock : ClockContext ℚ} {sample : TimingSample}
    (later : clock.lastSampleUtcSeconds < sample.utcSeconds) :
    filteredFrequencyPpm clock sample = saturate 200 (clock.frequencyPpm +
      (measuredFrequencyPpm clock sample - clock.frequencyPpm) / 8) := by
  have elapsed : ((sample.utcSeconds - clock.lastSampleUtcSeconds : Int) : ℚ) ≠ 0 := by
    have : sample.utcSeconds - clock.lastSampleUtcSeconds ≠ 0 := by omega
    exact_mod_cast this
  have unclamped : ((Double.ofInt 1 - appClockFrequencyFilterGain) * clock.frequencyPpm) +
      (appClockFrequencyFilterGain *
        -(((Double.ofInt (sample.ppsCaptureUs - clock.lastSampleCaptureUs : Nat) -
          Double.ofInt (sample.utcSeconds - clock.lastSampleUtcSeconds) * Double.ofInt 1000000) /
            (Double.ofInt (sample.utcSeconds - clock.lastSampleUtcSeconds) * Double.ofInt 1000000)) *
              Double.ofInt 1000000)) =
      clock.frequencyPpm + (measuredFrequencyPpm clock sample - clock.frequencyPpm) / 8 := by
    simp only [measuredFrequencyPpm, appClockFrequencyFilterGain, ofInt_rat, Int.cast_natCast,
      Int.cast_ofNat, Int.cast_one]
    field_simp
    ring
  unfold filteredFrequencyPpm saturate
  simp only [unclamped]
  rfl

structure Disciplined (clock : ClockContext ℚ) : Prop where
  capture : clock.anchorCaptureUs = clock.lastSampleCaptureUs
  utc : clock.anchorUtcSeconds = clock.lastSampleUtcSeconds
  frequency : |clock.frequencyPpm| ≤ 200

theorem disciplined_rejectSample {clock : ClockContext ℚ} (disciplined : Disciplined clock) :
    Disciplined (rejectSample clock) := by
  by_cases last : LastChance clock
  · rw [rejectSample_last last]
    exact ⟨disciplined.capture, disciplined.utc, by simp⟩
  · rw [rejectSample_early last]
    exact ⟨disciplined.capture, disciplined.utc, disciplined.frequency⟩

theorem disciplined_submit {config : Kconfig} {clock after : ClockContext ℚ} {lock : Bool}
    {sample : TimingSample} {err : EspErr} (disciplined : Disciplined clock)
    (outcome : SampleOutcome config clock lock sample err after) : Disciplined after := by
  cases outcome with
  | acquired => exact ⟨rfl, rfl, by simp [acquireSolution]⟩
  | accepted accepted solution =>
      refine ⟨rfl, rfl, ?_⟩
      rw [acceptSample, filteredFrequencyPpm_rat (accepted.2 solution).1.utc]
      exact abs_saturate_le (by norm_num) _
  | reanchored => exact disciplined_rejectSample ⟨rfl, rfl, by simp [reanchor]⟩
  | rejected => exact disciplined_rejectSample disciplined
  | refused => exact disciplined

theorem disciplined_step {config : Kconfig} {s t : ClockSystem ℚ} {event : ClockEvent}
    (disciplined : Disciplined s.clock) (taken : clockStep config s event = some t) :
    Disciplined t.clock := by
  obtain ⟨-, rfl⟩ := clockStep_eq_some.mp taken
  obtain ⟨capture, utc, frequency⟩ := disciplined
  cases event with
  | submit now lock sample =>
      obtain ⟨err, outcome, -, -⟩ := apply_submit config s now lock sample
      exact disciplined_submit ⟨capture, utc, frequency⟩ outcome
  | updateReference now gnss pps lock =>
      change Disciplined (updateReferenceState s.clock gnss pps lock)
      rcases updateReferenceState_cases s.clock gnss pps lock with h | ⟨-, state, -, h⟩
      all_goals
        rw [h]
        exact ⟨capture, utc, frequency⟩
  | enforce now lock read =>
      change Disciplined (enforceHoldoverPolicy config s.clock lock (if read then some now else none))
      rcases enforceHoldoverPolicy_cases config s.clock lock (if read then some now else none) with
        h | ⟨-, h⟩ | h
      all_goals
        rw [h]
        exact ⟨capture, utc, frequency⟩
  | wait now => exact ⟨capture, utc, frequency⟩

theorem disciplined_of_run {config : Kconfig} {meets : ClockSystem ℚ → ClockEvent → Prop}
    {past : List ClockEvent} {s : ClockSystem ℚ}
    (run : Run (clockStep config) meets clockStart past s) : Disciplined s.clock :=
  run.invariant (fun _ s => Disciplined s.clock) ⟨rfl, rfl, by simp [clockStart, clockInit]⟩
    fun _ _ _ _ disciplined _ taken => disciplined_step disciplined taken

theorem servedUtc_mono {clock : ClockContext ℚ} (disciplined : Disciplined clock) {now later : Nat}
    (anchored : clock.anchorCaptureUs ≤ now) (le : now ≤ later) (fits : later < 2 ^ 64) :
    servedUtc clock now ≤ servedUtc clock later := by
  have rate := (abs_le.mp disciplined.frequency).1
  have elapsed : (0 : ℚ) ≤ (later - now) / 1000000 := by
    have : (now : ℚ) ≤ later := by exact_mod_cast le
    linarith
  have forward : 0 ≤ 1 + clock.frequencyPpm / 1000000 := by linarith
  have gained := mul_nonneg elapsed forward
  rw [servedUtc, servedUtc, utcSecondsAt_rat anchored (by omega), utcSecondsAt_rat (by omega) fits]
  linarith

end NtsTimeServer.Proof
