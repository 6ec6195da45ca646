import NtsTimeServer.Proof.ExactClock

namespace NtsTimeServer.Proof
open Model Lib

/-- How far the served time moves at the capture of a sample. -/
def stepNs (before after : ClockContext ℚ) (sample : TimingSample) : ℚ :=
  |servedUtc after sample.ppsCaptureUs - servedUtc before sample.ppsCaptureUs| * 1000000000

def acceptableNs (sample : TimingSample) : ℚ :=
  ((appClockMaxAcceptableErrorNs + |sample.timingQuantizationErrorNs| : Int) : ℚ)

def localElapsed (clock : ClockContext ℚ) (sample : TimingSample) : ℚ :=
  ((sample.ppsCaptureUs : ℚ) - clock.anchorCaptureUs) / 1000000

def utcElapsed (clock : ClockContext ℚ) (sample : TimingSample) : ℚ :=
  (sample.utcSeconds : ℚ) - clock.anchorUtcSeconds

structure StepBounded (before after : ClockContext ℚ) (sample : TimingSample) : Prop where
  /-- the mapping that the acceptance test looks at: the old anchor and the new frequency -/
  tested : |servedUtc after sample.ppsCaptureUs - utcSecondsAt before.anchorCaptureUs
    before.anchorUtcSeconds after.frequencyPpm sample.ppsCaptureUs| * 1000000000 ≤
      acceptableNs sample + 1 / 2
  served : stepNs before after sample ≤ 8 / 7 * (acceptableNs sample + 1 / 2) +
    (localElapsed before sample - utcElapsed before sample) ^ 2 * 1000000000 /
      (7 * utcElapsed before sample)
  /-- both frequencies are clamped to 200 ppm -/
  clamped : stepNs before after sample ≤
    acceptableNs sample + 1 / 2 + 400000 * localElapsed before sample

/-! ## From the test to the step -/

theorem rounded_le {value : ℚ} {correction limit : Int}
    (close : |Double.llround value + correction| ≤ limit) :
    |value| ≤ ((limit + |correction| : Int) : ℚ) + 1 / 2 := by
  obtain ⟨low, high⟩ := abs_le.mp (llround_error value)
  obtain ⟨low', high'⟩ := abs_le.mp close
  have above : ((Double.llround value : Int) : ℚ) ≤ ((limit + |correction| : Int) : ℚ) := by
    have := neg_abs_le correction
    exact_mod_cast (by omega : Double.llround value ≤ limit + |correction|)
  have below : -((limit + |correction| : Int) : ℚ) ≤ ((Double.llround value : Int) : ℚ) := by
    have := le_abs_self correction
    exact_mod_cast (by omega : -(limit + |correction|) ≤ Double.llround value)
  rw [abs_le]
  constructor <;> linarith

section

variable {clock : ClockContext ℚ} {sample : TimingSample}

theorem utcElapsed_pos (disciplined : Disciplined clock) (later : Later clock sample) :
    0 < utcElapsed clock sample := by
  have : (clock.anchorUtcSeconds : ℚ) < sample.utcSeconds := by
    rw [disciplined.utc]
    exact_mod_cast later.utc
  exact sub_pos.mpr this

theorem localElapsed_nonneg (disciplined : Disciplined clock) (later : Later clock sample) :
    0 ≤ localElapsed clock sample := by
  have : (clock.anchorCaptureUs : ℚ) ≤ sample.ppsCaptureUs := by
    rw [disciplined.capture]
    exact_mod_cast later.capture.le
  exact div_nonneg (sub_nonneg.mpr this) (by norm_num)

theorem measuredFrequencyPpm_eq (disciplined : Disciplined clock) (later : Later clock sample) :
    measuredFrequencyPpm clock sample =
      (1 - localElapsed clock sample / utcElapsed clock sample) * 1000000 := by
  rw [measuredFrequencyPpm, localElapsed, utcElapsed, disciplined.capture, disciplined.utc,
    Nat.cast_sub later.capture.le, Int.cast_sub]

theorem prediction_error (disciplined : Disciplined clock) (later : Later clock sample)
    (fits : sample.ppsCaptureUs < 2 ^ 64) (frequencyPpm : ℚ) :
    (sample.utcSeconds : ℚ) - utcSecondsAt clock.anchorCaptureUs clock.anchorUtcSeconds frequencyPpm
      sample.ppsCaptureUs =
        utcElapsed clock sample - localElapsed clock sample * (1 + frequencyPpm / 1000000) := by
  rw [utcSecondsAt_rat (disciplined.capture ▸ later.capture.le) fits, utcElapsed, localElapsed]
  ring

/-- The filter moves the prediction error an eighth of the way at most, up to the square of the
deviation of the interval. -/
theorem filtered_part (disciplined : Disciplined clock) (later : Later clock sample) :
    PartOf (localElapsed clock sample *
        ((filteredFrequencyPpm clock sample - clock.frequencyPpm) / 1000000))
      (1 / 8 * ((utcElapsed clock sample - localElapsed clock sample *
        (1 + clock.frequencyPpm / 1000000)) -
          (localElapsed clock sample - utcElapsed clock sample) ^ 2 / utcElapsed clock sample)) := by
  have positive := utcElapsed_pos disciplined later
  have part := saturate_partOf disciplined.frequency
    ((measuredFrequencyPpm clock sample - clock.frequencyPpm) / 8)
  rw [← filteredFrequencyPpm_rat later.utc, measuredFrequencyPpm_eq disciplined later] at part
  have scaled := part.mul_left (div_nonneg (localElapsed_nonneg disciplined later)
    (by norm_num : (0 : ℚ) ≤ 1000000))
  convert scaled using 1
  · ring
  · field_simp
    ring

theorem frequency_change_le (disciplined : Disciplined clock) (later : Later clock sample) :
    |filteredFrequencyPpm clock sample - clock.frequencyPpm| ≤ 400 := by
  have filtered : |filteredFrequencyPpm clock sample| ≤ 200 := by
    rw [filteredFrequencyPpm_rat later.utc]
    exact abs_saturate_le (by norm_num) _
  calc |filteredFrequencyPpm clock sample - clock.frequencyPpm|
      ≤ |filteredFrequencyPpm clock sample| + |clock.frequencyPpm| := abs_sub _ _
    _ ≤ 400 := by linarith [disciplined.frequency]

theorem prediction_change_le (disciplined : Disciplined clock) (later : Later clock sample) :
    |localElapsed clock sample *
      ((filteredFrequencyPpm clock sample - clock.frequencyPpm) / 1000000)| * 1000000000 ≤
        400000 * localElapsed clock sample := by
  have elapsed := localElapsed_nonneg disciplined later
  rw [abs_mul, abs_of_nonneg elapsed, abs_div, abs_of_pos (by norm_num : (0 : ℚ) < 1000000)]
  have scaled := mul_le_mul_of_nonneg_left (frequency_change_le disciplined later) elapsed
  linarith

end

theorem accepted_stepBounded {config : Kconfig} {clock : ClockContext ℚ} {sample : TimingSample}
    (disciplined : Disciplined clock) (later : Later clock sample)
    (close : |phaseErrorNs clock sample| ≤ appClockMaxAcceptableErrorNs)
    (fits : sample.ppsCaptureUs < 2 ^ 64) :
    StepBounded clock (acceptSample config clock sample) sample := by
  have positive := utcElapsed_pos disciplined later
  have after : servedUtc (acceptSample config clock sample) sample.ppsCaptureUs = sample.utcSeconds :=
    utcSecondsAt_anchor fits _ _
  have frequency : (acceptSample config clock sample).frequencyPpm = filteredFrequencyPpm clock sample :=
    rfl
  have tested := rounded_le close
  have predicted : utcElapsed clock sample - localElapsed clock sample *
      (1 + clock.frequencyPpm / 1000000) - localElapsed clock sample *
        ((filteredFrequencyPpm clock sample - clock.frequencyPpm) / 1000000) =
      utcElapsed clock sample - localElapsed clock sample *
        (1 + filteredFrequencyPpm clock sample / 1000000) := by ring
  rw [ofInt_rat, ofInt_rat, prediction_error disciplined later fits, abs_mul, Int.cast_ofNat,
    abs_of_pos (by norm_num : (0 : ℚ) < 1000000000)] at tested
  refine ⟨?_, ?_, ?_⟩
  · rw [after, frequency, prediction_error disciplined later fits]
    exact tested
  · have corrected := error_of_corrected (by norm_num : (0 : ℚ) ≤ 1 / 8) (by norm_num)
      (div_nonneg (sq_nonneg (localElapsed clock sample - utcElapsed clock sample)) positive.le)
      (filtered_part disciplined later)
    rw [predicted] at corrected
    have offset : (localElapsed clock sample - utcElapsed clock sample) ^ 2 * 1000000000 /
        (7 * utcElapsed clock sample) = 1000000000 / 7 *
          ((localElapsed clock sample - utcElapsed clock sample) ^ 2 / utcElapsed clock sample) := by
      field_simp
    rw [stepNs, after, servedUtc, prediction_error disciplined later fits, offset]
    rw [acceptableNs]
    linarith
  · have moved := abs_sub_abs_le_abs_sub (utcElapsed clock sample - localElapsed clock sample *
      (1 + clock.frequencyPpm / 1000000)) (utcElapsed clock sample - localElapsed clock sample *
        (1 + filteredFrequencyPpm clock sample / 1000000))
    rw [← predicted, sub_sub_cancel, predicted] at moved
    have change := prediction_change_le disciplined later
    rw [stepNs, after, servedUtc, prediction_error disciplined later fits, acceptableNs]
    linarith

/-- An accepted sample passed its test with the new frequency in place, an eighth of the way to the
measured one, so the served time moves by up to 8/7 of what the test allows; over a short interval
the clamps of the frequency allow less. -/
theorem accepted_step_bounded {config : Kconfig} {past : List ClockEvent} {s : ClockSystem ℚ}
    (run : FreeRun (clockStep config) clockStart past s) (serviceable : s.clock.serviceable = true)
    {lock : Bool} {sample : TimingSample} (fits : sample.ppsCaptureUs < 2 ^ 64)
    {after : ClockContext ℚ} (submitted : submitSample config s.clock lock sample = (.ok, after)) :
    StepBounded s.clock after sample := by
  obtain ⟨valid, -⟩ := Bool.and_eq_true_iff.mp serviceable
  cases submitSample_outcome config s.clock lock sample submitted with
  | acquired _ invalid => cases invalid.symm.trans valid
  | accepted accepted solution =>
      obtain ⟨later, close⟩ := accepted.2 solution
      exact accepted_stepBounded (disciplined_of_run run) later close fits
  | rejected _ _ _ bad => exact absurd rfl bad
  | refused _ bad => exact absurd rfl bad

theorem steadySample_accepted :
    (submitSample quickLock lockedSystem.clock true (edgeSample 4000000 1700000003)).1 = .ok := by
  decide +kernel

theorem steadySample_stepBounded : StepBounded lockedSystem.clock
    (submitSample quickLock lockedSystem.clock true (edgeSample 4000000 1700000003)).2
    (edgeSample 4000000 1700000003) :=
  accepted_step_bounded steadySamples_lock rfl (by decide) (Prod.ext steadySample_accepted rfl)

/-! ## A sample after a long gap -/

def gapSample : TimingSample := edgeSample 1003285600 1700001002

theorem gapSample_accepted :
    (submitSample quickLock lockedSystem.clock true gapSample).1 = .ok := by decide +kernel

theorem gapSample_steps_too_far : ¬∀ (config : Kconfig) (past : List ClockEvent) (s : ClockSystem ℚ),
    FreeRun (clockStep config) clockStart past s → s.clock.serviceable = true →
    ∀ lock sample after, sample.ppsCaptureUs < 2 ^ 64 →
      submitSample config s.clock lock sample = (.ok, after) →
      stepNs s.clock after sample ≤ acceptableNs sample := by
  intro claim
  have bounded := claim quickLock _ lockedSystem steadySamples_lock rfl true gapSample _ (by decide)
    (Prod.ext gapSample_accepted rfl)
  exact absurd bounded (by decide +kernel)

end NtsTimeServer.Proof
