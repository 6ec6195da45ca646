import NtsTimeServer.Proof.SampleStep

namespace NtsTimeServer.Proof
open Model Lib

structure Oscillator where
  startUs : ℚ
  ratePpm : ℚ

def Oscillator.counterAt (oscillator : Oscillator) (utcSeconds : ℚ) : ℚ :=
  oscillator.startUs + utcSeconds * (1000000 + oscillator.ratePpm)

structure Oscillator.Captures (oscillator : Oscillator) (sample : TimingSample) : Prop where
  capture : (sample.ppsCaptureUs : ℚ) = oscillator.counterAt sample.utcSeconds
  quantization : sample.timingQuantizationErrorNs = 0
  fits : sample.ppsCaptureUs < 2 ^ 64
  /-- what `clock_discipline_submit_sample` asks of its arguments -/
  valid : sample.ppsCaptureUs ≠ 0 ∧ 0 < sample.utcSeconds

def WithinGap (later earlier : TimingSample) : Prop :=
  earlier.utcSeconds < later.utcSeconds ∧ later.utcSeconds - earlier.utcSeconds ≤ 600

def clockAfter (config : Kconfig) (clock : ClockContext ℚ) : List TimingSample → ClockContext ℚ
  | [] => clock
  | sample :: earlier => (submitSample config (clockAfter config clock earlier) true sample).2

theorem submitSample_of_accepted (config : Kconfig) {clock : ClockContext ℚ} {lock : Bool}
    {sample : TimingSample} (accepted : Accepted clock lock sample) :
    submitSample config clock lock sample = (.ok,
      if clock.solutionValid = true then acceptSample config clock sample
      else acquireSolution clock sample) := by
  generalize submitted : submitSample config clock lock sample = result
  obtain ⟨err, after⟩ := result
  cases submitSample_outcome config clock lock sample submitted with
  | acquired _ invalid => simp [invalid]
  | accepted _ valid => simp [valid]
  | reanchored reanchored =>
      obtain ⟨-, valid, -, far⟩ := reanchored
      exact absurd (accepted.2 valid).2 (not_le.mpr far)
  | rejected _ refused => exact absurd accepted refused
  | refused uncounted => exact absurd accepted.1.toCounted uncounted

/-- The clock has followed an oscillator for `steps` samples after a first one, up to `sample`. -/
structure Follows (config : Kconfig) (oscillator : Oscillator) (clock : ClockContext ℚ) (sample : TimingSample)
    (steps : Nat) : Prop where
  initialized : clock.initialized = true
  valid : clock.solutionValid = true
  disciplined : Disciplined clock
  capture : clock.lastSampleCaptureUs = sample.ppsCaptureUs
  utc : clock.lastSampleUtcSeconds = sample.utcSeconds
  frequency : clock.frequencyPpm + oscillator.ratePpm = (7 / 8) ^ steps * oscillator.ratePpm
  acceptedSamples : clock.acceptedSamples = u32 (steps + 1)
  locked : config.lockSamples ≤ u32 (steps + 1) → clock.state = .synchronized

section

variable {config : Kconfig} {oscillator : Oscillator} {clock : ClockContext ℚ} {sample next : TimingSample} {steps : Nat}

theorem Follows.later (slow : |oscillator.ratePpm| ≤ 200) (follows : Follows config oscillator clock sample steps)
    (captured : oscillator.Captures sample) (captured' : oscillator.Captures next)
    (gap : WithinGap next sample) : Later clock next := by
  have elapsed : (sample.utcSeconds : ℚ) < next.utcSeconds := by exact_mod_cast gap.1
  have forward : 0 < 1000000 + oscillator.ratePpm := by linarith [(abs_le.mp slow).1]
  have increasing := mul_lt_mul_of_pos_right elapsed forward
  constructor
  · rw [follows.capture]
    have : (sample.ppsCaptureUs : ℚ) < next.ppsCaptureUs := by
      rw [captured.capture, captured'.capture, Oscillator.counterAt, Oscillator.counterAt]
      linarith
    exact_mod_cast this
  · rw [follows.utc]
    exact gap.1

theorem Follows.localElapsed_eq (follows : Follows config oscillator clock sample steps)
    (captured : oscillator.Captures sample) (captured' : oscillator.Captures next) :
    localElapsed clock next = utcElapsed clock next * (1 + oscillator.ratePpm / 1000000) := by
  rw [localElapsed, utcElapsed, follows.disciplined.capture, follows.disciplined.utc, follows.capture,
    follows.utc, captured.capture, captured'.capture, Oscillator.counterAt, Oscillator.counterAt]
  ring

theorem Follows.filtered (slow : |oscillator.ratePpm| ≤ 200) (follows : Follows config oscillator clock sample steps)
    (captured : oscillator.Captures sample) (captured' : oscillator.Captures next)
    (gap : WithinGap next sample) :
    filteredFrequencyPpm clock next + oscillator.ratePpm =
      7 / 8 * (clock.frequencyPpm + oscillator.ratePpm) := by
  have later := follows.later slow captured captured' gap
  have positive := utcElapsed_pos follows.disciplined later
  have measured : measuredFrequencyPpm clock next = -oscillator.ratePpm := by
    rw [measuredFrequencyPpm_eq follows.disciplined later, follows.localElapsed_eq captured captured',
      mul_div_cancel_left₀ _ positive.ne']
    ring
  obtain ⟨low, high⟩ := abs_le.mp slow
  obtain ⟨low', high'⟩ := abs_le.mp follows.disciplined.frequency
  rw [filteredFrequencyPpm_rat later.utc, measured, saturate_of_abs_le]
  · ring
  · rw [abs_le]
    constructor <;> linarith

theorem Follows.remaining_le (slow : |oscillator.ratePpm| ≤ 200)
    (follows : Follows config oscillator clock sample steps) :
    |clock.frequencyPpm + oscillator.ratePpm| ≤ 200 := by
  have shrunk : (7 / 8 : ℚ) ^ steps ≤ 1 := pow_le_one₀ (by norm_num) (by norm_num)
  rw [follows.frequency, abs_mul, abs_of_nonneg (by positivity)]
  calc (7 / 8 : ℚ) ^ steps * |oscillator.ratePpm| ≤ 1 * |oscillator.ratePpm| :=
        mul_le_mul_of_nonneg_right shrunk (abs_nonneg _)
    _ ≤ 200 := by rwa [one_mul]

theorem llround_le {value : ℚ} {limit : Int} (close : |value| ≤ limit - 1 / 2) :
    |Double.llround value| ≤ limit := by
  obtain ⟨low, high⟩ := abs_le.mp (llround_error value)
  obtain ⟨low', high'⟩ := abs_le.mp close
  rw [abs_le]
  constructor
  · have : (-limit : ℚ) ≤ Double.llround value := by linarith
    exact_mod_cast this
  · have : (Double.llround value : ℚ) ≤ limit := by linarith
    exact_mod_cast this

/-- Over 600 s the prediction is off by 175 ppm and the product of two small rates. -/
theorem Follows.phaseErrorNs_le (slow : |oscillator.ratePpm| ≤ 200)
    (follows : Follows config oscillator clock sample steps) (captured : oscillator.Captures sample)
    (captured' : oscillator.Captures next) (gap : WithinGap next sample) :
    |phaseErrorNs clock next| ≤ appClockMaxAcceptableErrorNs := by
  have later := follows.later slow captured captured' gap
  have positive := utcElapsed_pos follows.disciplined later
  have short : utcElapsed clock next ≤ 600 := by
    rw [utcElapsed, follows.disciplined.utc, follows.utc]
    exact_mod_cast gap.2
  have filtered := follows.filtered slow captured captured' gap
  have remaining : |filteredFrequencyPpm clock next + oscillator.ratePpm| ≤ 175 := by
    rw [filtered, abs_mul, abs_of_pos (by norm_num : (0 : ℚ) < 7 / 8)]
    linarith [follows.remaining_le slow]
  have frequency : |filteredFrequencyPpm clock next| ≤ 200 := by
    rw [filteredFrequencyPpm_rat later.utc]
    exact abs_saturate_le (by norm_num) _
  have product : |oscillator.ratePpm * filteredFrequencyPpm clock next| ≤ 200 * 200 := by
    rw [abs_mul]
    exact mul_le_mul slow frequency (abs_nonneg _) (by norm_num)
  have deviation : |(filteredFrequencyPpm clock next + oscillator.ratePpm) +
      oscillator.ratePpm * filteredFrequencyPpm clock next / 1000000| ≤ 176 := by
    refine (abs_add_le _ _).trans ?_
    rw [abs_div, abs_of_pos (by norm_num : (0 : ℚ) < 1000000)]
    linarith
  have error : (utcElapsed clock next - localElapsed clock next *
      (1 + filteredFrequencyPpm clock next / 1000000)) * 1000000000 =
      -(utcElapsed clock next * 1000 * ((filteredFrequencyPpm clock next + oscillator.ratePpm) +
        oscillator.ratePpm * filteredFrequencyPpm clock next / 1000000)) := by
    rw [follows.localElapsed_eq captured captured']
    ring
  have bound : |(utcElapsed clock next - localElapsed clock next *
      (1 + filteredFrequencyPpm clock next / 1000000)) * 1000000000| ≤ 600 * 1000 * 176 := by
    rw [error, abs_neg, abs_mul, abs_of_nonneg (by linarith)]
    exact mul_le_mul (by linarith) deviation (abs_nonneg _) (by norm_num)
  rw [phaseErrorNs, captured'.quantization, add_zero]
  apply llround_le
  rw [ofInt_rat, ofInt_rat, prediction_error follows.disciplined later captured'.fits, Int.cast_ofNat]
  refine bound.trans ?_
  norm_num [appClockMaxAcceptableErrorNs]

theorem Follows.accepted (slow : |oscillator.ratePpm| ≤ 200) (follows : Follows config oscillator clock sample steps)
    (captured : oscillator.Captures sample) (captured' : oscillator.Captures next)
    (gap : WithinGap next sample) : Accepted clock true next := by
  refine ⟨⟨⟨follows.initialized, captured'.valid.1, captured'.valid.2, rfl⟩, ?_⟩, fun _ =>
    ⟨follows.later slow captured captured' gap, follows.phaseErrorNs_le slow captured captured' gap⟩⟩
  simp [captured'.quantization, appClockMaxTimingQerrNs]

theorem Follows.step (slow : |oscillator.ratePpm| ≤ 200)
    (follows : Follows config oscillator clock sample steps) (captured : oscillator.Captures sample)
    (captured' : oscillator.Captures next) (gap : WithinGap next sample) :
    Follows config oscillator (acceptSample config clock next) next (steps + 1) where
  initialized := follows.initialized
  valid := follows.valid
  disciplined := by
    refine ⟨rfl, rfl, ?_⟩
    rw [acceptSample, filteredFrequencyPpm_rat (follows.later slow captured captured' gap).utc]
    exact abs_saturate_le (by norm_num) _
  capture := rfl
  utc := rfl
  frequency := by
    rw [acceptSample, follows.filtered slow captured captured' gap, follows.frequency]
    ring
  acceptedSamples := by
    simp [acceptSample, follows.acceptedSamples, u32]
  locked enough := by
    have counted : u32 (clock.acceptedSamples + 1) = u32 (steps + 1 + 1) := by
      simp [follows.acceptedSamples, u32]
    rw [← counted] at enough
    exact if_pos enough

theorem follows_first (initialized : clock.initialized = true) :
    Follows config oscillator (acquireSolution clock sample) sample 0 where
  initialized := initialized
  valid := rfl
  disciplined := ⟨rfl, rfl, by simp [acquireSolution]⟩
  capture := rfl
  utc := rfl
  frequency := by simp [acquireSolution]
  acceptedSamples := rfl
  locked enough := by
    have atLeast := config.lockSamples_range.1
    simp only [u32] at enough
    omega

end

/-! ## Any number of samples -/

structure HealthySample (config : Kconfig) (oscillator : Oscillator) (clock : ClockContext ℚ)
    (sample : TimingSample) (earlier : List TimingSample) : Prop where
  accepted : (submitSample config (clockAfter config clock earlier) true sample).1 = .ok
  locked : config.lockSamples ≤ u32 (earlier.length + 1) →
    (clockAfter config clock (sample :: earlier)).state = .synchronized
  first : earlier = [] → (clockAfter config clock (sample :: earlier)).frequencyPpm = 0
  shrinks : earlier ≠ [] →
    (clockAfter config clock (sample :: earlier)).frequencyPpm - -oscillator.ratePpm =
      7 / 8 * ((clockAfter config clock earlier).frequencyPpm - -oscillator.ratePpm)
  /-- towards the target, and not past it -/
  towards : earlier ≠ [] →
    PartOf ((clockAfter config clock (sample :: earlier)).frequencyPpm -
        (clockAfter config clock earlier).frequencyPpm)
      (-oscillator.ratePpm - (clockAfter config clock earlier).frequencyPpm)
  reached : (clockAfter config clock (sample :: earlier)).frequencyPpm =
    -(1 - (7 / 8) ^ earlier.length) * oscillator.ratePpm

theorem partOf_eighth {before after target : ℚ}
    (shrinks : after - target = 7 / 8 * (before - target)) : PartOf (after - before) (target - before) := by
  rcases le_total before target with below | above
  · exact Or.inl ⟨by linarith, by linarith⟩
  · exact Or.inr ⟨by linarith, by linarith⟩

theorem followed {config : Kconfig} {oscillator : Oscillator} (slow : |oscillator.ratePpm| ≤ 200)
    {clock : ClockContext ℚ} (initialized : clock.initialized = true)
    (unsolved : clock.solutionValid = false) {sample : TimingSample} {earlier : List TimingSample}
    (captured : ∀ captured ∈ sample :: earlier, oscillator.Captures captured)
    (gaps : (sample :: earlier).IsChain WithinGap) :
    Follows config oscillator (clockAfter config clock (sample :: earlier)) sample earlier.length ∧
      HealthySample config oscillator clock sample earlier := by
  induction earlier generalizing sample with
  | nil =>
      have valid := (captured sample List.mem_cons_self).valid
      have accepted : Accepted clock true sample := by
        refine ⟨⟨⟨initialized, valid.1, valid.2, rfl⟩, ?_⟩, fun solved => by simp [unsolved] at solved⟩
        simp [(captured sample List.mem_cons_self).quantization, appClockMaxTimingQerrNs]
      have submitted := submitSample_of_accepted config accepted
      rw [unsolved, if_neg (by simp)] at submitted
      have after : clockAfter config clock [sample] = acquireSolution clock sample :=
        congrArg Prod.snd submitted
      have follows : Follows config oscillator (clockAfter config clock [sample]) sample 0 := by
        rw [after]
        exact follows_first initialized
      have start : (clockAfter config clock [sample]).frequencyPpm = 0 := by
        simp [after, acquireSolution]
      exact ⟨follows, congrArg Prod.fst submitted, follows.locked, fun _ => start, by simp, by simp,
        by simp [start]⟩
  | cons last rest ih =>
      obtain ⟨captured', others⟩ := List.forall_mem_cons.mp captured
      have capturedLast := others last List.mem_cons_self
      obtain ⟨gap, gaps'⟩ := List.isChain_cons_cons.mp gaps
      obtain ⟨follows, -⟩ := ih others gaps'
      have submitted := submitSample_of_accepted config
        (follows.accepted slow capturedLast captured' gap)
      rw [if_pos follows.valid] at submitted
      have after : clockAfter config clock (sample :: last :: rest) =
          acceptSample config (clockAfter config clock (last :: rest)) sample :=
        congrArg Prod.snd submitted
      have follows' := follows.step slow capturedLast captured' gap
      rw [← after] at follows'
      have shrinks : (clockAfter config clock (sample :: last :: rest)).frequencyPpm -
          -oscillator.ratePpm = 7 / 8 *
            ((clockAfter config clock (last :: rest)).frequencyPpm - -oscillator.ratePpm) := by
        have filtered := follows.filtered slow capturedLast captured' gap
        rw [after, sub_neg_eq_add, sub_neg_eq_add]
        exact filtered
      have reached : (clockAfter config clock (sample :: last :: rest)).frequencyPpm =
          -(1 - (7 / 8) ^ (last :: rest).length) * oscillator.ratePpm := by
        rw [List.length_cons]
        linarith [follows'.frequency]
      exact ⟨follows', congrArg Prod.fst submitted, follows'.locked, by simp, fun _ => shrinks,
        fun _ => partOf_eighth shrinks, reached⟩

theorem healthy_receiver_accepted {config : Kconfig} {oscillator : Oscillator}
    (slow : |oscillator.ratePpm| ≤ 200) {clock : ClockContext ℚ} (initialized : clock.initialized = true)
    (unsolved : clock.solutionValid = false) {sample : TimingSample} {earlier : List TimingSample}
    (captured : ∀ captured ∈ sample :: earlier, oscillator.Captures captured)
    (gaps : (sample :: earlier).IsChain WithinGap) :
    HealthySample config oscillator clock sample earlier :=
  (followed slow initialized unsolved captured gaps).2

def slowCrystal : Oscillator := ⟨1000200 - 1700000000 * 1000200, 200⟩

theorem slowCrystal_accepted : HealthySample quickLock slowCrystal clockInit
    (edgeSample 602120400 1700000601) [edgeSample 2000400 1700000001, edgeSample 1000200 1700000000] := by
  apply healthy_receiver_accepted (by norm_num [slowCrystal]) rfl rfl
  · intro sample member
    have : sample = edgeSample 602120400 1700000601 ∨ sample = edgeSample 2000400 1700000001 ∨
        sample = edgeSample 1000200 1700000000 := by simpa using member
    rcases this with rfl | rfl | rfl
    all_goals exact ⟨by norm_num [slowCrystal, Oscillator.counterAt, edgeSample], rfl, by decide, by decide⟩
  · simp [WithinGap, edgeSample]

end NtsTimeServer.Proof
