import NtsTimeServer.Model.Pps
import NtsTimeServer.Proof.ExactClock
import NtsTimeServer.Proof.Holdover

namespace NtsTimeServer.Proof
open Model Lib

def counterLimit : Nat := (2 ^ 64 - 1) / appPpsTimerResolutionHz

theorem ticksToUs_le (ticks : Nat) : ticksToUs ticks ≤ counterLimit :=
  Nat.div_le_div_right (Nat.le_sub_one_of_lt (Nat.mod_lt _ (by decide)))

/-- `utc` is true UTC at the values of the counter. A sample names the second of its edge, which was
captured to within 1 us and the quantization error. -/
def NamesItsEdge (utc : Nat → ℚ) : ClockEvent → Prop
  | .submit now _ sample => sample.ppsCaptureUs ≤ now ∧
      |utc sample.ppsCaptureUs - sample.utcSeconds| ≤
        1 / 1000000 + (|sample.timingQuantizationErrorNs| : Int) / 1000000000
  | _ => True

/-- Since the anchor the served time has gone as far as UTC, to within the wander. -/
def WithinWander (utc : Nat → ℚ) (clock : ClockContext ℚ) (now : Nat) : Prop :=
  |(servedUtc clock now - clock.anchorUtcSeconds) - (utc now - utc clock.anchorCaptureUs)| ≤
    appClockHoldoverWanderPpm / 1000000 * (((now : ℚ) - clock.anchorCaptureUs) / 1000000)

structure Truthful (utc : Nat → ℚ) (s : ClockSystem ℚ) (event : ClockEvent) : Prop where
  counter : event.now ≤ counterLimit
  sample : NamesItsEdge utc event
  wander : s.clock.solutionValid = true → WithinWander utc s.clock event.now

def ServedWithin (clock : ClockContext ℚ) (now : Nat) (utc bound : ℚ) : Prop :=
  |servedUtc clock now - utc| ≤ bound ∧ ∀ timestamp,
    getNtpTimestamp clock true (some now) = some timestamp →
      ∃ era, |timestampUtc timestamp era - utc| ≤ bound

/-- Right after the holdover policy has run, the dispersion that a serviceable clock reports bounds
the error of the time it serves. -/
def RealErrorBounded (config : Kconfig) : Prop :=
  ∀ utc past s, Run (clockStep config) (Truthful utc) clockStart past s →
    ∀ now t, Truthful utc s (.enforce now true true) →
      clockStep config s (.enforce now true true) = some t → t.clock.serviceable = true →
      ∀ status, getStatus t.clock true (some now) = some status →
        ServedWithin t.clock now (utc now) ((status.rootDispersion1616 : ℚ) / 65536)

/-! ## The anchor along a run -/

structure AnchoredTruly (utc : Nat → ℚ) (s : ClockSystem ℚ) : Prop where
  error : |utc s.clock.anchorCaptureUs - s.clock.anchorUtcSeconds| ≤ 51 / 1000000
  past : s.clock.anchorCaptureUs ≤ s.counterUs

theorem rejectSample_anchor {clock : ClockContext ℚ}
    (valid : (rejectSample clock).solutionValid = true) : clock.solutionValid = true ∧
      (rejectSample clock).anchorCaptureUs = clock.anchorCaptureUs ∧
      (rejectSample clock).anchorUtcSeconds = clock.anchorUtcSeconds := by
  have early := early_of_valid valid
  rw [rejectSample_early early] at valid ⊢
  exact ⟨valid, rfl, rfl⟩

theorem enforceHoldoverPolicy_kept {config : Kconfig} {clock : ClockContext ℚ} {lock : Bool}
    {monotonicUs : Option Nat}
    (valid : (enforceHoldoverPolicy config clock lock monotonicUs).solutionValid = true) :
    clock.solutionValid = true ∧ ∃ state,
      enforceHoldoverPolicy config clock lock monotonicUs = { clock with state := state } := by
  rcases enforceHoldoverPolicy_cases config clock lock monotonicUs with h | ⟨-, h⟩ | h
  · exact ⟨by rwa [h] at valid, _, h⟩
  · exact ⟨by rwa [h] at valid, _, h⟩
  · rw [h] at valid
    cases valid

section

variable {utc : Nat → ℚ} {config : Kconfig} {s t : ClockSystem ℚ}

theorem AnchoredTruly.kept (anchored : AnchoredTruly utc s) {state : ClockState}
    (clock : t.clock = { s.clock with state := state }) (later : s.counterUs ≤ t.counterUs) :
    AnchoredTruly utc t := by
  obtain ⟨error, past⟩ := anchored
  refine ⟨?_, ?_⟩
  · rw [clock]
    exact error
  · rw [clock]
    exact past.trans later

theorem edge_error {now : Nat} {lock : Bool} {sample : TimingSample}
    (names : NamesItsEdge utc (.submit now lock sample))
    (quantization : |sample.timingQuantizationErrorNs| ≤ appClockMaxTimingQerrNs) :
    |utc sample.ppsCaptureUs - sample.utcSeconds| ≤ 51 / 1000000 := by
  have small : ((|sample.timingQuantizationErrorNs| : Int) : ℚ) ≤ 50000 := by
    exact_mod_cast quantization
  have error := names.2
  linarith

theorem anchoredTruly_submit {now : Nat} {lock : Bool} {sample : TimingSample} {err : EspErr}
    {after : ClockContext ℚ} (anchored : s.clock.solutionValid = true → AnchoredTruly utc s)
    (later : s.counterUs ≤ now) (names : NamesItsEdge utc (.submit now lock sample))
    (outcome : SampleOutcome config s.clock lock sample err after)
    (valid : after.solutionValid = true) :
    |utc after.anchorCaptureUs - after.anchorUtcSeconds| ≤ 51 / 1000000 ∧
      after.anchorCaptureUs ≤ now := by
  cases outcome with
  | acquired accepted => exact ⟨edge_error names accepted.1.quantization, names.1⟩
  | accepted accepted => exact ⟨edge_error names accepted.1.quantization, names.1⟩
  | reanchored reanchored =>
      obtain ⟨-, capture, utcSeconds⟩ := rejectSample_anchor valid
      rw [capture, utcSeconds]
      exact ⟨edge_error names reanchored.1.quantization, names.1⟩
  | rejected =>
      obtain ⟨solution, capture, utcSeconds⟩ := rejectSample_anchor valid
      rw [capture, utcSeconds]
      exact ⟨(anchored solution).error, (anchored solution).past.trans later⟩
  | refused => exact ⟨(anchored valid).error, (anchored valid).past.trans later⟩

theorem anchoredTruly_step {event : ClockEvent}
    (anchored : s.clock.solutionValid = true → AnchoredTruly utc s) (truthful : Truthful utc s event)
    (taken : clockStep config s event = some t) (valid : t.clock.solutionValid = true) :
    AnchoredTruly utc t := by
  obtain ⟨later, rfl⟩ := clockStep_eq_some.mp taken
  cases event with
  | submit now lock sample =>
      obtain ⟨err, outcome, -, -⟩ := apply_submit config s now lock sample
      obtain ⟨error, past⟩ := anchoredTruly_submit anchored later truthful.sample outcome valid
      exact ⟨error, past⟩
  | updateReference now gnss pps lock =>
      change (updateReferenceState s.clock gnss pps lock).solutionValid = true at valid
      obtain ⟨state, kept⟩ : ∃ state,
          updateReferenceState s.clock gnss pps lock = { s.clock with state := state } := by
        rcases updateReferenceState_cases s.clock gnss pps lock with h | ⟨-, state, -, h⟩
        · exact ⟨_, h⟩
        · exact ⟨state, h⟩
      rw [kept] at valid
      exact (anchored valid).kept kept later
  | enforce now lock read =>
      let read' := if read then some now else none
      change (enforceHoldoverPolicy config s.clock lock read').solutionValid = true at valid
      obtain ⟨solution, state, kept⟩ := enforceHoldoverPolicy_kept valid
      exact (anchored solution).kept kept later
  | wait now => exact ⟨(anchored valid).error, (anchored valid).past.trans later⟩

theorem anchoredTruly_of_run {past : List ClockEvent}
    (run : Run (clockStep config) (Truthful utc) clockStart past s)
    (valid : s.clock.solutionValid = true) : AnchoredTruly utc s := by
  refine run.invariant (fun _ s => s.clock.solutionValid = true → AnchoredTruly utc s)
    (fun invalid => by cases invalid) ?_ valid
  exact fun _ _ _ _ anchored truthful taken => anchoredTruly_step anchored truthful taken

/-! ## The bound -/

theorem error_le {now : Nat} (anchored : AnchoredTruly utc s) (wander : WithinWander utc s.clock now) :
    |servedUtc s.clock now - utc now| ≤
      51 / 1000000 + 20 / 1000000 * (((now : ℚ) - s.clock.anchorCaptureUs) / 1000000) := by
  have ppm : (appClockHoldoverWanderPpm : ℚ) = 20 := rfl
  rw [WithinWander, ppm] at wander
  have split : servedUtc s.clock now - utc now =
      ((servedUtc s.clock now - s.clock.anchorUtcSeconds) - (utc now - utc s.clock.anchorCaptureUs)) -
        (utc s.clock.anchorCaptureUs - s.clock.anchorUtcSeconds) := by ring
  have triangle := abs_sub ((servedUtc s.clock now - s.clock.anchorUtcSeconds) -
    (utc now - utc s.clock.anchorCaptureUs)) (utc s.clock.anchorCaptureUs - s.clock.anchorUtcSeconds)
  have error := anchored.error
  rw [split]
  linarith

end

theorem dispersion_below_cap {clock : ClockContext ℚ} {holdoverSeconds : Nat}
    (below : appClockBaseDispersionNs + |clock.lastPhaseErrorNs| + 20000 * holdoverSeconds ≤
      appClockMaxHoldoverDispersionNs) :
    (100000 + 20000 * (holdoverSeconds : ℚ)) / 1000000000 - 1 / 65536 ≤
      (calculateDispersion1616 clock holdoverSeconds : ℚ) / 65536 := by
  have cap : appClockMaxHoldoverDispersionNs = 1000000000 := rfl
  have base : appClockBaseDispersionNs = 100000 := rfl
  have phase := abs_nonneg clock.lastPhaseErrorNs
  have fits : holdoverSeconds < 2 ^ 32 := by omega
  have whole : (100000 + 20000 * holdoverSeconds) * 65536 ≤
      (calculateDispersion1616 clock holdoverSeconds + 1) * 1000000000 := by
    rw [calculateDispersion1616_eq clock fits]
    omega
  have whole' : (100000 + 20000 * (holdoverSeconds : ℚ)) * 65536 ≤
      ((calculateDispersion1616 clock holdoverSeconds : ℚ) + 1) * 1000000000 := by exact_mod_cast whole
  linarith

theorem dispersion_at_cap {clock : ClockContext ℚ} {holdoverSeconds : Nat}
    (above : appClockMaxHoldoverDispersionNs ≤
      appClockBaseDispersionNs + |clock.lastPhaseErrorNs| + 20000 * holdoverSeconds)
    (fits : holdoverSeconds < 2 ^ 32) : calculateDispersion1616 clock holdoverSeconds = 65536 := by
  rw [calculateDispersion1616_eq clock fits, min_eq_right above]
  rfl

theorem age_le (age : Nat) : (age : ℚ) ≤ 1000000 * ((age / 1000000 : Nat) : ℚ) + 999999 := by
  exact_mod_cast (by omega : age ≤ 1000000 * (age / 1000000) + 999999)

theorem servedWithin_of_room {clock : ClockContext ℚ} {now : Nat} {utc bound : ℚ}
    (room : |servedUtc clock now - utc| + 1 / 4294967296 ≤ bound) :
    ServedWithin clock now utc bound := by
  refine ⟨by linarith, fun timestamp read => ?_⟩
  obtain ⟨era, below, above⟩ := getNtpTimestamp_cut read
  obtain ⟨low, high⟩ := abs_le.mp (le_refl |servedUtc clock now - utc|)
  refine ⟨era, ?_⟩
  rw [abs_le]
  constructor <;> linarith

/-- Up to 49996 s the wander fits below the cap, with the rest of the last second. -/
theorem wander_le_dispersion (clock : ClockContext ℚ) {age : Nat} (short : age / 1000000 ≤ 49996) :
    51 / 1000000 + 20 / 1000000 * ((age : ℚ) / 1000000) + 1 / 4294967296 ≤
      (calculateDispersion1616 clock (age / 1000000) : ℚ) / 65536 := by
  have whole := age_le age
  rcases le_total (appClockBaseDispersionNs + |clock.lastPhaseErrorNs| + 20000 * (age / 1000000 : Nat))
    appClockMaxHoldoverDispersionNs with below | above
  · have bound := dispersion_below_cap below
    linarith
  · have small : ((age / 1000000 : Nat) : ℚ) ≤ 49996 := by exact_mod_cast short
    rw [dispersion_at_cap above (by omega)]
    norm_num
    linarith

theorem realErrorBounded_of_short {config : Kconfig} (short : config.holdoverMaxSeconds ≤ 49996) :
    RealErrorBounded config := by
  intro utc past s run now t truthful taken serviceable status read
  have counter : now ≤ counterLimit := truthful.counter
  have limit : counterLimit < 2 ^ 32 * 1000000 := by decide
  obtain ⟨later, rfl⟩ := clockStep_eq_some.mp taken
  obtain ⟨valid, -⟩ := Bool.and_eq_true_iff.mp serviceable
  obtain ⟨solution, state, kept⟩ := enforceHoldoverPolicy_kept valid
  have clock : (s.apply config (.enforce now true true)).clock = { s.clock with state := state } := kept
  have anchored := anchoredTruly_of_run run solution
  have age : (now : ℚ) - s.clock.anchorCaptureUs = ((now - s.clock.anchorCaptureUs : Nat) : ℚ) :=
    (Nat.cast_sub (anchored.past.trans later)).symm
  have seconds : calculateHoldoverSeconds s.clock now =
      (now - s.clock.anchorCaptureUs) / 1000000 := by
    rw [(disciplined_of_run run).capture]
    exact calculateHoldoverSeconds_eq solution (by omega)
  have within := (enforceHoldoverPolicy_valid valid).2
  have wander : WithinWander utc s.clock now := truthful.wander solution
  have error := error_le anchored wander
  have bound := wander_le_dispersion s.clock (show (now - s.clock.anchorCaptureUs) / 1000000 ≤ 49996 by omega)
  rw [(getStatus_reports read).2, clock]
  have sameSeconds : calculateHoldoverSeconds { s.clock with state := state } now =
      calculateHoldoverSeconds s.clock now := rfl
  have sameDispersion : calculateDispersion1616 { s.clock with state := state } =
      calculateDispersion1616 s.clock := rfl
  have sameMapping : servedUtc { s.clock with state := state } now = servedUtc s.clock now := rfl
  rw [sameSeconds, sameDispersion, seconds]
  rw [age] at error
  refine servedWithin_of_room ?_
  rw [sameMapping]
  linarith

/-! ## A long holdover -/

def lateEdge (index : Nat) : TimingSample :=
  ⟨(index + 1) * 1000000, 1700000000 + index, 50000, .noWarning⟩

def lateClock (config : Kconfig) (count : Nat) : ClockContext ℚ where
  initialized := true
  solutionValid := true
  anchorCaptureUs := count * 1000000
  anchorUtcSeconds := 1699999999 + count
  lastSampleCaptureUs := count * 1000000
  lastSampleUtcSeconds := 1699999999 + count
  referenceTimestampValid := true
  referenceCaptureUs := count * 1000000
  referenceUtcSeconds := 1699999999 + count
  lastPhaseErrorNs := 50000
  frequencyPpm := 0
  acceptedSamples := count
  rejectedSamples := 0
  consecutiveRejects := 0
  leapIndicator := .noWarning
  state := if count ≥ config.lockSamples then .synchronized else .acquiring

def driftingUtc (anchorUs now : Nat) : ℚ :=
  1699999999 + (now : ℚ) / 1000000 - 51 / 1000000 - 20 / 1000000 * ((now - anchorUs : Nat) / 1000000)

theorem lateEdge_acquired (config : Kconfig) :
    submitSample config clockInit true (lateEdge 0) = (.ok, lateClock config 1) := by
  have lockSamples := config.lockSamples_range.1
  have acquiring : ¬1 ≥ config.lockSamples := by omega
  simp [submitSample, acquireSolution, clockInit, lateEdge, lateClock, appClockMaxTimingQerrNs,
    acquiring]

theorem lateEdge_frequency (config : Kconfig) (count : Nat) :
    filteredFrequencyPpm (lateClock config count) (lateEdge count) = 0 := by
  have measured : measuredFrequencyPpm (lateClock config count) (lateEdge count) = 0 := by
    have interval : (count + 1) * 1000000 - count * 1000000 = 1000000 := by omega
    have second : (1700000000 + count : Int) - (1699999999 + count) = 1 := by omega
    simp [measuredFrequencyPpm, lateClock, lateEdge, interval, second]
  have old : (lateClock config count).frequencyPpm = 0 := rfl
  rw [filteredFrequencyPpm_rat (by simp only [lateClock, lateEdge]; omega), measured, old, sub_zero,
    zero_div, add_zero]
  exact saturate_of_abs_le (by norm_num)

theorem lateEdge_phase (config : Kconfig) {count : Nat} (few : count ≤ 3600) :
    phaseErrorNs (lateClock config count) (lateEdge count) = 50000 := by
  have later : (lateClock config count).anchorCaptureUs ≤ (lateEdge count).ppsCaptureUs := by
    simp only [lateClock, lateEdge]
    omega
  have fits : (lateEdge count).ppsCaptureUs < 2 ^ 64 := by
    simp only [lateEdge]
    omega
  have predicted : utcSecondsAt (lateClock config count).anchorCaptureUs
      (lateClock config count).anchorUtcSeconds (0 : ℚ) (lateEdge count).ppsCaptureUs =
        ((lateEdge count).utcSeconds : ℚ) := by
    rw [utcSecondsAt_rat later fits]
    simp only [lateClock, lateEdge]
    push_cast
    ring
  have rounded : Double.llround (0 : ℚ) = 0 := by decide +kernel
  rw [phaseErrorNs, lateEdge_frequency, predicted, ofInt_rat, sub_self, zero_mul, rounded]
  rfl

theorem lateEdge_accepted (config : Kconfig) {count : Nat} (some : 0 < count) (few : count ≤ 3600) :
    submitSample config (lateClock config count) true (lateEdge count) =
      (.ok, lateClock config (count + 1)) := by
  have accepts : acceptSample config (lateClock config count) (lateEdge count) =
      lateClock config (count + 1) := by
    have counted : u32 (count + 1) = count + 1 := u32_eq (by omega)
    have second : (1700000000 + count : Int) = 1699999999 + ((count + 1 : Nat) : Int) := by omega
    simp only [acceptSample, lateEdge_frequency, lateEdge_phase config few]
    simp only [lateClock, lateEdge, counted, second]
  have valid : (lateClock config count).initialized = true ∧
      (lateClock config count).solutionValid = true := ⟨rfl, rfl⟩
  have later : (lateClock config count).lastSampleCaptureUs < (lateEdge count).ppsCaptureUs ∧
      (lateClock config count).lastSampleUtcSeconds < (lateEdge count).utcSeconds := by
    simp only [lateClock, lateEdge]
    omega
  have named : (lateEdge count).ppsCaptureUs ≠ 0 ∧ 0 < (lateEdge count).utcSeconds := by
    simp only [lateEdge]
    omega
  have quantization : ¬|(lateEdge count).timingQuantizationErrorNs| > appClockMaxTimingQerrNs :=
    show ¬|(50000 : Int)| > appClockMaxTimingQerrNs by decide
  unfold submitSample
  rw [if_neg (by simp [valid.1, named.1]; exact named.2), if_neg quantization, if_neg (by simp),
    if_neg (by simp [valid.2]), if_neg (by omega), if_neg (by omega),
    if_neg (by rw [lateEdge_phase config few]; decide), accepts]

theorem driftingUtc_early {anchorUs now : Nat} (early : now ≤ anchorUs) :
    driftingUtc anchorUs now = 1699999999 + (now : ℚ) / 1000000 - 51 / 1000000 := by
  rw [driftingUtc, Nat.sub_eq_zero_of_le early]
  simp

section

variable (config : Kconfig) {total count now : Nat}

theorem lateClock_served (later : count * 1000000 ≤ now) (fits : now < 2 ^ 64) :
    servedUtc (lateClock config count) now =
      1699999999 + count + ((now : ℚ) - count * 1000000) / 1000000 := by
  have anchored : (lateClock config count).anchorCaptureUs ≤ now := later
  rw [servedUtc, utcSecondsAt_rat anchored fits]
  simp only [lateClock]
  push_cast
  ring

theorem lateClock_withinWander (le : count ≤ total) (later : count * 1000000 ≤ now)
    (fits : now < 2 ^ 64) :
    WithinWander (driftingUtc (total * 1000000)) (lateClock config count) now := by
  have ppm : (appClockHoldoverWanderPpm : ℚ) = 20 := rfl
  have anchor : (lateClock config count).anchorCaptureUs = count * 1000000 := rfl
  have anchorUtc : (lateClock config count).anchorUtcSeconds = 1699999999 + count := rfl
  have drift : ((now - total * 1000000 : Nat) : ℚ) ≤ (now : ℚ) - count * 1000000 := by
    have fewer : now - total * 1000000 ≤ now - count * 1000000 := by omega
    have cast : ((now - count * 1000000 : Nat) : ℚ) = (now : ℚ) - count * 1000000 := by
      rw [Nat.cast_sub later]
      push_cast
      ring
    rw [← cast]
    exact_mod_cast fewer
  have nonneg : (0 : ℚ) ≤ ((now - total * 1000000 : Nat) : ℚ) := Nat.cast_nonneg _
  rw [WithinWander, lateClock_served config later fits, anchor, anchorUtc, ppm,
    driftingUtc_early (Nat.mul_le_mul_right _ le), driftingUtc, abs_le]
  push_cast
  constructor <;> linarith

theorem lateEdge_named (within : count < total) :
    NamesItsEdge (driftingUtc (total * 1000000))
      (.submit ((count + 1) * 1000000) true (lateEdge count)) := by
  refine ⟨le_rfl, ?_⟩
  have error : driftingUtc (total * 1000000) (lateEdge count).ppsCaptureUs -
      (lateEdge count).utcSeconds = -(51 / 1000000) := by
    rw [driftingUtc_early (by simp only [lateEdge]; omega)]
    simp only [lateEdge]
    push_cast
    ring
  have quantization : |(lateEdge count).timingQuantizationErrorNs| = 50000 := rfl
  rw [error, quantization, abs_neg]
  norm_num

theorem run_submit {utc : Nat → ℚ} {past : List ClockEvent} {s : ClockSystem ℚ}
    (run : Run (clockStep config) (Truthful utc) clockStart past s) {sample : TimingSample}
    {after : ClockContext ℚ} (truthful : Truthful utc s (.submit now true sample))
    (later : s.counterUs ≤ now) (submitted : submitSample config s.clock true sample = (.ok, after)) :
    ∃ past t, Run (clockStep config) (Truthful utc) clockStart past t ∧ t.clock = after ∧
      t.counterUs = now :=
  ⟨_, _, .next run truthful (clockStep_eq_some.mpr ⟨later, rfl⟩), congrArg Prod.snd submitted, rfl⟩

theorem lateEdges_run (few : total ≤ 3600) (within : count < total) :
    ∃ past s, Run (clockStep config) (Truthful (driftingUtc (total * 1000000))) clockStart past s ∧
      s.clock = lateClock config (count + 1) ∧ s.counterUs = (count + 1) * 1000000 := by
  have limit : 3600000000 ≤ counterLimit := by decide
  have small : counterLimit < 2 ^ 64 := by decide
  have counter : (count + 1) * 1000000 ≤ counterLimit := by omega
  induction count with
  | zero =>
      have truthful : Truthful (driftingUtc (total * 1000000)) clockStart
          (.submit ((0 + 1) * 1000000) true (lateEdge 0)) :=
        ⟨counter, lateEdge_named within, fun invalid => by cases invalid⟩
      exact run_submit config .start truthful (Nat.zero_le _) (lateEdge_acquired config)
  | succ count ih =>
      obtain ⟨past, s, run, clock, counterUs⟩ := ih (by omega)
        ((Nat.mul_le_mul_right _ (Nat.le_succ _)).trans counter)
      have truthful : Truthful (driftingUtc (total * 1000000)) s
          (.submit ((count + 1 + 1) * 1000000) true (lateEdge (count + 1))) := by
        refine ⟨counter, lateEdge_named within, fun _ => ?_⟩
        rw [clock]
        exact lateClock_withinWander config (by omega) (Nat.mul_le_mul_right _ (Nat.le_succ _))
          (counter.trans_lt small)
      refine run_submit config run truthful ?_ ?_
      · rw [counterUs]
        exact Nat.mul_le_mul_right _ (Nat.le_succ _)
      · rw [clock]
        exact lateEdge_accepted config (Nat.succ_pos count) (by omega)

theorem not_realErrorBounded (long : 49997 ≤ config.holdoverMaxSeconds) : ¬RealErrorBounded config := by
  intro claim
  obtain ⟨least, most⟩ := config.lockSamples_range
  obtain ⟨past, s, run, clock, counterUs⟩ :=
    lateEdges_run config most (show config.lockSamples - 1 < config.lockSamples by omega)
  rw [Nat.sub_add_cancel (by omega : 1 ≤ config.lockSamples)] at clock counterUs
  have limit : 53597999999 ≤ counterLimit := by decide
  have small : counterLimit < 2 ^ 64 := by decide
  have fits : counterLimit < 2 ^ 32 * 1000000 := by decide
  obtain ⟨now, at'⟩ : ∃ now, now = config.lockSamples * 1000000 + 49997999999 := exists_eq
  have later : config.lockSamples * 1000000 ≤ now := by omega
  have below : now < 2 ^ 64 := by omega
  have truthful : Truthful (driftingUtc (config.lockSamples * 1000000)) s (.enforce now true true) := by
    refine ⟨?_, trivial, fun _ => ?_⟩
    · change now ≤ counterLimit
      omega
    · rw [clock]
      exact lateClock_withinWander config le_rfl later below
  have seconds : calculateHoldoverSeconds (lateClock config config.lockSamples) now = 49997 := by
    rw [calculateHoldoverSeconds_eq rfl (by simp only [lateClock]; omega)]
    simp only [lateClock]
    omega
  have synchronized : (lateClock config config.lockSamples).state = .synchronized := if_pos le_rfl
  have enforced : enforceHoldoverPolicy config s.clock true (some now) =
      { lateClock config config.lockSamples with state := .holdover } := by
    rw [clock, enforceHoldoverPolicy, if_neg (by simp), if_neg (by simp [lateClock])]
    dsimp only
    rw [seconds, if_neg (by omega), if_pos ⟨by decide, synchronized⟩]
  have taken : (s.apply config (.enforce now true true)).clock =
      { lateClock config config.lockSamples with state := .holdover } := enforced
  obtain ⟨status, read⟩ := getStatus_initialized
    (show (s.apply config (.enforce now true true)).clock.initialized = true by rw [taken]; rfl) now
  have bounded := claim _ past s run now _ truthful
    (clockStep_eq_some.mpr ⟨counterUs.trans_le later, rfl⟩) (by rw [taken]; rfl) status read
  replace bounded := bounded.1
  have served := lateClock_served config later below
  have age : ((now - config.lockSamples * 1000000 : Nat) : ℚ) = 49997999999 := by
    exact_mod_cast (by omega : now - config.lockSamples * 1000000 = 49997999999)
  have error : servedUtc (lateClock config config.lockSamples) now -
      driftingUtc (config.lockSamples * 1000000) now =
        51 / 1000000 + 20 / 1000000 * (49997999999 / 1000000) := by
    rw [served, driftingUtc, age]
    ring
  have dispersion : calculateDispersion1616 (lateClock config config.lockSamples) 49997 = 65536 :=
    dispersion_at_cap (by simp only [lateClock]; decide) (by decide)
  rw [(getStatus_reports read).2, taken] at bounded
  change |servedUtc (lateClock config config.lockSamples) now - _| ≤
    (calculateDispersion1616 (lateClock config config.lockSamples)
      (calculateHoldoverSeconds (lateClock config config.lockSamples) now) : ℚ) / 65536 at bounded
  rw [seconds, dispersion, error] at bounded
  exact absurd bounded (by norm_num [abs_of_pos])

end

/-- The reported dispersion bounds the real error in every run exactly where the longest holdover
ends before the wander reaches the cap of one second. -/
theorem dispersion_bounds_error_iff (config : Kconfig) :
    RealErrorBounded config ↔ config.holdoverMaxSeconds ≤ 49996 := by
  refine ⟨fun bounded => ?_, realErrorBounded_of_short⟩
  by_contra long
  exact not_realErrorBounded config (by omega) bounded

def longestHoldover : Kconfig :=
  { Kconfig.default with holdoverMaxSeconds := 86400, holdoverMaxSeconds_range := by decide }

theorem longest_holdover_exceeds_dispersion : ¬∀ config, RealErrorBounded config :=
  fun claim => not_realErrorBounded longestHoldover (by decide) (claim _)

end NtsTimeServer.Proof
