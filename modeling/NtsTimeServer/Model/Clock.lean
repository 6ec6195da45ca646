import NtsTimeServer.Model.Types

/-!
# The disciplined clock

`clock_discipline.c` without its monitor task: the clock context, the sample path, the holdover
policy and the readers. Every function takes the outcome of `lock_clock()` and, where it reads the
monotonic counter, the value read (`none` where `pps_service_get_monotonic_us` fails). Publishing
to `app_state` and logging have no effect on the clock and are left out.
-/

namespace NtsTimeServer.Model
open Double

variable {F : Type} [Double F]

def appClockMaxTimingQerrNs : Int := 50000
def appClockMaxConsecutiveRejects : Nat := 3
def appClockBaseDispersionNs : Int := 100000
def appClockHoldoverWanderPpm : F := ofInt 20
def appClockMaxHoldoverDispersionNs : Int := 1000000000
def appClockMaxAcceptableErrorNs : Int := 250000000
def appClockMaxFrequencyPpm : F := ofInt 200
def appClockFrequencyFilterGain : F := ofInt 1 / ofInt 8
def appNtpEpochDelta : Nat := 2208988800

structure ClockContext (F : Type) where
  initialized : Bool
  solutionValid : Bool
  anchorCaptureUs : Nat
  anchorUtcSeconds : Int
  lastSampleCaptureUs : Nat
  lastSampleUtcSeconds : Int
  referenceTimestampValid : Bool
  referenceCaptureUs : Nat
  referenceUtcSeconds : Int
  lastPhaseErrorNs : Int
  frequencyPpm : F
  acceptedSamples : Nat
  rejectedSamples : Nat
  consecutiveRejects : Nat
  leapIndicator : LeapIndicator
  state : ClockState
  deriving DecidableEq

def clockInit : ClockContext F where
  initialized := true
  solutionValid := false
  anchorCaptureUs := 0
  anchorUtcSeconds := 0
  lastSampleCaptureUs := 0
  lastSampleUtcSeconds := 0
  referenceTimestampValid := false
  referenceCaptureUs := 0
  referenceUtcSeconds := 0
  lastPhaseErrorNs := 0
  frequencyPpm := ofInt 0
  acceptedSamples := 0
  rejectedSamples := 0
  consecutiveRejects := 0
  leapIndicator := .unknown
  state := .unsynchronized

structure TimingSample where
  ppsCaptureUs : Nat
  utcSeconds : Int
  timingQuantizationErrorNs : Int
  leapIndicator : LeapIndicator
  deriving DecidableEq

/-- The fields of `gnss_service_status_t` that the clock and the server read. -/
structure GnssStatus where
  utcValid : Bool
  utcFromUbxPvt : Bool
  gnssFixValid : Bool
  gnssTimeFullyResolved : Bool
  leapIndicator : LeapIndicator
  leapInformationValid : Bool
  currentLeapSeconds : Int
  timingPulseValid : Bool
  timingWeek : Nat
  timingTowMs : Nat
  /-- picoseconds, whatever the field's name says -/
  timingQuantizationErrorNs : Int
  timingPulseAgeUs : Int
  deriving DecidableEq

structure PpsStatus where
  intervalValid : Bool
  lastCaptureUs : Nat
  periodUs : Nat
  jitterUs : Nat
  ageUs : Int
  deriving DecidableEq

/-! ## Holdover and dispersion -/

def calculateHoldoverSeconds (clock : ClockContext F) (nowCaptureUs : Nat) : Nat :=
  if ¬clock.solutionValid ∨ nowCaptureUs < clock.lastSampleCaptureUs then 0
  else u32 ((nowCaptureUs - clock.lastSampleCaptureUs) / 1000000)

def calculateDispersion1616 (clock : ClockContext F) (holdoverSeconds : Nat) : Nat :=
  let dispersionNs := appClockBaseDispersionNs + |clock.lastPhaseErrorNs|
  let wanderNs : F := appClockHoldoverWanderPpm * ofInt 1000 * ofInt holdoverSeconds
  let dispersionNs := if ofInt 0 < wanderNs then dispersionNs + truncate wanderNs else dispersionNs
  let dispersionNs := if dispersionNs > appClockMaxHoldoverDispersionNs
    then appClockMaxHoldoverDispersionNs else dispersionNs
  let result := dispersionNs.toNat * 65536 / 1000000000
  if result > 2 ^ 32 - 1 then 2 ^ 32 - 1 else result

def ppsStatusUsable (status : PpsStatus) : Bool :=
  status.intervalValid && decide (0 ≤ status.ageUs) && decide (status.ageUs ≤ 2500 * 1000) &&
    decide (800000 ≤ status.periodUs) && decide (status.periodUs ≤ 1200000) &&
    decide (status.jitterUs ≤ 250)

def gnssReady (status : GnssStatus) : Bool :=
  status.utcValid && status.utcFromUbxPvt && status.gnssFixValid && status.gnssTimeFullyResolved &&
    status.leapInformationValid && status.timingPulseValid

/-- `none` for a status that could not be read. -/
def updateReferenceState (clock : ClockContext F) (gnss : Option GnssStatus)
    (pps : Option PpsStatus) (lock : Bool) : ClockContext F :=
  match gnss, pps, lock with
  | some gnss, some pps, true =>
      if ¬clock.solutionValid ∧ gnssReady gnss ∧ ppsStatusUsable pps then
        { clock with state := .acquiring }
      else if ¬clock.solutionValid ∧ (¬gnssReady gnss ∨ ¬ppsStatusUsable pps) then
        { clock with state := .unsynchronized }
      else clock
  | _, _, _ => clock

def enforceHoldoverPolicy (config : Kconfig) (clock : ClockContext F) (lock : Bool)
    (monotonicUs : Option Nat) : ClockContext F :=
  if ¬lock then clock
  else if ¬clock.solutionValid then clock
  else match monotonicUs with
    | none => clock
    | some nowCaptureUs =>
        let holdoverSeconds := calculateHoldoverSeconds clock nowCaptureUs
        if holdoverSeconds > config.holdoverMaxSeconds then
          { clock with solutionValid := false, state := .failClosed }
        else if holdoverSeconds > 0 ∧ clock.state = .synchronized then
          { clock with state := .holdover }
        else clock

/-! ## The sample path -/

def rejectSample (clock : ClockContext F) : ClockContext F :=
  let clock := { clock with
    rejectedSamples := u32 (clock.rejectedSamples + 1)
    consecutiveRejects := u32 (clock.consecutiveRejects + 1) }
  if clock.consecutiveRejects ≥ appClockMaxConsecutiveRejects then
    { clock with
      solutionValid := false
      state := .acquiring
      acceptedSamples := 0
      frequencyPpm := ofInt 0 }
  else clock

def acquireSolution (clock : ClockContext F) (sample : TimingSample) : ClockContext F :=
  { clock with
    anchorCaptureUs := sample.ppsCaptureUs
    anchorUtcSeconds := sample.utcSeconds
    lastSampleCaptureUs := sample.ppsCaptureUs
    lastSampleUtcSeconds := sample.utcSeconds
    referenceTimestampValid := true
    referenceCaptureUs := sample.ppsCaptureUs
    referenceUtcSeconds := sample.utcSeconds
    lastPhaseErrorNs := sample.timingQuantizationErrorNs
    frequencyPpm := ofInt 0
    acceptedSamples := 1
    rejectedSamples := 0
    consecutiveRejects := 0
    leapIndicator := sample.leapIndicator
    state := .acquiring
    solutionValid := true }

def filteredFrequencyPpm (clock : ClockContext F) (sample : TimingSample) : F :=
  let localElapsedUs := sample.ppsCaptureUs - clock.lastSampleCaptureUs
  let utcElapsedSeconds := sample.utcSeconds - clock.lastSampleUtcSeconds
  let expectedElapsedUs : F := ofInt utcElapsedSeconds * ofInt 1000000
  let measuredPeriodErrorPpm :=
    ((ofInt localElapsedUs - expectedElapsedUs) / expectedElapsedUs) * ofInt 1000000
  let targetFrequencyPpm := -measuredPeriodErrorPpm
  let frequencyPpm := ((ofInt 1 - appClockFrequencyFilterGain) * clock.frequencyPpm) +
    (appClockFrequencyFilterGain * targetFrequencyPpm)
  if (appClockMaxFrequencyPpm : F) < frequencyPpm then appClockMaxFrequencyPpm
  else if frequencyPpm < -(appClockMaxFrequencyPpm : F) then -appClockMaxFrequencyPpm
  else frequencyPpm

/-- The UTC seconds that an anchor and a frequency give at a counter value. -/
def utcSecondsAt (anchorCaptureUs : Nat) (anchorUtcSeconds : Int) (frequencyPpm : F)
    (captureUs : Nat) : F :=
  ofInt anchorUtcSeconds +
    (ofInt (sub64 captureUs anchorCaptureUs) / ofInt 1000000) *
      (ofInt 1 + (frequencyPpm / ofInt 1000000))

def phaseErrorNs (clock : ClockContext F) (sample : TimingSample) : Int :=
  let predictedUtcSeconds := utcSecondsAt clock.anchorCaptureUs clock.anchorUtcSeconds
    (filteredFrequencyPpm clock sample) sample.ppsCaptureUs
  llround ((ofInt sample.utcSeconds - predictedUtcSeconds) * ofInt 1000000000) +
    sample.timingQuantizationErrorNs

/-- What the branch for an excessive phase error writes before it rejects the sample. -/
def reanchor (clock : ClockContext F) (sample : TimingSample) : ClockContext F :=
  { clock with
    anchorCaptureUs := sample.ppsCaptureUs
    anchorUtcSeconds := sample.utcSeconds
    lastSampleCaptureUs := sample.ppsCaptureUs
    lastSampleUtcSeconds := sample.utcSeconds
    lastPhaseErrorNs := phaseErrorNs clock sample
    frequencyPpm := ofInt 0
    acceptedSamples := 1 }

def acceptSample (config : Kconfig) (clock : ClockContext F) (sample : TimingSample) :
    ClockContext F :=
  let acceptedSamples := u32 (clock.acceptedSamples + 1)
  { clock with
    anchorCaptureUs := sample.ppsCaptureUs
    anchorUtcSeconds := sample.utcSeconds
    lastSampleCaptureUs := sample.ppsCaptureUs
    lastSampleUtcSeconds := sample.utcSeconds
    referenceTimestampValid := true
    referenceCaptureUs := sample.ppsCaptureUs
    referenceUtcSeconds := sample.utcSeconds
    lastPhaseErrorNs := phaseErrorNs clock sample
    frequencyPpm := filteredFrequencyPpm clock sample
    leapIndicator := sample.leapIndicator
    acceptedSamples := acceptedSamples
    consecutiveRejects := 0
    state := if acceptedSamples ≥ config.lockSamples then .synchronized else .acquiring }

def submitSample (config : Kconfig) (clock : ClockContext F) (lock : Bool)
    (sample : TimingSample) : EspErr × ClockContext F :=
  if ¬clock.initialized ∨ sample.ppsCaptureUs = 0 ∨ sample.utcSeconds ≤ 0 then
    (.invalidArg, clock)
  else if |sample.timingQuantizationErrorNs| > appClockMaxTimingQerrNs then
    (.invalidResponse, if lock then rejectSample clock else clock)
  else if ¬lock then
    (.timeout, clock)
  else if ¬clock.solutionValid then
    (.ok, acquireSolution clock sample)
  else if sample.ppsCaptureUs ≤ clock.lastSampleCaptureUs ∨
      sample.utcSeconds ≤ clock.lastSampleUtcSeconds then
    (.invalidState, rejectSample clock)
  else if sample.utcSeconds - clock.lastSampleUtcSeconds ≤ 0 then
    (.invalidState, rejectSample clock)
  else if |phaseErrorNs clock sample| > appClockMaxAcceptableErrorNs then
    (.invalidResponse, rejectSample (reanchor clock sample))
  else
    (.ok, acceptSample config clock sample)

/-! ## Readers -/

structure NtpTimestamp where
  seconds : Nat
  fraction : Nat
  deriving DecidableEq, Repr

def ClockContext.serviceable (clock : ClockContext F) : Bool :=
  clock.solutionValid && (clock.state == .synchronized || clock.state == .holdover)

def getNtpTimestamp (clock : ClockContext F) (lock : Bool) (monotonicUs : Option Nat) :
    Option NtpTimestamp :=
  if ¬clock.initialized ∨ ¬lock ∨ ¬clock.serviceable then none
  else match monotonicUs with
    | none => none
    | some nowCaptureUs =>
        if nowCaptureUs < clock.anchorCaptureUs then none
        else
          let utcSeconds := utcSecondsAt clock.anchorCaptureUs clock.anchorUtcSeconds
            clock.frequencyPpm nowCaptureUs
          if utcSeconds < ofInt 0 then none
          else
            let integerSeconds := (truncate utcSeconds).toNat
            let fractionalSeconds := utcSeconds - ofInt integerSeconds
            some {
              seconds := u32 (integerSeconds + appNtpEpochDelta)
              fraction := u32 (truncate (fractionalSeconds * ofInt 4294967296)).toNat }

/-- `clock_discipline_get_reference_timestamp`: the timestamp and its age in seconds. -/
def getReferenceTimestamp (clock : ClockContext F) (lock : Bool) (monotonicUs : Option Nat) :
    Option (NtpTimestamp × Nat) :=
  if ¬clock.initialized ∨ ¬lock ∨ ¬clock.serviceable ∨ ¬clock.referenceTimestampValid ∨
      clock.referenceUtcSeconds ≤ 0 then none
  else match monotonicUs with
    | none => none
    | some nowCaptureUs =>
        if nowCaptureUs < clock.referenceCaptureUs then none
        else
          let ageSeconds := (nowCaptureUs - clock.referenceCaptureUs) / 1000000
          some ({
            seconds := u32 (clock.referenceUtcSeconds.toNat + appNtpEpochDelta)
            fraction := 0 }, min ageSeconds (2 ^ 32 - 1))

structure ClockStatus (F : Type) where
  initialized : Bool
  solutionValid : Bool
  state : ClockState
  phaseErrorNs : Int
  frequencyPpm : F
  acceptedSamples : Nat
  rejectedSamples : Nat
  holdoverSeconds : Nat
  rootDispersion1616 : Nat
  referenceTimestampValid : Bool
  referenceUtcSeconds : Int
  referenceAgeSeconds : Nat

def getStatus (clock : ClockContext F) (lock : Bool) (monotonicUs : Option Nat) :
    Option (ClockStatus F) :=
  if ¬clock.initialized ∨ ¬lock then none
  else
    let nowCaptureUs := monotonicUs.getD clock.lastSampleCaptureUs
    let holdoverSeconds := calculateHoldoverSeconds clock nowCaptureUs
    let referenceTimestampValid := clock.referenceTimestampValid && clock.serviceable
    some {
      initialized := clock.initialized
      solutionValid := clock.solutionValid
      state := clock.state
      phaseErrorNs := clock.lastPhaseErrorNs
      frequencyPpm := clock.frequencyPpm
      acceptedSamples := clock.acceptedSamples
      rejectedSamples := clock.rejectedSamples
      holdoverSeconds := holdoverSeconds
      rootDispersion1616 := calculateDispersion1616 clock holdoverSeconds
      referenceTimestampValid := referenceTimestampValid
      referenceUtcSeconds := clock.referenceUtcSeconds
      referenceAgeSeconds :=
        if referenceTimestampValid ∧ clock.referenceCaptureUs ≤ nowCaptureUs then
          min ((nowCaptureUs - clock.referenceCaptureUs) / 1000000) (2 ^ 32 - 1)
        else 0 }

end NtsTimeServer.Model
