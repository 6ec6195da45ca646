import NtsTimeServer.Proof.Dispersion

namespace NtsTimeServer.Proof
open Model Lib

variable {config : Kconfig}

/-- Latest first, every submitted sample of `past` has its result in `results`. -/
def lastAccepted : List ClockEvent → List EspErr → Option TimingSample
  | .submit _ _ sample :: past, err :: results =>
      if err = .ok then some sample else lastAccepted past results
  | .submit .. :: _, [] | [], _ => none
  | _ :: past, results => lastAccepted past results

structure ReferenceKept {F : Type} (accepted : Option TimingSample) (clock : ClockContext F) :
    Prop where
  reference : clock.referenceTimestampValid = true → ∃ sample, accepted = some sample ∧
    clock.referenceCaptureUs = sample.ppsCaptureUs ∧ clock.referenceUtcSeconds = sample.utcSeconds
  capture : clock.referenceCaptureUs ≤ clock.lastSampleCaptureUs
  utc : clock.referenceUtcSeconds ≤ clock.lastSampleUtcSeconds

section Steps
variable {F : Type} [Double F]

theorem referenceKept_rejectSample {accepted : Option TimingSample} {clock : ClockContext F}
    (kept : ReferenceKept accepted clock) : ReferenceKept accepted (rejectSample clock) := by
  by_cases last : LastChance clock
  · rw [rejectSample_last last]
    exact ⟨kept.reference, kept.capture, kept.utc⟩
  · rw [rejectSample_early last]
    exact ⟨kept.reference, kept.capture, kept.utc⟩

theorem referenceKept_submit {accepted : Option TimingSample} {clock after : ClockContext F}
    {lock : Bool} {sample : TimingSample} {err : EspErr} (kept : ReferenceKept accepted clock)
    (outcome : SampleOutcome config clock lock sample err after) :
    ReferenceKept (if err = .ok then some sample else accepted) after := by
  cases outcome with
  | acquired => exact ⟨fun _ => ⟨sample, rfl, rfl, rfl⟩, le_rfl, le_rfl⟩
  | accepted => exact ⟨fun _ => ⟨sample, rfl, rfl, rfl⟩, le_rfl, le_rfl⟩
  | reanchored reanchored =>
      -- the anchor and the last sample move on, the reference stays behind
      have later := reanchored.2.2.1
      exact referenceKept_rejectSample
        ⟨kept.reference, kept.capture.trans later.capture.le, kept.utc.trans later.utc.le⟩
  | rejected _ _ _ failed =>
      rw [if_neg failed]
      exact referenceKept_rejectSample kept
  | refused _ failed =>
      rw [if_neg failed]
      exact kept

theorem referenceKept_step {past : List ClockEvent} {s t : ClockSystem F} {event : ClockEvent}
    (kept : ReferenceKept (lastAccepted past s.results) s.clock)
    (taken : clockStep config s event = some t) :
    ReferenceKept (lastAccepted (event :: past) t.results) t.clock := by
  obtain ⟨-, rfl⟩ := clockStep_eq_some.mp taken
  cases event with
  | submit now lock sample =>
      obtain ⟨err, outcome, results, -⟩ := apply_submit config s now lock sample
      rw [results]
      exact referenceKept_submit kept outcome
  | updateReference now gnss pps lock =>
      change ReferenceKept (lastAccepted past s.results) (updateReferenceState s.clock gnss pps lock)
      rcases updateReferenceState_cases s.clock gnss pps lock with h | ⟨-, state, -, h⟩
      all_goals
        rw [h]
        exact ⟨kept.reference, kept.capture, kept.utc⟩
  | enforce now lock read =>
      let read' := if read then some now else none
      change ReferenceKept (lastAccepted past s.results)
        (enforceHoldoverPolicy config s.clock lock read')
      rcases enforceHoldoverPolicy_cases config s.clock lock read' with h | ⟨-, h⟩ | h
      all_goals
        rw [h]
        exact ⟨kept.reference, kept.capture, kept.utc⟩
  | wait now => exact kept

theorem referenceKept_of_run {past : List ClockEvent} {s : ClockSystem F}
    (run : FreeRun (clockStep config) clockStart past s) :
    ReferenceKept (lastAccepted past s.results) s.clock := by
  refine run.invariant (fun past s => ReferenceKept (lastAccepted past s.results) s.clock) ?_ ?_
  · exact ⟨nofun, le_rfl, le_rfl⟩
  · exact fun _ _ _ _ kept _ taken => referenceKept_step kept taken

end Steps

/-! ## The order of the two readings -/

theorem servedUtc_ge {clock : ClockContext ℚ} {now : Nat} (disciplined : Disciplined clock)
    (later : clock.anchorCaptureUs ≤ now) (fits : now < 2 ^ 64) :
    (clock.anchorUtcSeconds : ℚ) ≤ servedUtc clock now := by
  have anchor : servedUtc clock clock.anchorCaptureUs = clock.anchorUtcSeconds :=
    utcSecondsAt_anchor (by omega) _ _
  rw [← anchor]
  exact servedUtc_mono disciplined le_rfl later fits

theorem whole_le_cut {seconds : Int} {timestamp : NtpTimestamp} {era : Nat} {utc : ℚ}
    (le : (seconds : ℚ) ≤ utc) (cut : utc < timestampUtc timestamp era + 1 / 4294967296) :
    (seconds : ℚ) ≤ timestampUtc timestamp era := by
  let units : Int := ((timestamp.seconds : Int) + era * 4294967296 - appNtpEpochDelta) * 4294967296 +
    timestamp.fraction
  have exact : timestampUtc timestamp era = units / 4294967296 := by
    simp only [timestampUtc, units]
    push_cast
    ring
  rw [exact] at cut ⊢
  have less : ((seconds * 4294967296 : Int) : ℚ) < ((units + 1 : Int) : ℚ) := by
    push_cast
    linarith
  have le_units : seconds * 4294967296 ≤ units := Int.lt_add_one_iff.mp (Int.cast_lt.mp less)
  have le_units' : ((seconds * 4294967296 : Int) : ℚ) ≤ (units : ℚ) := Int.cast_le.mpr le_units
  push_cast at le_units'
  linarith

theorem getReferenceTimestamp_some {F : Type} {clock : ClockContext F} {lock : Bool} {now : Nat}
    {reference : NtpTimestamp} {age : Nat}
    (read : getReferenceTimestamp clock lock (some now) = some (reference, age)) :
    clock.referenceTimestampValid = true ∧ 0 < clock.referenceUtcSeconds ∧
      clock.referenceCaptureUs ≤ now ∧
      reference = ⟨u32 (clock.referenceUtcSeconds.toNat + appNtpEpochDelta), 0⟩ ∧
      age = min ((now - clock.referenceCaptureUs) / 1000000) (2 ^ 32 - 1) := by
  unfold getReferenceTimestamp at read
  split at read
  · cases read
  rename_i valid
  simp only [not_or, not_not, not_le] at valid
  dsimp only at read
  split at read
  · cases read
  rename_i later
  obtain ⟨rfl, rfl⟩ := Prod.mk.inj (Option.some.inj read)
  exact ⟨valid.2.2.2.1, valid.2.2.2.2, not_lt.mp later, rfl, rfl⟩

theorem timestampUtc_whole {seconds : Int} (positive : 0 < seconds) :
    ∃ era, timestampUtc ⟨u32 (seconds.toNat + appNtpEpochDelta), 0⟩ era = seconds := by
  obtain ⟨whole, rfl⟩ := Int.eq_ofNat_of_zero_le positive.le
  refine ⟨(whole + appNtpEpochDelta) / 4294967296, ?_⟩
  have era := u32_add_era (whole + appNtpEpochDelta)
  rw [timestampUtc, Int.toNat_natCast, Int.cast_natCast]
  push_cast at era ⊢
  linarith

structure ReferenceBefore (accepted : Option TimingSample) (clock : ClockContext ℚ) (now : Nat)
    (reference : NtpTimestamp) (age : Nat) (current : NtpTimestamp) : Prop where
  sample : ∃ sample, accepted = some sample ∧ clock.referenceCaptureUs = sample.ppsCaptureUs ∧
    clock.referenceUtcSeconds = sample.utcSeconds ∧ sample.ppsCaptureUs ≤ now ∧
    age = (now - sample.ppsCaptureUs) / 1000000 ∧
    ∃ era, timestampUtc reference era = sample.utcSeconds
  current : (clock.referenceUtcSeconds : ℚ) ≤ servedUtc clock now ∧
    ∃ era, (clock.referenceUtcSeconds : ℚ) ≤ timestampUtc current era ∧
      timestampUtc current era ≤ servedUtc clock now ∧
      servedUtc clock now < timestampUtc current era + 1 / 4294967296

theorem reference_not_after_current {past : List ClockEvent} {s : ClockSystem ℚ}
    (run : FreeRun (clockStep config) clockStart past s) {ticks : Nat} {lock lock' : Bool}
    {reference current : NtpTimestamp} {age : Nat}
    (readReference : getReferenceTimestamp s.clock lock (ppsServiceGetMonotonicUs (some ticks)) =
      some (reference, age))
    (readCurrent : getNtpTimestamp s.clock lock' (ppsServiceGetMonotonicUs (some ticks)) =
      some current) :
    ReferenceBefore (lastAccepted past s.results) s.clock (ticksToUs ticks) reference age current := by
  have disciplined := disciplined_of_run run
  have kept := referenceKept_of_run run
  obtain ⟨valid, positive, past, rfl, aged⟩ := getReferenceTimestamp_some readReference
  obtain ⟨sample, accepted, capture, utc⟩ := kept.reference valid
  have small : ticksToUs ticks ≤ 18446744073709 := ticksToUs_le ticks
  have served : (s.clock.referenceUtcSeconds : ℚ) ≤ servedUtc s.clock (ticksToUs ticks) :=
    calc (s.clock.referenceUtcSeconds : ℚ) ≤ s.clock.anchorUtcSeconds := by
          rw [disciplined.utc]
          exact_mod_cast kept.utc
      _ ≤ servedUtc s.clock (ticksToUs ticks) :=
          servedUtc_ge disciplined (getNtpTimestamp_some readCurrent).1 (by omega)
  refine ⟨⟨sample, accepted, capture, utc, capture ▸ past, ?_, ?_⟩, served, ?_⟩
  · rw [aged, capture, min_eq_left (by omega)]
  · rw [← utc]
    exact timestampUtc_whole positive
  · obtain ⟨era, low, high⟩ := getNtpTimestamp_cut readCurrent
    exact ⟨era, whole_le_cut served high, low, high⟩

theorem lockedSystem_reference : ReferenceBefore (some (edgeSample 3000000 1700000002))
    lockedSystem.clock 5500000 ⟨3908988802, 0⟩ 2 ⟨3908988804, 2147483648⟩ :=
  @reference_not_after_current _ _ _ steadySamples_lock 5500000 true true _ _ _ (by decide +kernel)
    (by decide +kernel)

end NtsTimeServer.Proof
