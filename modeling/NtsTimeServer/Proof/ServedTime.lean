import NtsTimeServer.Model.ClockSystem
import NtsTimeServer.Proof.ClockSteps

namespace NtsTimeServer.Proof
open Model Lib

variable {F : Type} [Double F]

def servedSeconds (clock : ClockContext F) (nowCaptureUs : Nat) : Nat :=
  (Double.truncate (utcSecondsAt clock.anchorCaptureUs clock.anchorUtcSeconds clock.frequencyPpm
    nowCaptureUs)).toNat

def servedFraction (clock : ClockContext F) (nowCaptureUs : Nat) : Nat :=
  u32 (Double.truncate ((utcSecondsAt clock.anchorCaptureUs clock.anchorUtcSeconds clock.frequencyPpm
    nowCaptureUs - Double.ofInt (servedSeconds clock nowCaptureUs)) *
      Double.ofInt 4294967296)).toNat

theorem getNtpTimestamp_some {clock : ClockContext F} {lock : Bool} {nowCaptureUs : Nat}
    {timestamp : NtpTimestamp}
    (read : getNtpTimestamp clock lock (some nowCaptureUs) = some timestamp) :
    clock.anchorCaptureUs ≤ nowCaptureUs ∧
      ¬utcSecondsAt clock.anchorCaptureUs clock.anchorUtcSeconds clock.frequencyPpm nowCaptureUs <
        Double.ofInt 0 ∧
      timestamp = ⟨u32 (servedSeconds clock nowCaptureUs + appNtpEpochDelta),
        servedFraction clock nowCaptureUs⟩ := by
  unfold getNtpTimestamp at read
  split at read
  · cases read
  dsimp only at read
  split at read
  · cases read
  rename_i later
  split at read
  · cases read
  rename_i nonneg
  exact ⟨not_lt.mp later, nonneg, (Option.some.inj read).symm⟩

theorem getNtpTimestamp_invalid {clock : ClockContext F} (invalid : clock.solutionValid = false)
    (lock : Bool) (monotonicUs : Option Nat) : getNtpTimestamp clock lock monotonicUs = none := by
  simp [getNtpTimestamp, ClockContext.serviceable, invalid]

omit [Double F] in
theorem getReferenceTimestamp_invalid {clock : ClockContext F}
    (invalid : clock.solutionValid = false) (lock : Bool) (monotonicUs : Option Nat) :
    getReferenceTimestamp clock lock monotonicUs = none := by
  simp [getReferenceTimestamp, ClockContext.serviceable, invalid]

structure MappingKept (before after : ClockContext F) : Prop where
  anchorCapture : after.anchorCaptureUs = before.anchorCaptureUs
  anchorUtc : after.anchorUtcSeconds = before.anchorUtcSeconds
  frequency : after.frequencyPpm = before.frequencyPpm
  holdoverOrigin : after.lastSampleCaptureUs = before.lastSampleCaptureUs
  referenceValid : after.referenceTimestampValid = before.referenceTimestampValid
  referenceCapture : after.referenceCaptureUs = before.referenceCaptureUs
  referenceUtc : after.referenceUtcSeconds = before.referenceUtcSeconds
  leap : after.leapIndicator = before.leapIndicator
  served : ∀ lock monotonicUs,
    getNtpTimestamp after lock monotonicUs = getNtpTimestamp before lock monotonicUs

structure Closed (after : ClockContext F) : Prop where
  invalid : after.solutionValid = false
  noTime : ∀ lock monotonicUs, getNtpTimestamp after lock monotonicUs = none
  noReference : ∀ lock monotonicUs, getReferenceTimestamp after lock monotonicUs = none

theorem closed_of_invalid {after : ClockContext F} (invalid : after.solutionValid = false) :
    Closed after :=
  ⟨invalid, getNtpTimestamp_invalid invalid, getReferenceTimestamp_invalid invalid⟩

/-- A rejected sample leaves the served time alone or closes the clock. -/
def ServedTimeKept (before after : ClockContext F) : Prop :=
  Closed after ∨ MappingKept before after

theorem mappingKept_rejectSample {clock : ClockContext F} (early : ¬LastChance clock) :
    MappingKept clock (rejectSample clock) := by
  rw [rejectSample_early early]
  exact ⟨rfl, rfl, rfl, rfl, rfl, rfl, rfl, rfl, fun _ _ => rfl⟩

theorem servedTimeKept_rejectSample (clock : ClockContext F) :
    ServedTimeKept clock (rejectSample clock) := by
  by_cases last : LastChance clock
  · exact Or.inl (closed_of_invalid (by rw [rejectSample_last last]))
  · exact Or.inr (mappingKept_rejectSample last)

theorem servedTimeKept_reanchored {clock : ClockContext F} {lock : Bool} {sample : TimingSample}
    (reanchored : Reanchored clock lock sample) :
    ServedTimeKept clock (rejectSample (reanchor clock sample)) ↔ LastChance clock := by
  obtain ⟨-, solution, later, -⟩ := reanchored
  by_cases last : LastChance clock
  · have last' : LastChance (reanchor clock sample) := last
    refine iff_of_true (Or.inl (closed_of_invalid ?_)) last
    rw [rejectSample_last last']
  · have early : ¬LastChance (reanchor clock sample) := last
    refine iff_of_false ?_ last
    rw [rejectSample_early early]
    rintro (closed | kept)
    · have valid : clock.solutionValid = false := closed.invalid
      rw [solution] at valid
      cases valid
    · have moved : sample.ppsCaptureUs = clock.lastSampleCaptureUs := kept.holdoverOrigin
      have := later.capture
      omega

/-- Of all the exits that refuse a sample, exactly re-anchoring without dropping the solution
moves the served time. -/
theorem rejected_sample_keeps_served_time_iff (config : Kconfig) (clock : ClockContext F)
    (lock : Bool) (sample : TimingSample)
    (rejected : (submitSample config clock lock sample).1 ≠ .ok) :
    ServedTimeKept clock (submitSample config clock lock sample).2 ↔
      (Reanchored clock lock sample → LastChance clock) := by
  cases submitted : submitSample config clock lock sample with
  | mk err after =>
      rw [submitted] at rejected
      cases submitSample_outcome config clock lock sample submitted with
      | acquired => exact absurd rfl rejected
      | accepted => exact absurd rfl rejected
      | reanchored reanchored =>
          rw [servedTimeKept_reanchored reanchored]
          exact ⟨fun last _ => last, fun last => last reanchored⟩
      | rejected _ _ other => exact iff_of_true (servedTimeKept_rejectSample clock) fun h => absurd h other
      | refused other =>
          exact iff_of_true (Or.inr ⟨rfl, rfl, rfl, rfl, rfl, rfl, rfl, rfl, fun _ _ => rfl⟩)
            fun reanchored => absurd reanchored.1.toCounted other

/-! ## A run that moves the served time with a rejected sample -/

def quickLock : Kconfig := { Kconfig.default with lockSamples := 3, lockSamples_range := by decide }

def edgeSample (captureUs : Nat) (utcSeconds : Int) : TimingSample :=
  ⟨captureUs, utcSeconds, 0, .noWarning⟩

def steadySamples : List ClockEvent :=
  [.submit 1000000 true (edgeSample 1000000 1700000000),
    .submit 2000000 true (edgeSample 2000000 1700000001),
    .submit 3000000 true (edgeSample 3000000 1700000002)]

def lockedSystem : ClockSystem ℚ where
  clock := {
    initialized := true
    solutionValid := true
    anchorCaptureUs := 3000000
    anchorUtcSeconds := 1700000002
    lastSampleCaptureUs := 3000000
    lastSampleUtcSeconds := 1700000002
    referenceTimestampValid := true
    referenceCaptureUs := 3000000
    referenceUtcSeconds := 1700000002
    lastPhaseErrorNs := 0
    frequencyPpm := 0
    acceptedSamples := 3
    rejectedSamples := 0
    consecutiveRejects := 0
    leapIndicator := .noWarning
    state := .synchronized }
  counterUs := 3000000
  results := [.ok, .ok, .ok]
  acceptedUs := some 3000000

theorem repeated_second_keeps_served_time :
    (submitSample quickLock lockedSystem.clock true (edgeSample 4000000 1700000002)).1 ≠ .ok ∧
      (ServedTimeKept lockedSystem.clock
          (submitSample quickLock lockedSystem.clock true (edgeSample 4000000 1700000002)).2 ↔
        (Reanchored lockedSystem.clock true (edgeSample 4000000 1700000002) →
          LastChance lockedSystem.clock)) := by
  have rejected :
      (submitSample quickLock lockedSystem.clock true (edgeSample 4000000 1700000002)).1 ≠ .ok := by
    decide +kernel
  exact ⟨rejected, rejected_sample_keeps_served_time_iff _ _ _ _ rejected⟩

theorem steadySamples_lock : FreeRun (clockStep quickLock) clockStart steadySamples.reverse lockedSystem :=
  execute_run (by decide +kernel)

theorem rejected_sample_moves_served_time : ¬∀ (config : Kconfig) (past : List ClockEvent)
    (s : ClockSystem ℚ), FreeRun (clockStep config) clockStart past s →
    ∀ lock sample, (submitSample config s.clock lock sample).1 ≠ .ok →
      ServedTimeKept s.clock (submitSample config s.clock lock sample).2 := by
  intro claim
  have kept := claim quickLock _ lockedSystem steadySamples_lock true
    (edgeSample 4000000 1700000004) (by decide +kernel)
  rcases kept with closed | kept
  · exact absurd closed.invalid (by decide +kernel)
  · exact absurd kept.holdoverOrigin (by decide +kernel)

end NtsTimeServer.Proof
