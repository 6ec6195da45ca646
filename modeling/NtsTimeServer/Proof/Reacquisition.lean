import NtsTimeServer.Model.NtpServer
import NtsTimeServer.Proof.Lock

namespace NtsTimeServer.Proof
open Model Lib

variable {F : Type} [Double F] {config : Kconfig}

structure NoService (clock : ClockContext F) : Prop where
  noTime : ∀ lock monotonicUs, getNtpTimestamp clock lock monotonicUs = none
  noReference : ∀ lock monotonicUs, getReferenceTimestamp clock lock monotonicUs = none
  noQuality : ∀ lock monotonicUs gnss, getServerQuality ⟨clock, lock, monotonicUs⟩ gnss = none

theorem noService_of_unserved {clock : ClockContext F} (unserved : ¬Serving clock.state) :
    NoService clock := by
  have synchronized : clock.state ≠ .synchronized := fun h => unserved (Or.inl h)
  have holdover : clock.state ≠ .holdover := fun h => unserved (Or.inr h)
  have unserviceable : clock.serviceable = false := by
    simp [ClockContext.serviceable, synchronized, holdover]
  refine ⟨fun lock monotonicUs => ?_, fun lock monotonicUs => ?_, fun lock monotonicUs gnss => ?_⟩
  · simp [getNtpTimestamp, unserviceable]
  · simp [getReferenceTimestamp, unserviceable]
  · by_cases readable : clock.initialized = true ∧ lock = true
    · simp [getServerQuality, getStatus, readable, synchronized, holdover]
    · have unread : getStatus clock lock monotonicUs = none := by
        simp only [not_and, Bool.not_eq_true] at readable
        simpa [getStatus] using readable
      simp [getServerQuality, unread]

/-! ## What a clock that has lost its solution knows -/

structure Relearning (config : Kconfig) (accepted : Nat) (clock : ClockContext F) : Prop where
  counted : clock.solutionValid = true → clock.acceptedSamples ≤ accepted ∧ 1 ≤ accepted
  served : Serving clock.state → clock.solutionValid = true ∧ config.lockSamples ≤ accepted

omit [Double F] in
theorem Relearning.unsolved {accepted : Nat} {clock : ClockContext F}
    (invalid : clock.solutionValid = false) (unserved : ¬Serving clock.state) :
    Relearning config accepted clock :=
  ⟨fun valid => absurd valid (by simp [invalid]), fun serving => absurd serving unserved⟩

theorem relearning_rejectSample {accepted : Nat} {clock : ClockContext F}
    (relearning : Relearning config accepted clock) :
    Relearning config accepted (rejectSample clock) := by
  by_cases last : LastChance clock
  · rw [rejectSample_last last]
    exact Relearning.unsolved rfl (show ¬Serving .acquiring by decide)
  · rw [rejectSample_early last]
    exact ⟨relearning.counted, relearning.served⟩

theorem relearning_reanchor {accepted : Nat} {clock : ClockContext F} (sample : TimingSample)
    (relearning : Relearning config accepted clock) (valid : clock.solutionValid = true) :
    Relearning config accepted (reanchor clock sample) :=
  have one : 1 ≤ accepted := (relearning.counted valid).2
  ⟨fun _ => ⟨one, one⟩, relearning.served⟩

theorem relearning_acquireSolution (accepted : Nat) (clock : ClockContext F) (sample : TimingSample) :
    Relearning config (accepted + 1) (acquireSolution clock sample) :=
  ⟨fun _ => ⟨Nat.le_add_left 1 accepted, Nat.le_add_left 1 accepted⟩,
    fun serving => absurd serving (show ¬Serving .acquiring by decide)⟩

theorem relearning_acceptSample {accepted : Nat} {clock : ClockContext F} (sample : TimingSample)
    (relearning : Relearning config accepted clock) (valid : clock.solutionValid = true) :
    Relearning config (accepted + 1) (acceptSample config clock sample) := by
  let count := u32 (clock.acceptedSamples + 1)
  have few : count ≤ accepted + 1 :=
    (u32_le _).trans (Nat.succ_le_succ (relearning.counted valid).1)
  refine ⟨fun _ => ⟨few, Nat.le_add_left 1 accepted⟩, fun serving => ⟨valid, ?_⟩⟩
  by_cases locked : config.lockSamples ≤ count
  · exact locked.trans few
  · have state : (acceptSample config clock sample).state = .acquiring := if_neg locked
    rw [state] at serving
    exact absurd serving (by decide)

theorem relearning_submit {accepted : Nat} {clock after : ClockContext F} {lock : Bool}
    {sample : TimingSample} {err : EspErr} (relearning : Relearning config accepted clock)
    (outcome : SampleOutcome config clock lock sample err after) :
    Relearning config (if err = .ok then accepted + 1 else accepted) after := by
  cases outcome with
  | acquired => exact relearning_acquireSolution accepted clock sample
  | accepted _ valid => exact relearning_acceptSample sample relearning valid
  | reanchored reanchored =>
      exact relearning_rejectSample (relearning_reanchor sample relearning reanchored.2.1)
  | rejected _ _ _ failed =>
      rw [if_neg failed]
      exact relearning_rejectSample relearning
  | refused _ failed =>
      rw [if_neg failed]
      exact relearning

theorem relearning_step {accepted before : Nat} {s t : ClockSystem F} {event : ClockEvent}
    (counted : s.results.count .ok = before + accepted)
    (relearning : Relearning config accepted s.clock) (taken : clockStep config s event = some t) :
    ∃ accepted, t.results.count .ok = before + accepted ∧ Relearning config accepted t.clock := by
  obtain ⟨-, rfl⟩ := clockStep_eq_some.mp taken
  cases event with
  | submit now lock sample =>
      obtain ⟨err, outcome, results, -⟩ := apply_submit config s now lock sample
      refine ⟨_, ?_, relearning_submit relearning outcome⟩
      rw [results]
      by_cases success : err = .ok
      · rw [if_pos success, success, List.count_cons_self, counted, Nat.add_assoc]
      · rw [if_neg success, List.count_cons_of_ne success, counted]
  | updateReference now gnss pps lock =>
      refine ⟨accepted, counted, ?_⟩
      change Relearning config _ (updateReferenceState s.clock gnss pps lock)
      rcases updateReferenceState_cases s.clock gnss pps lock with h | ⟨invalid, state, other, h⟩
      · rw [h]
        exact relearning
      · rw [h]
        exact Relearning.unsolved invalid (not_serving_unsolved other)
  | enforce now lock read =>
      let read' := if read then some now else none
      refine ⟨accepted, counted, ?_⟩
      change Relearning config _ (enforceHoldoverPolicy config s.clock lock read')
      rcases enforceHoldoverPolicy_cases config s.clock lock read' with h | ⟨synchronized, h⟩ | h
      · rw [h]
        exact relearning
      · rw [h]
        exact ⟨relearning.counted, fun _ => relearning.served (Or.inl synchronized)⟩
      · rw [h]
        exact Relearning.unsolved rfl (show ¬Serving .failClosed by decide)
  | wait now => exact ⟨accepted, counted, relearning⟩

theorem relearning_of_run {later : List ClockEvent} {s t : ClockSystem F}
    (run : FreeRun (clockStep config) s later t) (relearning : Relearning config 0 s.clock) :
    ∃ accepted, t.results.count .ok = s.results.count .ok + accepted ∧
      Relearning config accepted t.clock := by
  refine run.invariant (fun _ t => ∃ accepted, t.results.count .ok = s.results.count .ok + accepted ∧
    Relearning config accepted t.clock) ⟨0, rfl, relearning⟩ ?_
  intro _ _ _ _ ⟨_, counted, relearning⟩ _ taken
  exact relearning_step counted relearning taken

theorem unserved_of_invalid {past : List ClockEvent} {s : ClockSystem F}
    (run : FreeRun (clockStep config) clockStart past s) (invalid : s.clock.solutionValid = false) :
    ¬Serving s.clock.state := by
  obtain ⟨accepted, -, relearning⟩ := relearning_of_run run
    (Relearning.unsolved rfl (show ¬Serving .unsynchronized by decide))
  intro serving
  have valid := (relearning.served serving).1
  rw [invalid] at valid
  cases valid

theorem no_service_until_lock {past later : List ClockEvent} {s t : ClockSystem F}
    (reached : FreeRun (clockStep config) clockStart past s) (invalid : s.clock.solutionValid = false)
    (run : FreeRun (clockStep config) s later t)
    (few : t.results.count .ok < s.results.count .ok + config.lockSamples) : NoService t.clock := by
  obtain ⟨accepted, counted, relearning⟩ :=
    relearning_of_run run (Relearning.unsolved invalid (unserved_of_invalid reached invalid))
  refine noService_of_unserved fun serving => ?_
  have enough := (relearning.served serving).2
  omega

def expiredSystem : ClockSystem ℚ :=
  { lockedSystem with
    clock := { lockedSystem.clock with solutionValid := false, state := .failClosed }
    counterUs := 4000000000 }

def jumpingSamples : List ClockEvent :=
  [.submit 4001000000 true (edgeSample 4001000000 1700004001),
    .submit 4002000000 true (edgeSample 4002000000 1700004006),
    .submit 4003000000 true (edgeSample 4003000000 1700004007)]

def jumpedSystem : ClockSystem ℚ where
  clock := { lockedSystem.clock with
    anchorCaptureUs := 4003000000
    anchorUtcSeconds := 1700004007
    lastSampleCaptureUs := 4003000000
    lastSampleUtcSeconds := 1700004007
    referenceCaptureUs := 4003000000
    referenceUtcSeconds := 1700004007
    acceptedSamples := 2
    rejectedSamples := 1
    state := .acquiring }
  counterUs := 4003000000
  results := [.ok, .invalidResponse, .ok, .ok, .ok, .ok]
  acceptedUs := some 4003000000

theorem jumpedSystem_serves_nothing : NoService jumpedSystem.clock :=
  have expired : FreeRun (clockStep quickLock) clockStart
      (steadySamples ++ [ClockEvent.enforce 4000000000 true true]).reverse expiredSystem :=
    execute_run (by decide +kernel)
  have jumped : FreeRun (clockStep quickLock) expiredSystem jumpingSamples.reverse jumpedSystem :=
    execute_run (by decide +kernel)
  no_service_until_lock expired rfl jumped (by decide)

end NtsTimeServer.Proof
