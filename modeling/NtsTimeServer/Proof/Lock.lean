import NtsTimeServer.Proof.ServedTime

namespace NtsTimeServer.Proof
open Model Lib

variable {F : Type} [Double F] {config : Kconfig}

structure LockConsecutive (config : Kconfig) (meets : ClockSystem F → ClockEvent → Prop)
    (s : ClockSystem F) : Prop where
  gained : ∀ event t, meets s event → clockStep config s event = some t →
    s.clock.serviceable = false → t.clock.state = .synchronized →
    t.results.take config.lockSamples = List.replicate config.lockSamples .ok
  held : s.clock.state = .synchronized ∨ s.clock.state = .holdover →
    s.clock.solutionValid = true ∧ config.lockSamples ≤ s.clock.acceptedSamples

/-- In an acquisition no sample is accepted after one that failed, and none re-anchors a served clock. -/
def AcquiresConsecutively (s : ClockSystem F) : ClockEvent → Prop
  | .submit _ lock sample => s.clock.solutionValid = true →
      if s.clock.serviceable = true then Reanchored s.clock lock sample → LastChance s.clock
      else Accepted s.clock lock sample → s.results.head? = some .ok
  | _ => True

instance (s : ClockSystem F) : (event : ClockEvent) → Decidable (AcquiresConsecutively s event)
  | .submit .. => inferInstanceAs (Decidable (_ → ite _ _ _))
  | .updateReference .. | .enforce .. | .wait .. => inferInstanceAs (Decidable True)

def Serving (state : ClockState) : Prop := state = .synchronized ∨ state = .holdover

instance (state : ClockState) : Decidable (Serving state) := inferInstanceAs (Decidable (_ ∨ _))

theorem not_serving_unsolved {state : ClockState} (other : state = .acquiring ∨ state = .unsynchronized) :
    ¬Serving state := by
  rcases other with rfl | rfl
  · decide
  · decide

def Leading (accepted : Nat) (results : List EspErr) : Prop :=
  ∃ earlier, results = List.replicate accepted .ok ++ earlier

def Succeeding (results : List EspErr) : Prop := results.head? = some .ok

theorem Leading.one {results : List EspErr} (succeeding : Succeeding results) : Leading 1 results := by
  obtain ⟨rest, rfl⟩ := List.head?_eq_some_iff.mp succeeding
  exact ⟨rest, rfl⟩

theorem Leading.zero (results : List EspErr) : Leading 0 results := ⟨results, rfl⟩

theorem Leading.succ {accepted : Nat} {results : List EspErr} (leading : Leading accepted results) :
    Leading (accepted + 1) (.ok :: results) := by
  obtain ⟨earlier, rfl⟩ := leading
  exact ⟨earlier, rfl⟩

theorem Leading.take {accepted count : Nat} {results : List EspErr}
    (leading : Leading accepted results) (le : count ≤ accepted) :
    results.take count = List.replicate count .ok := by
  obtain ⟨earlier, rfl⟩ := leading
  rw [List.take_append_of_le_length (by simpa using le), List.take_replicate, min_eq_left le]

theorem Leading.u32 {accepted : Nat} {results : List EspErr} (leading : Leading accepted results) :
    Leading (u32 accepted) results := by
  obtain ⟨earlier, rfl⟩ := leading
  obtain ⟨lost, eq⟩ := Nat.exists_eq_add_of_le (u32_le accepted)
  refine ⟨List.replicate lost .ok ++ earlier, ?_⟩
  rw [← List.append_assoc, List.replicate_append_replicate, ← eq]

structure LockCounted (config : Kconfig) (clock : ClockContext F) (results : List EspErr) : Prop where
  fits : clock.acceptedSamples < 2 ^ 32
  served : Serving clock.state →
    clock.solutionValid = true ∧ config.lockSamples ≤ clock.acceptedSamples
  solved : clock.solutionValid = true →
    Serving clock.state ∨
      clock.state = .acquiring ∧ (Succeeding results → Leading clock.acceptedSamples results)

omit [Double F] in
theorem serviceable_iff {clock : ClockContext F} :
    clock.serviceable = true ↔ clock.solutionValid = true ∧ Serving clock.state := by
  simp [ClockContext.serviceable, Serving]

omit [Double F] in
theorem LockCounted.unsolved {clock : ClockContext F} {results : List EspErr}
    (fits : clock.acceptedSamples < 2 ^ 32) (invalid : clock.solutionValid = false)
    (unserved : ¬Serving clock.state) : LockCounted config clock results :=
  ⟨fits, fun serving => absurd serving unserved, fun valid => by rw [invalid] at valid; cases valid⟩

omit [Double F] in
theorem LockCounted.fail {clock : ClockContext F} {results : List EspErr} {err : EspErr}
    (counted : LockCounted config clock results) (failed : err ≠ .ok) :
    LockCounted config clock (err :: results) := by
  refine ⟨counted.fits, counted.served, fun valid => ?_⟩
  rcases counted.solved valid with serving | ⟨acquiring, -⟩
  · exact Or.inl serving
  · exact Or.inr ⟨acquiring, fun succeeding => absurd (Option.some.inj succeeding) failed⟩

theorem lockCounted_acquireSolution (clock : ClockContext F) (sample : TimingSample)
    (results : List EspErr) : LockCounted config (acquireSolution clock sample) (.ok :: results) where
  fits := show 1 < 2 ^ 32 by decide
  served serving := absurd serving (show ¬Serving .acquiring by decide)
  solved _ := Or.inr ⟨rfl, fun _ => (Leading.zero results).succ⟩

theorem lockCounted_acceptSample {clock : ClockContext F} {results : List EspErr}
    (counted : LockCounted config clock results) (valid : clock.solutionValid = true)
    (follows : ¬Serving clock.state → Succeeding results) (sample : TimingSample) :
    LockCounted config (acceptSample config clock sample) (.ok :: results) := by
  let count := u32 (clock.acceptedSamples + 1)
  have fits : count < 2 ^ 32 := Nat.mod_lt _ (by decide)
  by_cases locked : config.lockSamples ≤ count
  · have state : (acceptSample config clock sample).state = .synchronized := if_pos locked
    exact ⟨fits, fun _ => ⟨valid, locked⟩, fun _ => Or.inl (Or.inl state)⟩
  · have state : (acceptSample config clock sample).state = .acquiring := if_neg locked
    have unserved : ¬Serving (acceptSample config clock sample).state := by
      rw [state]
      decide
    refine ⟨fits, fun serving => absurd serving unserved, fun _ => Or.inr ⟨state, fun _ => ?_⟩⟩
    change Leading count (.ok :: results)
    rcases counted.solved valid with serving | ⟨acquiring, leading⟩
    · have enough := (counted.served serving).2
      have := counted.fits
      have wrapped : count = 0 := by
        simp only [count, Model.u32] at locked ⊢
        omega
      rw [wrapped]
      exact Leading.zero _
    · exact (leading (follows (not_serving_unsolved (Or.inl acquiring)))).succ.u32

theorem lockCounted_lastChance {clock : ClockContext F} (last : LastChance clock)
    (newer : List EspErr) : LockCounted config (rejectSample clock) newer := by
  rw [rejectSample_last last]
  exact LockCounted.unsolved (show 0 < 2 ^ 32 by decide) rfl (show ¬Serving .acquiring by decide)

theorem lockCounted_rejectSample {clock : ClockContext F} {results : List EspErr} {err : EspErr}
    (counted : LockCounted config clock results) (failed : err ≠ .ok) :
    LockCounted config (rejectSample clock) (err :: results) := by
  by_cases last : LastChance clock
  · exact lockCounted_lastChance last _
  · rw [rejectSample_early last]
    exact ⟨counted.fits, counted.served, (counted.fail failed).solved⟩

theorem lockCounted_reanchor {clock : ClockContext F} {results : List EspErr}
    (counted : LockCounted config clock results) (unserved : ¬Serving clock.state)
    (sample : TimingSample) : LockCounted config (reanchor clock sample) results where
  fits := show 1 < 2 ^ 32 by decide
  served serving := absurd serving unserved
  solved valid := Or.inr ⟨((counted.solved valid).resolve_left unserved).1, Leading.one⟩

theorem AcquiresConsecutively.follows {s : ClockSystem F} {now : Nat} {lock : Bool}
    {sample : TimingSample} (kept : AcquiresConsecutively s (.submit now lock sample))
    (accepted : Accepted s.clock lock sample) (valid : s.clock.solutionValid = true)
    (unserved : ¬Serving s.clock.state) : Succeeding s.results := by
  have := kept valid
  rw [if_neg fun serviceable => unserved (serviceable_iff.mp serviceable).2] at this
  exact this accepted

theorem AcquiresConsecutively.lastChance {s : ClockSystem F} {now : Nat} {lock : Bool}
    {sample : TimingSample} (kept : AcquiresConsecutively s (.submit now lock sample))
    (reanchored : Reanchored s.clock lock sample) (serving : Serving s.clock.state) :
    LastChance s.clock := by
  have := kept reanchored.2.1
  rw [if_pos (serviceable_iff.mpr ⟨reanchored.2.1, serving⟩)] at this
  exact this reanchored

theorem lockCounted_step {s t : ClockSystem F} {event : ClockEvent}
    (counted : LockCounted config s.clock s.results) (kept : AcquiresConsecutively s event)
    (taken : clockStep config s event = some t) : LockCounted config t.clock t.results := by
  obtain ⟨-, rfl⟩ := clockStep_eq_some.mp taken
  cases event with
  | submit now lock sample =>
      obtain ⟨err, outcome, results, -⟩ := apply_submit config s now lock sample
      rw [results]
      generalize (s.apply config (.submit now lock sample)).clock = clock at outcome ⊢
      cases outcome with
      | acquired => exact lockCounted_acquireSolution _ _ _
      | accepted accepted valid =>
          exact lockCounted_acceptSample counted valid (kept.follows accepted valid) _
      | reanchored reanchored =>
          by_cases serving : Serving s.clock.state
          · have last : LastChance (reanchor s.clock sample) := kept.lastChance reanchored serving
            exact lockCounted_lastChance last _
          · exact lockCounted_rejectSample (lockCounted_reanchor counted serving sample) (by decide)
      | rejected _ _ _ failed => exact lockCounted_rejectSample counted failed
      | refused _ failed => exact counted.fail failed
  | updateReference now gnss pps lock =>
      change LockCounted config (updateReferenceState s.clock gnss pps lock) s.results
      rcases updateReferenceState_cases s.clock gnss pps lock with h | ⟨invalid, state, other, h⟩
      · rw [h]
        exact counted
      · rw [h]
        exact LockCounted.unsolved counted.fits invalid (not_serving_unsolved other)
  | enforce now lock read =>
      let read' := if read then some now else none
      change LockCounted config (enforceHoldoverPolicy config s.clock lock read') s.results
      rcases enforceHoldoverPolicy_cases config s.clock lock read' with h | ⟨synchronized, h⟩ | h
      · rw [h]
        exact counted
      · rw [h]
        exact ⟨counted.fits, fun _ => counted.served (Or.inl synchronized),
          fun _ => Or.inl (Or.inr rfl)⟩
      · rw [h]
        exact LockCounted.unsolved counted.fits rfl (show ¬Serving .failClosed by decide)
  | wait now => exact counted

theorem lockCounted {past : List ClockEvent} {s : ClockSystem F}
    (run : Run (clockStep config) AcquiresConsecutively clockStart past s) :
    LockCounted config s.clock s.results := by
  refine run.invariant (fun _ s => LockCounted config s.clock s.results) ?_ ?_
  · exact LockCounted.unsolved (show 0 < 2 ^ 32 by decide) rfl
      (show ¬Serving .unsynchronized by decide)
  · exact fun _ _ _ _ counted kept taken => lockCounted_step counted kept taken

/-! ## Gaining lock -/

theorem synchronized_step {s t : ClockSystem F} {event : ClockEvent}
    (kept : AcquiresConsecutively s event) (taken : clockStep config s event = some t)
    (gained : t.clock.state = .synchronized) :
    s.clock.state = .synchronized ∨ s.clock.solutionValid = true ∧
      (¬Serving s.clock.state → Succeeding s.results) ∧ ∃ sample,
        t.clock = acceptSample config s.clock sample ∧ t.results = .ok :: s.results := by
  obtain ⟨-, rfl⟩ := clockStep_eq_some.mp taken
  cases event with
  | submit now lock sample =>
      obtain ⟨err, outcome, results, -⟩ := apply_submit config s now lock sample
      rw [results]
      generalize (s.apply config (.submit now lock sample)).clock = clock at outcome gained ⊢
      cases outcome with
      | acquired => cases gained
      | accepted accepted valid =>
          exact Or.inr ⟨valid, kept.follows accepted valid, sample, rfl, rfl⟩
      | reanchored reanchored =>
          by_cases last : LastChance (reanchor s.clock sample)
          · rw [rejectSample_last last] at gained
            cases gained
          · rw [rejectSample_early last] at gained
            exact Or.inl gained
      | rejected =>
          by_cases last : LastChance s.clock
          · rw [rejectSample_last last] at gained
            cases gained
          · rw [rejectSample_early last] at gained
            exact Or.inl gained
      | refused => exact Or.inl gained
  | updateReference now gnss pps lock =>
      change (updateReferenceState s.clock gnss pps lock).state = .synchronized at gained
      rcases updateReferenceState_cases s.clock gnss pps lock with h | ⟨-, state, other, h⟩
      · exact Or.inl (h ▸ gained)
      · rw [h] at gained
        rcases other with rfl | rfl <;> cases gained
  | enforce now lock read =>
      let read' := if read then some now else none
      change (enforceHoldoverPolicy config s.clock lock read').state = .synchronized at gained
      rcases enforceHoldoverPolicy_cases config s.clock lock read' with h | ⟨synchronized, -⟩ | h
      · exact Or.inl (h ▸ gained)
      · exact Or.inl synchronized
      · rw [h] at gained
        cases gained
  | wait now => exact Or.inl gained

/-- While no sample of an acquisition is accepted after a failed one and no re-anchoring leaves the
clock served, lock means consecutive accepted samples. -/
theorem lock_means_consecutive_samples {past : List ClockEvent} {s : ClockSystem F}
    (run : Run (clockStep config) AcquiresConsecutively clockStart past s) :
    LockConsecutive config AcquiresConsecutively s where
  held := (lockCounted run).served
  gained event t kept taken unserviceable gained := by
    have counted := lockCounted run
    have unserved : ¬(s.clock.solutionValid = true ∧ Serving s.clock.state) := by
      rw [← serviceable_iff, unserviceable]
      decide
    rcases synchronized_step kept taken gained with
      synchronized | ⟨valid, follows, sample, clock, results⟩
    · exact absurd ⟨(counted.served (Or.inl synchronized)).1, Or.inl synchronized⟩ unserved
    rcases counted.solved valid with serving | ⟨acquiring, leading⟩
    · exact absurd ⟨valid, serving⟩ unserved
    have enough := ((lockCounted (run.next kept taken)).served (Or.inl gained)).2
    rw [results]
    rw [clock] at enough
    exact (leading (follows (not_serving_unsolved (Or.inl acquiring)))).succ.u32.take enough

theorem steadySamples_consecutive : LockConsecutive quickLock AcquiresConsecutively lockedSystem :=
  have run : Run (clockStep quickLock) AcquiresConsecutively clockStart steadySamples.reverse
      lockedSystem := execute_run (by decide +kernel)
  lock_means_consecutive_samples run

def interruptedSamples : List ClockEvent :=
  [.submit 1000000 true (edgeSample 1000000 1700000000),
    .submit 2000000 true (edgeSample 2000000 1700000001),
    .submit 3000000 true (edgeSample 3000000 1700000001)]

def interruptedSystem : ClockSystem ℚ where
  clock := { lockedSystem.clock with
    anchorCaptureUs := 2000000
    anchorUtcSeconds := 1700000001
    lastSampleCaptureUs := 2000000
    lastSampleUtcSeconds := 1700000001
    referenceCaptureUs := 2000000
    referenceUtcSeconds := 1700000001
    acceptedSamples := 2
    rejectedSamples := 1
    consecutiveRejects := 1
    state := .acquiring }
  counterUs := 3000000
  results := [.invalidState, .ok, .ok]
  acceptedUs := some 2000000

theorem rejected_sample_counts_towards_lock : ¬∀ (config : Kconfig) (past : List ClockEvent)
    (s : ClockSystem ℚ), FreeRun (clockStep config) clockStart past s →
    LockConsecutive config (fun _ _ => True) s := by
  intro claim
  have run : FreeRun (clockStep quickLock) clockStart interruptedSamples.reverse interruptedSystem :=
    execute_run (by decide +kernel)
  let third : ClockEvent := .submit 4000000 true (edgeSample 4000000 1700000003)
  have taken : clockStep quickLock interruptedSystem third =
      some (interruptedSystem.apply quickLock third) := clockStep_eq_some.mpr ⟨by decide, rfl⟩
  have consecutive := (claim quickLock _ _ run).gained _ _ trivial taken (by decide +kernel)
    (by decide +kernel)
  exact absurd consecutive (by decide +kernel)

end NtsTimeServer.Proof
