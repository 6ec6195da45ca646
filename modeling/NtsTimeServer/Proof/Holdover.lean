import NtsTimeServer.Proof.ServedTime

namespace NtsTimeServer.Proof
open Model Lib

variable {F : Type} {config : Kconfig}

structure SameOrigin (before after : ClockContext F) : Prop where
  valid : before.solutionValid = true
  lastSample : after.lastSampleCaptureUs = before.lastSampleCaptureUs
  phaseError : after.lastPhaseErrorNs = before.lastPhaseErrorNs

theorem SameOrigin.trans {first second third : ClockContext F} (h₁ : SameOrigin first second)
    (h₂ : SameOrigin second third) : SameOrigin first third :=
  ⟨h₁.valid, h₂.lastSample.trans h₁.lastSample, h₂.phaseError.trans h₁.phaseError⟩

theorem calculateHoldoverSeconds_lt (clock : ClockContext F) (now : Nat) :
    calculateHoldoverSeconds clock now < 2 ^ 32 := by
  unfold calculateHoldoverSeconds
  split
  · decide
  · exact Nat.mod_lt _ (by decide)

theorem calculateHoldoverSeconds_eq {clock : ClockContext F} {now : Nat}
    (valid : clock.solutionValid = true) (fits : now < clock.lastSampleCaptureUs + 2 ^ 32 * 1000000) :
    calculateHoldoverSeconds clock now = (now - clock.lastSampleCaptureUs) / 1000000 := by
  unfold calculateHoldoverSeconds
  split
  · rename_i h
    have before : now < clock.lastSampleCaptureUs := h.resolve_left (not_not.mpr valid)
    rw [Nat.sub_eq_zero_of_le before.le, Nat.zero_div]
  · exact u32_eq (Nat.div_lt_of_lt_mul (by omega))

theorem calculateHoldoverSeconds_mono {before after : ClockContext F} {now later : Nat}
    (same : SameOrigin before after) (valid : after.solutionValid = true) (le : now ≤ later)
    (fits : later < before.lastSampleCaptureUs + 2 ^ 32 * 1000000) :
    calculateHoldoverSeconds before now ≤ calculateHoldoverSeconds after later := by
  rw [calculateHoldoverSeconds_eq same.valid (by omega),
    calculateHoldoverSeconds_eq valid (by rw [same.lastSample]; exact fits), same.lastSample]
  exact Nat.div_le_div_right (Nat.sub_le_sub_right le _)

theorem enforceHoldoverPolicy_valid {clock : ClockContext F} {now : Nat}
    (valid : (enforceHoldoverPolicy config clock true (some now)).solutionValid = true) :
    clock.solutionValid = true ∧ calculateHoldoverSeconds clock now ≤ config.holdoverMaxSeconds := by
  unfold enforceHoldoverPolicy at valid
  rw [if_neg (by simp)] at valid
  split at valid
  · contradiction
  rename_i solution
  refine ⟨by simpa using solution, ?_⟩
  by_contra long
  dsimp only at valid
  rw [if_pos (not_le.mp long)] at valid
  cases valid

variable [Double F]

def NoneAccepted (s t : ClockSystem F) : Prop :=
  ∃ refused, t.results = refused ++ s.results ∧ .ok ∉ refused

def ReportsNoLess (s t : ClockSystem F) : Prop :=
  ∀ before after, getStatus s.clock true (some s.counterUs) = some before →
    getStatus t.clock true (some t.counterUs) = some after →
    before.holdoverSeconds ≤ after.holdoverSeconds ∧
      before.rootDispersion1616 ≤ after.rootDispersion1616

structure HoldoverBounded (config : Kconfig) (meets : ClockSystem F → ClockEvent → Prop)
    (s : ClockSystem F) : Prop where
  closes : ∀ now t, meets s (.enforce now true true) →
    clockStep config s (.enforce now true true) = some t → t.clock.serviceable = true →
    ∃ accepted, t.acceptedUs = some accepted ∧
      now < accepted + (config.holdoverMaxSeconds + 1) * 1000000
  rises : ∀ later t, Run (clockStep config) meets s later t → NoneAccepted s t →
    t.clock.solutionValid = true → ReportsNoLess s t

/-- No re-anchoring without dropping the solution, and no solution that is 2^32 seconds old. -/
def OriginKept (s : ClockSystem F) (event : ClockEvent) : Prop :=
  (s.clock.solutionValid = true →
    event.now < s.clock.lastSampleCaptureUs + 2 ^ 32 * 1000000) ∧
  match event with
  | .submit _ lock sample => Reanchored s.clock lock sample → LastChance s.clock
  | _ => True

instance (s : ClockSystem F) : (event : ClockEvent) → Decidable (OriginKept s event)
  | .submit .. => inferInstanceAs (Decidable ((_ → _) ∧ (_ → _)))
  | .updateReference .. | .enforce .. | .wait .. => inferInstanceAs (Decidable ((_ → _) ∧ True))

/-! ## The holdover origin along a run -/

theorem sameOrigin_rejectSample {clock : ClockContext F}
    (valid : (rejectSample clock).solutionValid = true) : SameOrigin clock (rejectSample clock) := by
  have early := early_of_valid valid
  rw [rejectSample_early early] at valid ⊢
  exact ⟨valid, rfl, rfl⟩

theorem rejectSample_reanchor_invalid {clock : ClockContext F} {sample : TimingSample}
    (last : LastChance clock) : (rejectSample (reanchor clock sample)).solutionValid = false := by
  have last' : LastChance (reanchor clock sample) := last
  rw [rejectSample_last last']

theorem origin_step {s t : ClockSystem F} {event : ClockEvent} (kept : OriginKept s event)
    (taken : clockStep config s event = some t) (valid : t.clock.solutionValid = true) :
    t.results = .ok :: s.results ∧ t.acceptedUs = some t.clock.lastSampleCaptureUs ∨
      SameOrigin s.clock t.clock ∧ t.acceptedUs = s.acceptedUs ∧ NoneAccepted s t := by
  obtain ⟨-, rfl⟩ := clockStep_eq_some.mp taken
  have unsubmitted : NoneAccepted s { s with counterUs := event.now } := ⟨[], rfl, by simp⟩
  cases event with
  | submit now lock sample =>
      obtain ⟨err, outcome, results, acceptedUs⟩ := apply_submit config s now lock sample
      have refusal (bad : err ≠ .ok) : NoneAccepted s (s.apply config (.submit now lock sample)) :=
        ⟨[err], results, by simpa using bad.symm⟩
      rw [acceptedUs]
      generalize (s.apply config (.submit now lock sample)).clock = clock at outcome valid ⊢
      cases outcome with
      | acquired => exact Or.inl ⟨results, rfl⟩
      | accepted => exact Or.inl ⟨results, rfl⟩
      | reanchored reanchored =>
          have last := kept.2 reanchored
          rw [rejectSample_reanchor_invalid last] at valid
          cases valid
      | rejected _ _ _ bad =>
          exact Or.inr ⟨sameOrigin_rejectSample valid, if_neg bad, refusal bad⟩
      | refused _ bad => exact Or.inr ⟨⟨valid, rfl, rfl⟩, if_neg bad, refusal bad⟩
  | updateReference now gnss pps lock =>
      refine Or.inr ⟨?_, rfl, unsubmitted⟩
      change (updateReferenceState s.clock gnss pps lock).solutionValid = true at valid
      change SameOrigin s.clock (updateReferenceState s.clock gnss pps lock)
      rcases updateReferenceState_cases s.clock gnss pps lock with h | ⟨-, state, -, h⟩
      all_goals
        rw [h] at valid ⊢
        exact ⟨valid, rfl, rfl⟩
  | enforce now lock read =>
      refine Or.inr ⟨?_, rfl, unsubmitted⟩
      let read' := if read then some now else none
      change (enforceHoldoverPolicy config s.clock lock read').solutionValid = true at valid
      change SameOrigin s.clock (enforceHoldoverPolicy config s.clock lock read')
      rcases enforceHoldoverPolicy_cases config s.clock lock read' with h | ⟨-, h⟩ | h
      · rw [h] at valid ⊢
        exact ⟨valid, rfl, rfl⟩
      · rw [h] at valid ⊢
        exact ⟨valid, rfl, rfl⟩
      · rw [h] at valid
        cases valid
  | wait now => exact Or.inr ⟨⟨valid, rfl, rfl⟩, rfl, unsubmitted⟩

def OriginAccepted (s : ClockSystem F) : Prop :=
  s.clock.solutionValid = true → s.acceptedUs = some s.clock.lastSampleCaptureUs

theorem originAccepted {past : List ClockEvent} {s : ClockSystem F}
    (run : Run (clockStep config) OriginKept clockStart past s) : OriginAccepted s := by
  refine run.invariant (fun _ s => OriginAccepted s) (fun valid => by cases valid) ?_
  intro _ s event t origin kept taken valid
  rcases origin_step kept taken valid with ⟨-, accepted⟩ | ⟨same, accepted, -⟩
  · exact accepted
  · rw [accepted, same.lastSample]
    exact origin same.valid

/-! ## The dispersion -/

theorem wander_exact [ExactIntegers F] {holdoverSeconds : Nat} (fits : holdoverSeconds < 2 ^ 32) :
    appClockHoldoverWanderPpm * Double.ofInt 1000 * Double.ofInt holdoverSeconds =
      (Double.ofInt (20000 * holdoverSeconds) : F) := by
  have ppm : appClockHoldoverWanderPpm * Double.ofInt 1000 = (Double.ofInt 20000 : F) :=
    ExactIntegers.mul_exact 20 1000 (by decide) (by decide) (by decide)
  have magnitude : |(20000 * holdoverSeconds : Int)| ≤ 2 ^ 53 := by
    rw [abs_of_nonneg (by positivity)]
    omega
  rw [ppm]
  exact ExactIntegers.mul_exact 20000 holdoverSeconds (by decide)
    (by rw [abs_of_nonneg (by positivity)]; omega) magnitude

theorem calculateDispersion1616_eq [ExactIntegers F] (clock : ClockContext F)
    {holdoverSeconds : Nat} (fits : holdoverSeconds < 2 ^ 32) :
    calculateDispersion1616 clock holdoverSeconds =
      min ((min (appClockBaseDispersionNs + |clock.lastPhaseErrorNs| + 20000 * holdoverSeconds)
        appClockMaxHoldoverDispersionNs).toNat * 65536 / 1000000000) (2 ^ 32 - 1) := by
  have magnitude : |(20000 * holdoverSeconds : Int)| ≤ 2 ^ 53 := by
    rw [abs_of_nonneg (by positivity)]
    omega
  have positive : (Double.ofInt 0 : F) < Double.ofInt (20000 * holdoverSeconds) ↔
      (0 : Int) < 20000 * holdoverSeconds := ExactIntegers.lt_exact _ _ (by decide) magnitude
  have wander : (if (Double.ofInt 0 : F) < Double.ofInt (20000 * holdoverSeconds)
      then appClockBaseDispersionNs + |clock.lastPhaseErrorNs| +
        Double.truncate (Double.ofInt (20000 * holdoverSeconds) : F)
      else appClockBaseDispersionNs + |clock.lastPhaseErrorNs|) =
      appClockBaseDispersionNs + |clock.lastPhaseErrorNs| + 20000 * holdoverSeconds := by
    rw [ExactIntegers.truncate_exact _ magnitude]
    split
    · rfl
    · rename_i h
      have := mt positive.mpr h
      omega
  unfold calculateDispersion1616
  simp only [wander_exact fits, wander]
  split <;> split <;> omega

theorem calculateDispersion1616_mono [ExactIntegers F] {before after : ClockContext F} {h h' : Nat}
    (same : after.lastPhaseErrorNs = before.lastPhaseErrorNs) (le : h ≤ h') (fits : h' < 2 ^ 32) :
    calculateDispersion1616 before h ≤ calculateDispersion1616 after h' := by
  rw [calculateDispersion1616_eq before (by omega), calculateDispersion1616_eq after fits, same]
  apply min_le_min_right
  apply Nat.div_le_div_right
  apply Nat.mul_le_mul_right
  apply Int.toNat_le_toNat
  apply min_le_min_right
  omega

theorem getStatus_reports {clock : ClockContext F} {now : Nat} {status : ClockStatus F}
    (read : getStatus clock true (some now) = some status) :
    status.holdoverSeconds = calculateHoldoverSeconds clock now ∧
      status.rootDispersion1616 =
        calculateDispersion1616 clock (calculateHoldoverSeconds clock now) := by
  unfold getStatus at read
  split at read
  · cases read
  · obtain rfl := Option.some.inj read
    exact ⟨rfl, rfl⟩

theorem getStatus_initialized {clock : ClockContext F} (initialized : clock.initialized = true)
    (now : Nat) : ∃ status, getStatus clock true (some now) = some status := by
  simp [getStatus, initialized]

structure Aged (s t : ClockSystem F) : Prop where
  origin : SameOrigin s.clock t.clock
  holdover : calculateHoldoverSeconds s.clock s.counterUs ≤
    calculateHoldoverSeconds t.clock t.counterUs

theorem aged {later : List ClockEvent} {s t : ClockSystem F}
    (run : Run (clockStep config) OriginKept s later t) (valid : t.clock.solutionValid = true)
    (unaccepted : NoneAccepted s t) : Aged s t := by
  have sinceStart : s.counterUs ≤ t.counterUs ∧ ∃ newer, t.results = newer ++ s.results ∧
      (.ok ∉ newer → t.clock.solutionValid = true → Aged s t) := by
    refine run.invariant (fun _ t => s.counterUs ≤ t.counterUs ∧ ∃ newer,
      t.results = newer ++ s.results ∧ (.ok ∉ newer → t.clock.solutionValid = true → Aged s t)) ?_ ?_
    · exact ⟨le_rfl, [], rfl, fun _ valid => ⟨⟨valid, rfl, rfl⟩, le_rfl⟩⟩
    · rintro _ t event u ⟨le, newer, results, ih⟩ kept taken
      obtain ⟨time, later⟩ := clockStep_counterUs taken
      refine ⟨le.trans later, ?_⟩
      by_cases valid : u.clock.solutionValid = true
      · rcases origin_step kept taken valid with ⟨accepted, -⟩ | ⟨same, -, refused, rejected, bad⟩
        · exact ⟨.ok :: newer, by rw [accepted, results]; rfl, fun h => absurd (by simp) h⟩
        · refine ⟨refused ++ newer, by rw [rejected, results, List.append_assoc], fun none _ => ?_⟩
          have earlier := ih (fun h => none (List.mem_append_right _ h)) same.valid
          have fits := kept.1 same.valid
          rw [← time] at fits
          exact ⟨earlier.origin.trans same, earlier.holdover.trans
            (calculateHoldoverSeconds_mono same valid later fits)⟩
      · obtain ⟨more, eq⟩ : ∃ more, u.results = more ++ t.results := by
          obtain ⟨-, rfl⟩ := clockStep_eq_some.mp taken
          cases event with
          | submit now lock sample => exact ⟨[_], rfl⟩
          | updateReference => exact ⟨[], rfl⟩
          | enforce => exact ⟨[], rfl⟩
          | wait => exact ⟨[], rfl⟩
        exact ⟨more ++ newer, by rw [eq, results, List.append_assoc], fun _ h => absurd h valid⟩
  obtain ⟨-, newer, results, conclusion⟩ := sinceStart
  obtain ⟨refused, eq, bad⟩ := unaccepted
  have : newer = refused := List.append_cancel_right (results.symm.trans eq)
  exact conclusion (this ▸ bad) valid

theorem enforce_closes {s : ClockSystem F} {now : Nat} (accepted : OriginAccepted s)
    (kept : OriginKept s (.enforce now true true)) {t : ClockSystem F}
    (taken : clockStep config s (.enforce now true true) = some t)
    (serviceable : t.clock.serviceable = true) :
    ∃ a, t.acceptedUs = some a ∧ now < a + (config.holdoverMaxSeconds + 1) * 1000000 := by
  obtain ⟨-, rfl⟩ := clockStep_eq_some.mp taken
  obtain ⟨valid, -⟩ := Bool.and_eq_true_iff.mp serviceable
  obtain ⟨solution, short⟩ := enforceHoldoverPolicy_valid valid
  have fits : now < s.clock.lastSampleCaptureUs + 2 ^ 32 * 1000000 := kept.1 solution
  rw [calculateHoldoverSeconds_eq solution fits] at short
  have within : now < s.clock.lastSampleCaptureUs + (config.holdoverMaxSeconds + 1) * 1000000 := by
    clear fits
    omega
  exact ⟨s.clock.lastSampleCaptureUs, accepted solution, within⟩

/-- While no sample re-anchors a clock that keeps its solution, holdover is bounded by the accepted
samples and the reports grow between them. -/
theorem holdover_bounded_by_accepted_samples [ExactIntegers F] {past : List ClockEvent}
    {s : ClockSystem F} (run : Run (clockStep config) OriginKept clockStart past s) :
    HoldoverBounded config OriginKept s where
  closes _ _ kept taken serviceable := enforce_closes (originAccepted run) kept taken serviceable
  rises later t continued unaccepted valid := by
    intro before after readBefore readAfter
    obtain ⟨holdover, dispersion⟩ := getStatus_reports readBefore
    obtain ⟨holdover', dispersion'⟩ := getStatus_reports readAfter
    have aged := aged continued valid unaccepted
    rw [holdover, holdover', dispersion, dispersion']
    exact ⟨aged.holdover, calculateDispersion1616_mono aged.origin.phaseError aged.holdover
      (calculateHoldoverSeconds_lt _ _)⟩

theorem steadySamples_holdover : HoldoverBounded quickLock OriginKept lockedSystem :=
  have run : Run (clockStep quickLock) OriginKept clockStart steadySamples.reverse lockedSystem :=
    execute_run (by decide +kernel)
  holdover_bounded_by_accepted_samples run

theorem rejected_sample_restarts_holdover : ¬∀ (config : Kconfig) (past : List ClockEvent)
    (s : ClockSystem ℚ), FreeRun (clockStep config) clockStart past s →
    HoldoverBounded config (fun _ _ => True) s := by
  intro claim
  let inHoldover := lockedSystem.apply quickLock (.enforce 5000000 true true)
  let sample := edgeSample 6000000 1700000012
  let moved := inHoldover.apply quickLock (.submit 6000000 true sample)
  have run : FreeRun (clockStep quickLock) clockStart _ inHoldover :=
    .next steadySamples_lock trivial (clockStep_eq_some.mpr ⟨by decide, rfl⟩)
  have continued : FreeRun (clockStep quickLock) inHoldover [.submit 6000000 true sample] moved :=
    .next .start trivial (clockStep_eq_some.mpr ⟨by decide, rfl⟩)
  have unaccepted : NoneAccepted inHoldover moved := ⟨[.invalidResponse], by decide +kernel, by decide⟩
  have rises := (claim quickLock _ inHoldover run).rises _ moved continued unaccepted (by decide +kernel)
  have fell : ¬calculateHoldoverSeconds inHoldover.clock 5000000 ≤
      calculateHoldoverSeconds moved.clock 6000000 := by decide +kernel
  obtain ⟨before, readBefore⟩ := getStatus_initialized (show inHoldover.clock.initialized = true from rfl) 5000000
  obtain ⟨after, readAfter⟩ :=
    getStatus_initialized (show moved.clock.initialized = true by decide +kernel) 6000000
  have shorter := (rises before after readBefore readAfter).1
  rw [(getStatus_reports readBefore).1, (getStatus_reports readAfter).1] at shorter
  exact fell shorter

end NtsTimeServer.Proof
