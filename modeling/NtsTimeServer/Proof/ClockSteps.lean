import NtsTimeServer.Model.ClockSystem

namespace NtsTimeServer.Proof
open Model

variable {F : Type} [Double F]

structure Counted (clock : ClockContext F) (lock : Bool) (sample : TimingSample) : Prop where
  initialized : clock.initialized = true
  capture : sample.ppsCaptureUs ≠ 0
  utc : 0 < sample.utcSeconds
  lock : lock = true

structure Admissible (clock : ClockContext F) (lock : Bool) (sample : TimingSample) : Prop
    extends Counted clock lock sample where
  quantization : |sample.timingQuantizationErrorNs| ≤ appClockMaxTimingQerrNs

structure Later (clock : ClockContext F) (sample : TimingSample) : Prop where
  capture : clock.lastSampleCaptureUs < sample.ppsCaptureUs
  utc : clock.lastSampleUtcSeconds < sample.utcSeconds

def Accepted (clock : ClockContext F) (lock : Bool) (sample : TimingSample) : Prop :=
  Admissible clock lock sample ∧ (clock.solutionValid = true → Later clock sample ∧
    |phaseErrorNs clock sample| ≤ appClockMaxAcceptableErrorNs)

/-- The sample takes the branch for an excessive phase error. -/
def Reanchored (clock : ClockContext F) (lock : Bool) (sample : TimingSample) : Prop :=
  Admissible clock lock sample ∧ clock.solutionValid = true ∧ Later clock sample ∧
    appClockMaxAcceptableErrorNs < |phaseErrorNs clock sample|

def LastChance (clock : ClockContext F) : Prop :=
  appClockMaxConsecutiveRejects ≤ u32 (clock.consecutiveRejects + 1)

section Decidable
variable (clock : ClockContext F) (lock : Bool) (sample : TimingSample)

omit [Double F] in
theorem counted_iff : Counted clock lock sample ↔
    clock.initialized = true ∧ sample.ppsCaptureUs ≠ 0 ∧ 0 < sample.utcSeconds ∧ lock = true :=
  ⟨fun h => ⟨h.initialized, h.capture, h.utc, h.lock⟩, fun ⟨h₁, h₂, h₃, h₄⟩ => ⟨h₁, h₂, h₃, h₄⟩⟩

omit [Double F] in
theorem admissible_iff : Admissible clock lock sample ↔
    (clock.initialized = true ∧ sample.ppsCaptureUs ≠ 0 ∧ 0 < sample.utcSeconds ∧ lock = true) ∧
      |sample.timingQuantizationErrorNs| ≤ appClockMaxTimingQerrNs :=
  ⟨fun h => ⟨(counted_iff _ _ _).mp h.toCounted, h.quantization⟩,
    fun ⟨counted, h⟩ => ⟨(counted_iff _ _ _).mpr counted, h⟩⟩

omit [Double F] in
theorem later_iff : Later clock sample ↔ clock.lastSampleCaptureUs < sample.ppsCaptureUs ∧
    clock.lastSampleUtcSeconds < sample.utcSeconds :=
  ⟨fun h => ⟨h.capture, h.utc⟩, fun h => ⟨h.1, h.2⟩⟩

instance : Decidable (Counted clock lock sample) :=
  decidable_of_iff' _ (counted_iff clock lock sample)

instance : Decidable (Admissible clock lock sample) :=
  decidable_of_iff' _ (admissible_iff clock lock sample)

instance : Decidable (Later clock sample) := decidable_of_iff' _ (later_iff clock sample)

instance : Decidable (Accepted clock lock sample) := inferInstanceAs (Decidable (_ ∧ (_ → _)))

instance : Decidable (Reanchored clock lock sample) := inferInstanceAs (Decidable (_ ∧ _))

instance : Decidable (LastChance clock) := inferInstanceAs (Decidable (_ ≤ _))

end Decidable

inductive SampleOutcome (config : Kconfig) (clock : ClockContext F) (lock : Bool)
    (sample : TimingSample) : EspErr → ClockContext F → Prop
  | acquired : Accepted clock lock sample → clock.solutionValid = false →
      SampleOutcome config clock lock sample .ok (acquireSolution clock sample)
  | accepted : Accepted clock lock sample → clock.solutionValid = true →
      SampleOutcome config clock lock sample .ok (acceptSample config clock sample)
  | reanchored : Reanchored clock lock sample →
      SampleOutcome config clock lock sample .invalidResponse (rejectSample (reanchor clock sample))
  | rejected {err : EspErr} : Counted clock lock sample → ¬Accepted clock lock sample →
      ¬Reanchored clock lock sample → err ≠ .ok →
      SampleOutcome config clock lock sample err (rejectSample clock)
  | refused {err : EspErr} : ¬Counted clock lock sample → err ≠ .ok →
      SampleOutcome config clock lock sample err clock

theorem not_accepted_of_not_admissible {clock : ClockContext F} {lock : Bool}
    {sample : TimingSample} (refusal : ¬Admissible clock lock sample) :
    ¬Accepted clock lock sample ∧ ¬Reanchored clock lock sample :=
  ⟨fun accepted => refusal accepted.1, fun reanchored => refusal reanchored.1⟩

theorem submitSample_outcome (config : Kconfig) (clock : ClockContext F) (lock : Bool)
    (sample : TimingSample) {err : EspErr} {after : ClockContext F}
    (submitted : submitSample config clock lock sample = (err, after)) :
    SampleOutcome config clock lock sample err after := by
  unfold submitSample at submitted
  split at submitted
  · rename_i invalid
    obtain ⟨rfl, rfl⟩ := Prod.mk.inj submitted
    refine .refused ?_ (by decide)
    rintro ⟨initialized, capture, utc, -⟩
    rcases invalid with h | h | h
    · exact h initialized
    · exact capture h
    · omega
  rename_i valid
  simp only [not_or, not_not, not_le] at valid
  obtain ⟨initialized, capture, utc⟩ := valid
  split at submitted
  · rename_i quantization
    obtain ⟨rfl, rfl⟩ := Prod.mk.inj submitted
    have refusal : ¬Admissible clock lock sample := fun a => absurd a.quantization (not_le.mpr quantization)
    obtain ⟨h₁, h₂⟩ := not_accepted_of_not_admissible refusal
    cases lock with
    | true => exact .rejected ⟨initialized, capture, utc, rfl⟩ h₁ h₂ (by decide)
    | false => exact .refused (fun counted => absurd counted.lock (by decide)) (by decide)
  rename_i quantization
  split at submitted
  · rename_i unlocked
    obtain ⟨rfl, rfl⟩ := Prod.mk.inj submitted
    exact .refused (fun counted => unlocked counted.lock) (by decide)
  rename_i locked
  have admissible : Admissible clock lock sample :=
    ⟨⟨initialized, capture, utc, by simpa using locked⟩, not_lt.mp quantization⟩
  split at submitted
  · rename_i invalid
    obtain ⟨rfl, rfl⟩ := Prod.mk.inj submitted
    exact .acquired ⟨admissible, fun h => absurd h invalid⟩ (by simpa using invalid)
  rename_i valid
  have solution : clock.solutionValid = true := by simpa using valid
  have stale (earlier : ¬Later clock sample) :
      ¬Accepted clock lock sample ∧ ¬Reanchored clock lock sample :=
    ⟨fun accepted => earlier (accepted.2 solution).1, fun reanchored => earlier reanchored.2.2.1⟩
  split at submitted
  · rename_i order
    obtain ⟨rfl, rfl⟩ := Prod.mk.inj submitted
    obtain ⟨h₁, h₂⟩ := stale fun later => by
      have := later.capture
      have := later.utc
      omega
    exact .rejected admissible.toCounted h₁ h₂ (by decide)
  rename_i order
  have later : Later clock sample := ⟨by omega, by omega⟩
  split at submitted
  · have := later.utc
    omega
  split at submitted
  · rename_i excessive
    obtain ⟨rfl, rfl⟩ := Prod.mk.inj submitted
    exact .reanchored ⟨admissible, solution, later, excessive⟩
  · rename_i close
    obtain ⟨rfl, rfl⟩ := Prod.mk.inj submitted
    exact .accepted ⟨admissible, fun _ => ⟨later, not_lt.mp close⟩⟩ solution

theorem rejectSample_last {clock : ClockContext F} (last : LastChance clock) :
    rejectSample clock = { clock with
      rejectedSamples := u32 (clock.rejectedSamples + 1)
      consecutiveRejects := u32 (clock.consecutiveRejects + 1)
      solutionValid := false
      state := .acquiring
      acceptedSamples := 0
      frequencyPpm := Double.ofInt 0 } :=
  if_pos last

theorem rejectSample_early {clock : ClockContext F} (early : ¬LastChance clock) :
    rejectSample clock = { clock with
      rejectedSamples := u32 (clock.rejectedSamples + 1)
      consecutiveRejects := u32 (clock.consecutiveRejects + 1) } :=
  if_neg early

theorem early_of_valid {clock : ClockContext F} (valid : (rejectSample clock).solutionValid = true) :
    ¬LastChance clock := by
  intro last
  rw [rejectSample_last last] at valid
  cases valid

/-! ## What the other steps can do -/

omit [Double F] in
theorem updateReferenceState_cases (clock : ClockContext F) (gnss : Option GnssStatus)
    (pps : Option PpsStatus) (lock : Bool) :
    updateReferenceState clock gnss pps lock = clock ∨
      clock.solutionValid = false ∧
        ∃ state, (state = .acquiring ∨ state = .unsynchronized) ∧
          updateReferenceState clock gnss pps lock = { clock with state := state } := by
  unfold updateReferenceState
  split
  · split
    · rename_i h
      exact Or.inr ⟨by simpa using h.1, .acquiring, Or.inl rfl, rfl⟩
    split
    · rename_i h
      exact Or.inr ⟨by simpa using h.1, .unsynchronized, Or.inr rfl, rfl⟩
    · exact Or.inl rfl
  · exact Or.inl rfl

omit [Double F] in
theorem enforceHoldoverPolicy_cases (config : Kconfig) (clock : ClockContext F) (lock : Bool)
    (monotonicUs : Option Nat) :
    enforceHoldoverPolicy config clock lock monotonicUs = clock ∨
      clock.state = .synchronized ∧
        enforceHoldoverPolicy config clock lock monotonicUs = { clock with state := .holdover } ∨
      enforceHoldoverPolicy config clock lock monotonicUs =
        { clock with solutionValid := false, state := .failClosed } := by
  unfold enforceHoldoverPolicy
  split
  · exact Or.inl rfl
  split
  · exact Or.inl rfl
  cases monotonicUs with
  | none => exact Or.inl rfl
  | some nowCaptureUs =>
      dsimp only
      split
      · exact Or.inr (Or.inr rfl)
      split
      · rename_i h
        exact Or.inr (Or.inl ⟨h.2, rfl⟩)
      · exact Or.inl rfl

theorem apply_submit (config : Kconfig) (s : ClockSystem F) (now : Nat) (lock : Bool)
    (sample : TimingSample) :
    ∃ err, SampleOutcome config s.clock lock sample err
        (s.apply config (.submit now lock sample)).clock ∧
      (s.apply config (.submit now lock sample)).results = err :: s.results ∧
      (s.apply config (.submit now lock sample)).acceptedUs =
        if err = .ok then some sample.ppsCaptureUs else s.acceptedUs :=
  ⟨_, submitSample_outcome config s.clock lock sample rfl, rfl, rfl⟩

theorem clockStep_counterUs {config : Kconfig} {s t : ClockSystem F} {event : ClockEvent}
    (taken : clockStep config s event = some t) :
    t.counterUs = event.now ∧ s.counterUs ≤ t.counterUs := by
  obtain ⟨later, rfl⟩ := clockStep_eq_some.mp taken
  cases event <;> exact ⟨rfl, later⟩

end NtsTimeServer.Proof
