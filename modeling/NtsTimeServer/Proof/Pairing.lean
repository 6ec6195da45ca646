import NtsTimeServer.Model.Monitor
import NtsTimeServer.Proof.ServedTime

namespace NtsTimeServer.Proof
open Model Lib

variable {F : Type} [Double F] {config : Kconfig} {receiver : Receiver}

def AnchorTrue (receiver : Receiver) (clock : ClockContext F) : Prop :=
  ∃ edge, clock.anchorCaptureUs = receiver.captureUs edge ∧
    clock.anchorUtcSeconds = receiver.utcSeconds edge

/-- What the receiver promises: a record converts to the UTC second of its own edge. -/
def NamesOwnEdge (receiver : Receiver) (s : MonitorSystem F) : MonitorEvent → Prop
  | .poll .. => ∀ record ∈ s.received, ∀ utc ∈ timTpToUtc s.gnss.status,
      utc = receiver.utcSeconds record
  | _ => True

/-- The record received last is that of the edge, or it is too old for a sample, or the sample accepted last is
its own. -/
def LastRecordFits (receiver : Receiver) (s : MonitorSystem F) (captureUs now : Nat) : Prop :=
  ∀ record ∈ s.received, receiver.captureUs record = captureUs ∨
    clockTimTpMaxAgeUs < s.gnss.timTpAgeUs now ∨
    s.lastTimTp = some ((receiver.timTp record).week, (receiver.timTp record).towMs)

/-- When a poll begins, the last record fits its edge; until its deadline no record of another edge is
received. -/
def RecordsInTime (receiver : Receiver) (s : MonitorSystem F) : MonitorEvent → Prop
  | .waitForCapture now read =>
      match (s.waitForCapture now read).task with
      | .polling captureUs _ => LastRecordFits receiver s captureUs now
      | _ => True
  | .receive now =>
      match s.task with
      | .polling captureUs deadlineUs =>
          now < deadlineUs → ∀ record ∈ s.uart.head?, receiver.captureUs record = captureUs
      | _ => True
  | _ => True

instance (s : MonitorSystem F) : (event : MonitorEvent) →
    Decidable (NamesOwnEdge receiver s event) := fun event => by
  unfold NamesOwnEdge
  split <;> infer_instance

instance (s : MonitorSystem F) (captureUs now : Nat) : Decidable (LastRecordFits receiver s captureUs now) :=
  inferInstanceAs (Decidable (∀ record ∈ s.received, _))

instance (s : MonitorSystem F) : (event : MonitorEvent) →
    Decidable (RecordsInTime receiver s event) := fun event => by
  unfold RecordsInTime
  split
  · split <;> infer_instance
  · split <;> infer_instance
  · infer_instance

structure SampleOf (lastTimTp : Option (Nat × Nat)) (status : GnssStatus) (utcSeconds : Int) : Prop where
  valid : status.timingPulseValid = true
  recent : status.timingPulseAgeUs ≤ clockTimTpMaxAgeUs
  new : lastTimTp ≠ some (status.timingWeek, status.timingTowMs)
  utc : timTpToUtc status = some utcSeconds

theorem pollGnssSample_sampleOf {lastTimTp : Option (Nat × Nat)} {status : GnssStatus}
    {sample : ClockGnssSample} (found : pollGnssSample lastTimTp status = .sample sample) :
    SampleOf lastTimTp status sample.utcSeconds := by
  unfold pollGnssSample at found
  split at found
  next => cases found
  next ready =>
    simp only [timTpIsNew, not_or, not_not, not_lt, Bool.and_eq_true, decide_eq_true_eq] at ready
    obtain ⟨-, -, -, -, -, valid, -, recent, -, new⟩ := ready
    split at found
    next => cases found
    next utc converted =>
      dsimp only at found
      split at found
      next => cases found
      next =>
        obtain rfl := GnssPoll.sample.inj found
        exact ⟨valid, recent, new, converted⟩

theorem timTpAgeUs_mono (gnss : GnssService) {now later : Nat} (le : now ≤ later) :
    gnss.timTpAgeUs now ≤ gnss.timTpAgeUs later := by
  unfold GnssService.timTpAgeUs
  split
  next => exact max_le_max_left 0 (by omega)
  next => exact le_rfl

theorem gnssUpdateStaleness_age (gnss : GnssService) (seenUs now : Nat)
    (valid : (gnssUpdateStaleness gnss seenUs).status.timingPulseValid = true) :
    (gnssUpdateStaleness gnss seenUs).timTpAgeUs now = gnss.timTpAgeUs now := by
  have before : gnss.status.timingPulseValid = true := by
    simp only [gnssUpdateStaleness, Bool.and_eq_true] at valid
    exact valid.1
  unfold GnssService.timTpAgeUs
  rw [valid, before]
  by_cases heard : gnss.lastTimTpRxUs > 0
  · simp [gnssUpdateStaleness, heard]
  · simp [gnssUpdateStaleness, heard, GnssService.timTpAgeUs]

/-! ## The anchor along a run -/

def Anchored (receiver : Receiver) (clock : ClockContext F) : Prop :=
  clock.solutionValid = true → AnchorTrue receiver clock

theorem anchored_rejectSample {clock : ClockContext F} (anchored : Anchored receiver clock) :
    Anchored receiver (rejectSample clock) := by
  by_cases last : LastChance clock
  · rw [rejectSample_last last]
    exact nofun
  · rw [rejectSample_early last]
    exact anchored

theorem anchored_submitSample {clock after : ClockContext F} {lock : Bool} {sample : TimingSample}
    {err : EspErr} {edge : Nat} (capture : sample.ppsCaptureUs = receiver.captureUs edge)
    (utc : sample.utcSeconds = receiver.utcSeconds edge)
    (submitted : submitSample config clock lock sample = (err, after))
    (anchored : Anchored receiver clock) : Anchored receiver after := by
  cases submitSample_outcome config clock lock sample submitted with
  | acquired => exact fun _ => ⟨edge, capture, utc⟩
  | accepted => exact fun _ => ⟨edge, capture, utc⟩
  | reanchored =>
      have moved : Anchored receiver (reanchor clock sample) := fun _ => ⟨edge, capture, utc⟩
      exact anchored_rejectSample moved
  | rejected => exact anchored_rejectSample anchored
  | refused => exact anchored

omit [Double F] in
theorem anchored_updateReferenceState {clock : ClockContext F} (anchored : Anchored receiver clock)
    (gnss : Option GnssStatus) (pps : Option PpsStatus) (lock : Bool) :
    Anchored receiver (updateReferenceState clock gnss pps lock) := by
  rcases updateReferenceState_cases clock gnss pps lock with h | ⟨-, state, -, h⟩
  · rw [h]
    exact anchored
  · rw [h]
    exact anchored

omit [Double F] in
theorem anchored_enforceHoldoverPolicy {clock : ClockContext F}
    (anchored : Anchored receiver clock) (lock : Bool) (monotonicUs : Option Nat) :
    Anchored receiver (enforceHoldoverPolicy config clock lock monotonicUs) := by
  rcases enforceHoldoverPolicy_cases config clock lock monotonicUs with h | ⟨-, h⟩ | h
  · rw [h]
    exact anchored
  · rw [h]
    exact anchored
  · rw [h]
    exact nofun

structure Paired (receiver : Receiver) (s : MonitorSystem F) : Prop where
  anchored : Anchored receiver s.clock
  unheard : s.received = none → s.gnss.status.timingPulseValid = false
  shown : ∀ record ∈ s.received, s.gnss.status.timingWeek = (receiver.timTp record).week ∧
    s.gnss.status.timingTowMs = (receiver.timTp record).towMs
  window : ∀ captureUs deadlineUs, s.task = .polling captureUs deadlineUs → s.nowUs < deadlineUs →
    s.gnss.status.timingPulseValid = true → LastRecordFits receiver s captureUs s.nowUs

omit [Double F] in
theorem LastRecordFits.later {s : MonitorSystem F} {captureUs now later : Nat} (le : now ≤ later)
    (fits : LastRecordFits receiver s captureUs now) : LastRecordFits receiver s captureUs later := by
  intro record received
  obtain own | old | accepted := fits record received
  · exact Or.inl own
  · exact Or.inr (Or.inl (old.trans_le (timTpAgeUs_mono s.gnss le)))
  · exact Or.inr (Or.inr accepted)

omit [Double F] in
theorem Paired.later {s : MonitorSystem F} (paired : Paired receiver s) {now : Nat} (le : s.nowUs ≤ now) :
    Paired receiver { s with nowUs := now } where
  anchored := paired.anchored
  unheard := paired.unheard
  shown := paired.shown
  window captureUs deadlineUs task inside valid :=
    LastRecordFits.later le (paired.window captureUs deadlineUs task (le.trans_lt inside) valid)

omit [Double F] in
/-- The checks for age and newness refuse every record that is not the edge's own. -/
theorem Paired.found {s : MonitorSystem F} (paired : Paired receiver s) {captureUs deadlineUs : Nat}
    (task : s.task = .polling captureUs deadlineUs) (inTime : s.nowUs < deadlineUs) {utcSeconds : Int}
    (sample : SampleOf s.lastTimTp (gnssGetStatus s.gnss s.nowUs) utcSeconds) :
    ∃ record ∈ s.received, receiver.captureUs record = captureUs := by
  cases received : s.received with
  | none =>
      have invalid := paired.unheard received
      rw [show s.gnss.status.timingPulseValid = true from sample.valid] at invalid
      cases invalid
  | some record =>
      refine ⟨record, rfl, ?_⟩
      obtain own | old | accepted := paired.window _ _ task inTime sample.valid record received
      · exact own
      · exact absurd old (not_lt.mpr sample.recent)
      · obtain ⟨week, towMs⟩ := paired.shown record received
        rw [← week, ← towMs] at accepted
        exact absurd accepted sample.new

omit [Double F] in
theorem Paired.staleness {s : MonitorSystem F} (paired : Paired receiver s) (now : Nat) :
    Paired receiver { s with gnss := gnssUpdateStaleness s.gnss now } where
  anchored := paired.anchored
  unheard unheard := by
    simp only [gnssUpdateStaleness, Bool.and_eq_false_iff]
    exact Or.inl (paired.unheard unheard)
  shown := paired.shown
  window captureUs deadlineUs task inside valid := by
    have before : s.gnss.status.timingPulseValid = true := by
      simp only [gnssUpdateStaleness, Bool.and_eq_true] at valid
      exact valid.1
    have fits := paired.window captureUs deadlineUs task inside before
    intro record received
    rw [gnssUpdateStaleness_age _ _ _ valid]
    exact fits record received

omit [Double F] in
theorem Paired.receive {s : MonitorSystem F} (paired : Paired receiver s) {record : Nat} {rest : List Nat}
    (uart : s.uart = record :: rest) (inTime : RecordsInTime receiver s (.receive s.nowUs)) :
    Paired receiver { s with
      uart := rest
      received := some record
      gnss := handleUbxTimTp s.gnss (receiver.timTp record) s.nowUs } where
  anchored := paired.anchored
  unheard unheard := absurd unheard (by simp)
  shown := by
    rintro _ ⟨⟩
    exact ⟨rfl, rfl⟩
  window captureUs deadlineUs task inside _ := by
    rintro _ ⟨⟩
    simp only [RecordsInTime, show s.task = .polling captureUs deadlineUs from task] at inTime
    refine Or.inl (inTime inside record ?_)
    rw [uart]
    rfl

omit [Double F] in
theorem Paired.wait {s : MonitorSystem F} (paired : Paired receiver s) {now : Nat} (le : s.nowUs ≤ now)
    {read : Bool} (inTime : RecordsInTime receiver s (.waitForCapture now read)) :
    Paired receiver (({ s with nowUs := now } : MonitorSystem F).waitForCapture now read) := by
  have frame : ∃ pps task, ∀ nowUs, ({ s with nowUs := nowUs } : MonitorSystem F).waitForCapture now read =
      { s with nowUs := nowUs, pps := pps, task := task } := by
    unfold MonitorSystem.waitForCapture
    dsimp only
    split
    next => exact ⟨_, _, fun _ => rfl⟩
    next => exact ⟨_, _, fun _ => rfl⟩
  obtain ⟨pps, task, waited⟩ := frame
  have same : s.waitForCapture now read = { s with pps := pps, task := task } := waited s.nowUs
  simp only [RecordsInTime, same] at inTime
  have later := paired.later le
  rw [waited]
  refine ⟨later.anchored, later.unheard, later.shown, fun captureUs deadlineUs polls _ _ => ?_⟩
  rw [show task = .polling captureUs deadlineUs from polls] at inTime
  exact inTime

theorem Paired.poll {s : MonitorSystem F} (paired : Paired receiver s) {captureUs deadlineUs : Nat}
    (task : s.task = .polling captureUs deadlineUs) {lock : Bool}
    (named : NamesOwnEdge receiver s (.poll s.nowUs lock)) :
    Paired receiver (s.poll config captureUs deadlineUs s.nowUs lock) := by
  have updating (clock : ClockContext F) (lastTimTp : Option (Nat × Nat)) (anchored : Anchored receiver clock) :
      Paired receiver { s with clock := clock, lastTimTp := lastTimTp, task := .updating } :=
    ⟨anchored, paired.unheard, paired.shown, fun _ _ polls => absurd polls (by simp)⟩
  unfold MonitorSystem.poll
  split
  next inTime =>
    cases polled : pollGnssSample s.lastTimTp (gnssGetStatus s.gnss s.nowUs) with
    | retry => exact paired
    | failed => exact updating s.clock s.lastTimTp paired.anchored
    | sample sample =>
        have found := pollGnssSample_sampleOf polled
        obtain ⟨record, received, capture⟩ := paired.found task inTime found
        have utc := named record received _ found.utc
        exact updating _ _ (anchored_submitSample capture.symm utc rfl paired.anchored)
  next => exact updating s.clock s.lastTimTp paired.anchored

theorem Paired.step {s t : MonitorSystem F} {event : MonitorEvent} (before : Paired receiver s)
    (named : NamesOwnEdge receiver s event) (inTime : RecordsInTime receiver s event)
    (taken : monitorStep config receiver s event = some t) : Paired receiver t := by
  unfold monitorStep at taken
  split at taken
  next le =>
    have paired := before.later le
    cases event with
    | edge =>
        obtain rfl := Option.some.inj taken
        exact ⟨paired.anchored, paired.unheard, paired.shown, paired.window⟩
    | flags =>
        obtain rfl := Option.some.inj taken
        exact ⟨paired.anchored, paired.unheard, paired.shown, paired.window⟩
    | staleness now =>
        obtain rfl := Option.some.inj taken
        exact paired.staleness now
    | send =>
        simp only [MonitorSystem.apply] at taken
        split at taken
        next => cases taken
        next =>
          obtain rfl := Option.some.inj taken
          exact ⟨paired.anchored, paired.unheard, paired.shown, paired.window⟩
    | lose =>
        simp only [MonitorSystem.apply] at taken
        split at taken
        next => cases taken
        next =>
          obtain rfl := Option.some.inj taken
          exact ⟨paired.anchored, paired.unheard, paired.shown, paired.window⟩
    | receive now =>
        simp only [MonitorSystem.apply] at taken
        split at taken
        next => cases taken
        next record rest uart =>
          obtain rfl := Option.some.inj taken
          exact paired.receive uart inTime
    | waitForCapture now read =>
        simp only [MonitorSystem.apply] at taken
        split at taken
        next =>
          obtain rfl := Option.some.inj taken
          exact before.wait le inTime
        next => cases taken
    | poll now lock =>
        simp only [MonitorSystem.apply] at taken
        split at taken
        next captureUs deadlineUs task =>
          obtain rfl := Option.some.inj taken
          exact paired.poll task named
        next => cases taken
    | updateReference now lock read =>
        simp only [MonitorSystem.apply] at taken
        split at taken
        next =>
          obtain rfl := Option.some.inj taken
          exact ⟨anchored_updateReferenceState paired.anchored _ _ _, paired.unheard, paired.shown,
            fun _ _ polls => absurd polls (by simp)⟩
        next => cases taken
    | enforce now lock read =>
        simp only [MonitorSystem.apply] at taken
        split at taken
        next =>
          obtain rfl := Option.some.inj taken
          exact ⟨anchored_enforceHoldoverPolicy paired.anchored _ _, paired.unheard, paired.shown,
            fun _ _ polls => absurd polls (by simp)⟩
        next => cases taken
  next => cases taken

/-- While the last record fits every edge that is polled for and no other one comes in the window, what is
served is anchored in an edge and its true second. -/
theorem anchor_names_its_edge {past : List MonitorEvent} {s : MonitorSystem F}
    (run : Run (monitorStep config receiver)
      (fun s event => NamesOwnEdge receiver s event ∧ RecordsInTime receiver s event)
      monitorStart past s)
    (serviceable : s.clock.serviceable = true) : AnchorTrue receiver s.clock := by
  have paired : Paired receiver s := by
    refine run.invariant (fun _ s => Paired receiver s) ?_ ?_
    · refine ⟨?_, fun _ => rfl, ?_, fun _ _ polls => absurd polls (by simp [monitorStart])⟩
      · intro valid
        cases valid
      · intro record received
        cases received
    · exact fun _ _ _ _ paired meets taken => paired.step meets.1 meets.2 taken
  exact paired.anchored (Bool.and_eq_true_iff.mp serviceable).1

/-! ## Runs of a receiver with one second between edges -/

def steadyReceiver : Receiver where
  captureUs edge := 1000000 * (edge + 1)
  utcSeconds edge := 1700000000 + edge
  timTp edge := ⟨(1384035218 + edge) / 604800, (1384035218 + edge) % 604800 * 1000, 0⟩
  increasing _ _ lt := by dsimp only; omega

def allValid : MonitorEvent := .flags ⟨true, true, true, true, .noWarning, true, 18⟩

def finish (now : Nat) : List MonitorEvent :=
  [.updateReference now true true, .enforce now true true]

def firstEdge : List MonitorEvent :=
  [allValid, .edge, .waitForCapture 1000010 true] ++ finish 1000020

def punctualEdge (edgeUs : Nat) : List MonitorEvent :=
  [.send, .receive (edgeUs - 850000), .edge, .waitForCapture (edgeUs + 10) true,
    .poll (edgeUs + 20) true] ++ finish (edgeUs + 30)

def overtakenEdge (edgeUs : Nat) : List MonitorEvent :=
  [.edge, .send, .waitForCapture (edgeUs + 10) true, .poll (edgeUs + 20) true,
    .receive (edgeUs + 150000), .poll (edgeUs + 160000) true] ++ finish (edgeUs + 160010)

def punctualRun : Option (MonitorSystem ℚ) :=
  execute (monitorStep quickLock steadyReceiver)
    (fun s event => NamesOwnEdge steadyReceiver s event ∧ RecordsInTime steadyReceiver s event)
    monitorStart (firstEdge ++ punctualEdge 2000000 ++ punctualEdge 3000000 ++ punctualEdge 4000000)

theorem punctualRun_executes : punctualRun.isSome = true := by decide +kernel

theorem punctualRun_names_its_edge :
    AnchorTrue steadyReceiver (punctualRun.get punctualRun_executes).clock :=
  anchor_names_its_edge (execute_run (Option.some_get punctualRun_executes).symm) (by decide +kernel)

/-- One record is lost, every later one arrives while the task polls for the edge before. -/
def overtakenRun : Option (MonitorSystem ℚ) :=
  execute (monitorStep quickLock steadyReceiver) (NamesOwnEdge steadyReceiver) monitorStart
    (firstEdge ++ [.send, .lose] ++ overtakenEdge 2000000 ++ overtakenEdge 3000000 ++
      overtakenEdge 4000000)

theorem overtakenRun_executes : overtakenRun.isSome = true := by decide +kernel

/-- After one lost record the clock locks a second away from UTC. -/
theorem lost_record_shifts_anchor : ¬∀ (config : Kconfig) (receiver : Receiver)
    (past : List MonitorEvent) (s : MonitorSystem ℚ),
    Run (monitorStep config receiver) (NamesOwnEdge receiver) monitorStart past s →
    s.clock.serviceable = true → AnchorTrue receiver s.clock := by
  intro claim
  let s := overtakenRun.get overtakenRun_executes
  have run : Run (monitorStep quickLock steadyReceiver) (NamesOwnEdge steadyReceiver) monitorStart
      _ s := execute_run (Option.some_get overtakenRun_executes).symm
  obtain ⟨edge, capture, utc⟩ := claim _ _ _ s run (by decide +kernel)
  have anchor : s.clock.anchorCaptureUs = 4000000 ∧ s.clock.anchorUtcSeconds = 1700000004 := by
    decide +kernel
  rw [anchor.1] at capture
  rw [anchor.2] at utc
  simp only [steadyReceiver] at capture utc
  omega

end NtsTimeServer.Proof
