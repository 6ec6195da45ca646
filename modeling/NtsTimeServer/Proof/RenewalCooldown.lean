import NtsTimeServer.Model.RenewalScheduler

/-!
# The cooldown of automatic renewals

From the reading of an attempt until the end of its cooldown, the attempt record in NVS and the status
in memory both carry a time before which no attempt is made. A start of a transaction comes after its
attempt's reading, with the record of the attempt in NVS.
-/

namespace NtsTimeServer.Proof
open Model Lib

def CoolsDown (starts : List TransactionStart) (retry : Int) : Prop :=
  ∀ start ∈ starts, start.reading + renewalAttemptCooldownSeconds ≤ retry

/-- The record marks the attempt of a reading as in progress, with its cooldown. -/
def Marks (record : RenewalAttemptRecord) (reading : Int) : Prop :=
  record.attemptWasInProgress = true ∧ record.lastAttemptUnix = reading ∧
    record.retryNotBeforeUnix = reading + renewalAttemptCooldownSeconds

def NvsCoolsDown (starts : List TransactionStart) (nvs : Option RenewalAttemptRecord) : Prop :=
  starts ≠ [] → ∃ record, nvs = some record ∧ CoolsDown starts record.retryNotBeforeUnix

structure Armed (s : RenewalSystem) (now : Int) : Prop where
  positive : 0 < now
  past : now ≤ s.time
  last : s.status.attempt.lastAttemptUnix = now
  retry : s.status.attempt.retryNotBeforeUnix = now + renewalAttemptCooldownSeconds
  cooled : CoolsDown s.starts now

def PcHolds (s : RenewalSystem) : Prop :=
  match s.pc with
  | .copied next => next.attempt = s.status.attempt
  | .timed now => 0 < now ∧ now ≤ s.time
  | .acquired now => Armed s now
  | .storing now record => Armed s now ∧ Marks record now
  | .stored now | .starting now => Armed s now ∧ ∃ record, s.nvs = some record ∧ Marks record now
  | .storingFinal record => CoolsDown s.starts record.retryNotBeforeUnix
  | _ => True

structure StartMarked (start : TransactionStart) : Prop where
  positive : 0 < start.reading
  ordered : start.reading ≤ start.time
  marked : ∃ record, start.record = some record ∧ Marks record start.reading

structure CooldownHolds (s : RenewalSystem) : Prop where
  spaced : s.starts.Pairwise fun later earlier =>
    earlier.reading + renewalAttemptCooldownSeconds ≤ later.reading
  marked : ∀ start ∈ s.starts, StartMarked start
  nvs : NvsCoolsDown s.starts s.nvs
  memory : s.pc ≠ .off → CoolsDown s.starts s.status.attempt.retryNotBeforeUnix
  pc : PcHolds s

theorem unpowered_holds (time : Int) (nvs : Option RenewalAttemptRecord) :
    CooldownHolds (.unpowered time nvs) where
  spaced := .nil
  marked _ member := by cases member
  nvs nonempty := absurd rfl nonempty
  memory on := absurd rfl on
  pc := trivial

theorem CoolsDown.mono {starts : List TransactionStart} {retry later : Int}
    (cools : CoolsDown starts retry) (after : retry ≤ later) : CoolsDown starts later :=
  fun start member => (cools start member).trans after

theorem storeRenewalAttemptRecord_cases (nvs : Option RenewalAttemptRecord)
    (record : RenewalAttemptRecord) (outcome : StoreOutcome) :
    storeRenewalAttemptRecord nvs record outcome = (true, some record) ∨
      ∃ after, storeRenewalAttemptRecord nvs record outcome = (false, after) ∧
        (after = nvs ∨ after = some record) := by
  unfold storeRenewalAttemptRecord
  split
  · exact .inr ⟨nvs, rfl, .inl rfl⟩
  split
  · exact .inr ⟨nvs, rfl, .inl rfl⟩
  cases outcome with
  | stored => exact .inl rfl
  | failed durable =>
      cases durable with
      | true => exact .inr ⟨some record, rfl, .inr rfl⟩
      | false => exact .inr ⟨nvs, rfl, .inl rfl⟩

theorem store_coolsDown {starts : List TransactionStart} {nvs : Option RenewalAttemptRecord}
    {record : RenewalAttemptRecord} (before : NvsCoolsDown starts nvs)
    (cools : CoolsDown starts record.retryNotBeforeUnix) (outcome : StoreOutcome) :
    NvsCoolsDown starts (storeRenewalAttemptRecord nvs record outcome).2 := by
  have written : NvsCoolsDown starts (some record) := fun _ => ⟨record, rfl, cools⟩
  obtain stored | ⟨after, failed, rfl | rfl⟩ := storeRenewalAttemptRecord_cases nvs record outcome
  · rwa [stored]
  · rwa [failed]
  · rwa [failed]

theorem Armed.cools {s : RenewalSystem} {now : Int} (armed : Armed s now) :
    CoolsDown s.starts (now + renewalAttemptCooldownSeconds) :=
  armed.cooled.mono (by simp [renewalAttemptCooldownSeconds])

theorem loaded_coolsDown {starts : List TransactionStart} {nvs : Option RenewalAttemptRecord}
    {record : RenewalAttemptRecord} (cools : NvsCoolsDown starts nvs)
    (loaded : loadRenewalAttemptRecord nvs = .ok record) : CoolsDown starts record.retryNotBeforeUnix := by
  cases starts with
  | nil => exact fun _ member => by cases member
  | cons start rest =>
      obtain ⟨stored, rfl, kept⟩ := cools (List.cons_ne_nil start rest)
      unfold loadRenewalAttemptRecord at loaded
      simp only at loaded
      split at loaded
      · cases loaded
      · split at loaded
        · cases loaded
        · cases loaded
          exact kept

/-! ## Steps -/

inductive Moved (s : RenewalSystem) : RenewalEvent → RenewalSystem → Prop
  | pass {seconds : Nat} : Moved s (.pass seconds) { s with time := s.time + seconds }
  | publish {update : TlsPublish} : Moved s (.publish update) (s.publish update)
  | powerLost {durable : Bool} : Moved s (.powerLost durable)
      { s with nvs := nvsAfterPowerLoss s durable, status := .zero, latest := .zero, pc := .off }
  | start {boot : BootLoads} (off : s.pc = .off) : Moved s (.start boot) (startRenewalScheduler s boot)
  | evaluateBegin (here : s.pc = .waiting) :
      Moved s .evaluateBegin { s with pc := .evaluating (evaluationBegun s.status) }
  | evaluateInspect {inputs : EvaluationInputs} {next next' : RenewalStatus} {now : Int}
      (here : s.pc = .evaluating next) :
      Moved s (.evaluateInspect inputs) { s with pc := .inspected next' now }
  | evaluateCopy {next : RenewalStatus} {now : Int} (here : s.pc = .inspected next now) :
      Moved s .evaluateCopy { s with pc := .copied (evaluationCopied s.status now next) }
  | evaluatePublish {next : RenewalStatus} (here : s.pc = .copied next) :
      Moved s .evaluatePublish { s with status := next, pc := .evaluated }
  | executeSnapshot {skip : Prop} [Decidable skip] (here : s.pc = .evaluated) :
      Moved s .executeSnapshot { s with pc := if skip then .waiting else .ready }
  | executeRead {timeAvailable : Bool} (here : s.pc = .ready) : Moved s (.executeRead timeAvailable)
      { s with pc := if timeAvailable ∧ 0 < s.time then .timed s.time else .waiting }
  | executeSkip {now : Int} (here : s.pc = .timed now) : Moved s .executeAcquire { s with pc := .waiting }
  | executeAcquire {now : Int} {status : RenewalStatus} (here : s.pc = .timed now)
      (acquired : attemptAcquired now s.status = some status) :
      Moved s .executeAcquire { s with status := status, pc := .acquired now }
  | recordAttempt {now : Int} (here : s.pc = .acquired now) : Moved s .recordAttempt
      { s with pc := .storing now (attemptRecord s.status.attempt true) }
  | storeAttempt {outcome : StoreOutcome} {now : Int} {record : RenewalAttemptRecord}
      (here : s.pc = .storing now record) : Moved s (.storeAttempt outcome) { s with
        nvs := (storeRenewalAttemptRecord s.nvs record outcome).2
        pc := if (storeRenewalAttemptRecord s.nvs record outcome).1 then .stored now else .refused }
  | refuse (here : s.pc = .refused) :
      Moved s .refuse { s with status := attemptRefused s.status, pc := .waiting }
  | prepareFailed {result : EspErr} {now : Int} (here : s.pc = .stored now) :
      Moved s (.prepare (.error result)) { s with pc := .finished result .zero }
  | prepare {leaf : Bytes} {now : Int} (here : s.pc = .stored now) : Moved s (.prepare (.ok leaf))
      { s.publish (.intent ⟨true, false, now, leaf, []⟩ "pending_target_unknown") with
        pc := .starting now }
  | startTransaction {now : Int} (here : s.pc = .starting now) : Moved s .startTransaction
      { s with starts := ⟨now, s.time, s.nvs⟩ :: s.starts, pc := .running }
  | endTransaction {result : EspErr} {transaction : TransactionStatus} (here : s.pc = .running) :
      Moved s (.endTransaction result transaction) { s with pc := .finished result transaction }
  | complete {result : EspErr} {transaction : TransactionStatus}
      (here : s.pc = .finished result transaction) : Moved s .complete
        { s with status := attemptCompleted result transaction s.status, pc := .completed }
  | recordFinal (here : s.pc = .completed) : Moved s .recordFinal
      { s with pc := .storingFinal (attemptRecord s.status.attempt false) }
  | storeFinal {outcome : StoreOutcome} {record : RenewalAttemptRecord}
      (here : s.pc = .storingFinal record) : Moved s (.storeFinal outcome)
        { s with nvs := (storeRenewalAttemptRecord s.nvs record outcome).2, pc := .waiting }

theorem moved_of_step {s t : RenewalSystem} {event : RenewalEvent} (step : renewalStep s event = some t) :
    Moved s event t := by
  cases event with
  | pass | publish | powerLost =>
      cases step
      constructor
  | executeAcquire =>
      simp only [renewalStep] at step
      split at step
      next here =>
        split at step <;> cases step
        · exact .executeSkip here
        next acquired => exact .executeAcquire here acquired
      · cases step
  | prepare outcome =>
      simp only [renewalStep] at step
      split at step
      next here =>
        split at step <;> cases step
        · exact .prepareFailed here
        · exact .prepare here
      · cases step
  | _ =>
      simp only [renewalStep] at step
      split at step <;> cases step
      next here => constructor; exact here

section
variable {s t : RenewalSystem}

theorem Armed.mono {now : Int} (armed : Armed s now) (time : s.time ≤ t.time)
    (attempt : t.status.attempt = s.status.attempt) (starts : t.starts = s.starts) : Armed t now where
  positive := armed.positive
  past := armed.past.trans time
  last := by rw [attempt, armed.last]
  retry := by rw [attempt, armed.retry]
  cooled := by
    rw [starts]
    exact armed.cooled

theorem CooldownHolds.mono (holds : CooldownHolds s) (time : s.time ≤ t.time)
    (attempt : t.status.attempt = s.status.attempt) (starts : t.starts = s.starts)
    (nvs : t.nvs = s.nvs) (pc : t.pc = s.pc) : CooldownHolds t := by
  refine ⟨starts ▸ holds.spaced, starts ▸ holds.marked, starts ▸ nvs ▸ holds.nvs, ?_, ?_⟩
  · rw [pc, starts, attempt]
    exact holds.memory
  · have here := holds.pc
    unfold PcHolds at here ⊢
    rw [pc]
    cases at_pc : s.pc <;> rw [at_pc] at here
    case timed now => exact ⟨here.1, here.2.trans time⟩
    case acquired now => exact here.mono time attempt starts
    case storing now record => exact ⟨here.1.mono time attempt starts, here.2⟩
    case stored now => exact ⟨here.1.mono time attempt starts, nvs ▸ here.2⟩
    case starting now => exact ⟨here.1.mono time attempt starts, nvs ▸ here.2⟩
    case copied next => exact here.trans attempt.symm
    case storingFinal record => exact starts ▸ here
    all_goals trivial

theorem CooldownHolds.here (holds : CooldownHolds s) {pc : SchedulerPc} (at_pc : s.pc = pc) :
    PcHolds { s with pc := pc } := by
  subst at_pc
  exact holds.pc

theorem CooldownHolds.publish (holds : CooldownHolds s) (update : TlsPublish) :
    CooldownHolds (s.publish update) := holds.mono le_rfl rfl rfl rfl rfl

theorem CooldownHolds.goto (holds : CooldownHolds s) (on : s.pc ≠ .off) {pc : SchedulerPc}
    (here : PcHolds { s with pc := pc }) : CooldownHolds { s with pc := pc } :=
  ⟨holds.spaced, holds.marked, holds.nvs, fun _ => holds.memory on, here⟩

theorem nvsAfterPowerLoss_coolsDown (holds : CooldownHolds s) (durable : Bool) :
    NvsCoolsDown s.starts (nvsAfterPowerLoss s durable) := by
  have here := holds.pc
  unfold PcHolds at here
  unfold nvsAfterPowerLoss
  split
  next now record at_pc =>
    rw [at_pc] at here
    refine store_coolsDown holds.nvs ?_ (.failed durable)
    rw [here.2.2.2]
    exact here.1.cools
  next record at_pc =>
    rw [at_pc] at here
    exact store_coolsDown holds.nvs here (.failed durable)
  · exact holds.nvs

theorem CooldownHolds.powerLost (holds : CooldownHolds s) (durable : Bool) :
    CooldownHolds { s with
      nvs := nvsAfterPowerLoss s durable, status := .zero, latest := .zero, pc := .off } :=
  ⟨holds.spaced, holds.marked, nvsAfterPowerLoss_coolsDown holds durable, fun on => absurd rfl on, trivial⟩

theorem CooldownHolds.loadAttemptState (holds : CooldownHolds s) (boot : BootLoads) :
    CooldownHolds (loadAttemptState s boot) := by
  unfold Model.loadAttemptState
  split
  next record _ loaded =>
    refine ⟨holds.spaced, holds.marked, holds.nvs, fun _ => loaded_coolsDown holds.nvs loaded, ?_⟩
    unfold PcHolds
    cases boot.created <;> trivial
  · exact holds

theorem CooldownHolds.start (holds : CooldownHolds s) (boot : BootLoads) :
    CooldownHolds (startRenewalScheduler s boot) := by
  unfold startRenewalScheduler
  split
  · exact holds
  · split
    · exact holds.publish _
    · split
      · exact (holds.publish _).publish _
      · exact (((holds.publish _).publish _).publish _).loadAttemptState boot

theorem CooldownHolds.evaluatePublish (holds : CooldownHolds s) {next : RenewalStatus}
    (at_pc : s.pc = .copied next) : CooldownHolds { s with status := next, pc := .evaluated } := by
  have here := holds.here at_pc
  have memory := holds.memory (by rw [at_pc]; nofun)
  exact ⟨holds.spaced, holds.marked, holds.nvs, fun _ => here ▸ memory, trivial⟩

/-- The gate: the lock is only taken once the time before which no attempt is made has come. -/
theorem attemptAcquired_some {now : Int} {status after : RenewalStatus}
    (acquired : attemptAcquired now status = some after) :
    ¬(0 < status.attempt.retryNotBeforeUnix ∧ now < status.attempt.retryNotBeforeUnix) ∧
      after.attempt.lastAttemptUnix = now ∧
      after.attempt.retryNotBeforeUnix = now + renewalAttemptCooldownSeconds := by
  unfold attemptAcquired at acquired
  split at acquired
  · cases acquired
  next clear =>
    cases acquired
    exact ⟨fun cooling => clear (.inr (.inr cooling)), rfl, rfl⟩

theorem cooled_of_gate (holds : CooldownHolds s) (on : s.pc ≠ .off) {now : Int}
    (gate : ¬(0 < s.status.attempt.retryNotBeforeUnix ∧ now < s.status.attempt.retryNotBeforeUnix)) :
    CoolsDown s.starts now := by
  intro start member
  have positive := (holds.marked start member).positive
  have retry := holds.memory on start member
  have cooldown : 0 < renewalAttemptCooldownSeconds := by decide
  omega

theorem CooldownHolds.acquire (holds : CooldownHolds s) {now : Int} (at_pc : s.pc = .timed now)
    {status : RenewalStatus} (acquired : attemptAcquired now s.status = some status) :
    CooldownHolds { s with status := status, pc := .acquired now } := by
  have here := holds.here at_pc
  obtain ⟨gate, last, retry⟩ := attemptAcquired_some acquired
  have cooled := cooled_of_gate holds (by rw [at_pc]; nofun) gate
  have armed : Armed { s with status := status, pc := .acquired now } now :=
    ⟨here.1, here.2, last, retry, cooled⟩
  refine ⟨holds.spaced, holds.marked, holds.nvs, fun _ => ?_, armed⟩
  rw [retry]
  exact armed.cools

theorem CooldownHolds.recordAttempt (holds : CooldownHolds s) {now : Int} (at_pc : s.pc = .acquired now) :
    CooldownHolds { s with pc := .storing now (attemptRecord s.status.attempt true) } := by
  have here := holds.here at_pc
  have armed : Armed { s with pc := .storing now (attemptRecord s.status.attempt true) } now :=
    here.mono le_rfl rfl rfl
  exact holds.goto (by rw [at_pc]; nofun) ⟨armed, rfl, here.last, here.retry⟩

theorem CooldownHolds.storeAttempt (holds : CooldownHolds s) {now : Int} {record : RenewalAttemptRecord}
    (at_pc : s.pc = .storing now record) (outcome : StoreOutcome) :
    CooldownHolds { s with
      nvs := (storeRenewalAttemptRecord s.nvs record outcome).2
      pc := if (storeRenewalAttemptRecord s.nvs record outcome).1 then .stored now else .refused } := by
  have here := holds.here at_pc
  obtain ⟨armed, marks⟩ := here
  have memory := holds.memory (by rw [at_pc]; nofun)
  have nvs := store_coolsDown holds.nvs (marks.2.2 ▸ armed.cools) outcome
  obtain stored | ⟨after, failed, -⟩ := storeRenewalAttemptRecord_cases s.nvs record outcome
  · rw [stored] at nvs ⊢
    exact ⟨holds.spaced, holds.marked, nvs, fun _ => memory, armed.mono le_rfl rfl rfl, record, rfl, marks⟩
  · rw [failed] at nvs ⊢
    exact ⟨holds.spaced, holds.marked, nvs, fun _ => memory, trivial⟩

theorem CooldownHolds.prepared (holds : CooldownHolds s) {now : Int} (at_pc : s.pc = .stored now)
    (leaf : Bytes) :
    CooldownHolds { s.publish (.intent ⟨true, false, now, leaf, []⟩ "pending_target_unknown") with
      pc := .starting now } := by
  have published := holds.publish (.intent ⟨true, false, now, leaf, []⟩ "pending_target_unknown")
  have here := published.pc
  unfold PcHolds at here
  rw [show (s.publish (.intent ⟨true, false, now, leaf, []⟩ "pending_target_unknown")).pc = .stored now
    from at_pc] at here
  refine published.goto ?_ ⟨here.1.mono le_rfl rfl rfl, here.2⟩
  rw [show (s.publish (.intent ⟨true, false, now, leaf, []⟩ "pending_target_unknown")).pc = .stored now
    from at_pc]
  nofun

theorem CooldownHolds.startTransaction (holds : CooldownHolds s) {now : Int}
    (at_pc : s.pc = .starting now) :
    CooldownHolds { s with starts := ⟨now, s.time, s.nvs⟩ :: s.starts, pc := .running } := by
  have here := holds.here at_pc
  obtain ⟨armed, record, stored, marks⟩ := here
  have all {retry : Int} (retries : retry = now + renewalAttemptCooldownSeconds) :
      CoolsDown (⟨now, s.time, s.nvs⟩ :: s.starts) retry := by
    intro start member
    obtain rfl | earlier := List.mem_cons.mp member
    · exact retries.ge
    · exact retries ▸ armed.cools start earlier
  refine ⟨List.pairwise_cons.mpr ⟨armed.cooled, holds.spaced⟩, fun start member => ?_,
    fun _ => ⟨record, stored, all marks.2.2⟩, fun _ => all armed.retry, trivial⟩
  obtain rfl | earlier := List.mem_cons.mp member
  · exact ⟨armed.positive, armed.past, record, stored, marks⟩
  · exact holds.marked start earlier

theorem CooldownHolds.storeFinal (holds : CooldownHolds s) {record : RenewalAttemptRecord}
    (at_pc : s.pc = .storingFinal record) (outcome : StoreOutcome) :
    CooldownHolds { s with
      nvs := (storeRenewalAttemptRecord s.nvs record outcome).2, pc := .waiting } := by
  have here := holds.here at_pc
  have memory := holds.memory (by rw [at_pc]; nofun)
  exact ⟨holds.spaced, holds.marked, store_coolsDown holds.nvs here outcome, fun _ => memory, trivial⟩

theorem pcHolds_ite {condition : Prop} [Decidable condition] {yes no : SchedulerPc}
    (taken : condition → PcHolds { s with pc := yes }) (skipped : ¬condition → PcHolds { s with pc := no }) :
    PcHolds { s with pc := if condition then yes else no } := by
  by_cases holds : condition
  · rw [if_pos holds]
    exact taken holds
  · rw [if_neg holds]
    exact skipped holds

theorem CooldownHolds.setStatus (holds : CooldownHolds s) (on : s.pc ≠ .off) {status : RenewalStatus}
    (retry : status.attempt.retryNotBeforeUnix = s.status.attempt.retryNotBeforeUnix)
    {pc : SchedulerPc} (here : PcHolds { s with status := status, pc := pc }) :
    CooldownHolds { s with status := status, pc := pc } := by
  refine ⟨holds.spaced, holds.marked, holds.nvs, fun _ => ?_, here⟩
  rw [retry]
  exact holds.memory on

theorem renewalStep_holds (holds : CooldownHolds s) {event : RenewalEvent}
    (step : renewalStep s event = some t) : CooldownHolds t := by
  cases moved_of_step step with
  | pass => exact holds.mono (by simp) rfl rfl rfl rfl
  | publish => exact holds.publish _
  | powerLost => exact holds.powerLost _
  | start => exact holds.start _
  | evaluateBegin here | evaluateInspect here | executeSkip here | prepareFailed here | endTransaction here =>
      exact holds.goto (by rw [here]; nofun) trivial
  | evaluateCopy here => exact holds.goto (by rw [here]; nofun) rfl
  | evaluatePublish here => exact holds.evaluatePublish here
  | executeSnapshot here =>
      exact holds.goto (by rw [here]; nofun) (pcHolds_ite (fun _ => trivial) fun _ => trivial)
  | executeRead here =>
      exact holds.goto (by rw [here]; nofun)
        (pcHolds_ite (fun reading => ⟨reading.2, le_rfl⟩) fun _ => trivial)
  | executeAcquire here acquired => exact holds.acquire here acquired
  | recordAttempt here => exact holds.recordAttempt here
  | storeAttempt here => exact holds.storeAttempt here _
  | refuse here | complete here =>
      refine holds.setStatus ?_ ?_ ?_
      · rw [here]
        nofun
      · rfl
      · trivial
  | prepare here => exact holds.prepared here _
  | startTransaction here => exact holds.startTransaction here
  | recordFinal here =>
      have on : s.pc ≠ .off := by rw [here]; nofun
      exact holds.goto on (holds.memory on)
  | storeFinal here => exact holds.storeFinal here _

end

/-! ## Runs -/

theorem renewalRun_holds {time : Int} {nvs : Option RenewalAttemptRecord} {past : List RenewalEvent}
    {s : RenewalSystem} (run : FreeRun renewalStep (.unpowered time nvs) past s) : CooldownHolds s :=
  run.invariant (fun _ s => CooldownHolds s) (unpowered_holds time nvs)
    fun _ _ _ _ holds _ step => renewalStep_holds holds step

/-- Every start of a transaction finds the record of its attempt in NVS and comes after the reading of
its attempt, and the readings of any two are the cooldown apart, so that the later transaction starts
no sooner than the cooldown after the earlier one's reading. -/
theorem renewals_cool_down {time : Int} {nvs : Option RenewalAttemptRecord} {past : List RenewalEvent}
    {s : RenewalSystem} (run : FreeRun renewalStep (.unpowered time nvs) past s) :
    (∀ start ∈ s.starts, 0 < start.reading ∧ start.reading ≤ start.time ∧
      ∃ record, start.record = some record ∧ record.attemptWasInProgress = true ∧
        record.lastAttemptUnix = start.reading ∧
        record.retryNotBeforeUnix = start.reading + renewalAttemptCooldownSeconds) ∧
    s.starts.Pairwise fun later earlier =>
      earlier.reading + renewalAttemptCooldownSeconds ≤ later.reading ∧
        earlier.reading + renewalAttemptCooldownSeconds ≤ later.time := by
  have holds := renewalRun_holds run
  refine ⟨fun start member => ?_, ?_⟩
  · obtain ⟨positive, ordered, record, stored, marks⟩ := holds.marked start member
    exact ⟨positive, ordered, record, stored, marks⟩
  · refine holds.spaced.imp_of_mem fun {later earlier} member _ apart => ⟨apart, ?_⟩
    exact apart.trans (holds.marked later member).ordered

def sampleBoot : BootLoads where
  intent := .ok (⟨false, false, 0, [], []⟩, "none")
  outcome := .ok ⟨false, false, false, 0, .ok, [], []⟩
  handoff := .ok ⟨false, false, 0, 0, 0, []⟩
  attemptReadFails := none
  created := true

def dueCertificate : EvaluationInputs := ⟨.ok, true, true, true, some 2000000, true, .ok true⟩

def sampleAttempt (seconds : Nat) : List RenewalEvent :=
  [.start sampleBoot, .evaluateBegin, .evaluateInspect dueCertificate, .evaluateCopy, .evaluatePublish,
    .executeSnapshot, .executeRead true, .executeAcquire, .recordAttempt, .pass seconds,
    .storeAttempt .stored, .prepare (.ok []), .startTransaction]

def twoAttemptEvents : List RenewalEvent :=
  sampleAttempt 5 ++ [.powerLost false, .pass 21595] ++ sampleAttempt 0

def twoAttempts : Option RenewalSystem :=
  execute renewalStep (fun _ _ => True) (.unpowered 1000000 none) twoAttemptEvents

theorem twoAttempts_executes : twoAttempts.isSome = true := by decide +kernel

theorem twoAttempts_run : FreeRun renewalStep (.unpowered 1000000 none) twoAttemptEvents.reverse
    (twoAttempts.get twoAttempts_executes) := by
  have executed : twoAttempts = some (twoAttempts.get twoAttempts_executes) :=
    (Option.some_get twoAttempts_executes).symm
  exact execute_run executed

theorem twoAttempts_starts : (twoAttempts.get twoAttempts_executes).starts.map
    (fun start : TransactionStart => (start.reading, start.time)) = [(1021600, 1021600), (1000000, 1000005)] := by
  decide +kernel

theorem twoAttempts_cool_down :
    (∀ start ∈ (twoAttempts.get twoAttempts_executes).starts, 0 < start.reading ∧
      start.reading ≤ start.time ∧ ∃ record, start.record = some record ∧
        record.attemptWasInProgress = true ∧ record.lastAttemptUnix = start.reading ∧
        record.retryNotBeforeUnix = start.reading + renewalAttemptCooldownSeconds) ∧
    (twoAttempts.get twoAttempts_executes).starts.Pairwise fun later earlier =>
      earlier.reading + renewalAttemptCooldownSeconds ≤ later.reading ∧
        earlier.reading + renewalAttemptCooldownSeconds ≤ later.time :=
  renewals_cool_down twoAttempts_run

/-- The cooldown counts from the reading of an attempt, which its transaction may come some time after. -/
theorem starts_are_closer : ¬∀ (time : Int) (nvs : Option RenewalAttemptRecord) (past : List RenewalEvent)
    (s : RenewalSystem), FreeRun renewalStep (.unpowered time nvs) past s →
      s.starts.Pairwise fun later earlier =>
        earlier.time + renewalAttemptCooldownSeconds ≤ later.time := by
  intro apart
  have pair := (apart _ _ _ _ twoAttempts_run).map (fun start : TransactionStart => (start.reading, start.time))
    (S := fun later earlier : Int × Int => earlier.2 + renewalAttemptCooldownSeconds ≤ later.2)
    fun _ _ spaced => spaced
  rw [twoAttempts_starts] at pair
  exact absurd pair (by decide)

end NtsTimeServer.Proof
