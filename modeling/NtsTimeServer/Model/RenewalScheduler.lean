import NtsTimeServer.Lib.Bytes
import NtsTimeServer.Lib.Run
import NtsTimeServer.Model.Types

/-!
# The renewal scheduler

The scheduler task of `web_console.c`, its attempt record in NVS, and the records that the TLS transition
task publishes in the scheduler's status. A step of a task is one critical section, or what it does
between two of them. `time` is the disciplined Unix time, whether it can be read or not.
-/

namespace NtsTimeServer.Model
open Lib

def renewalAttemptCooldownSeconds : Int := 6 * 60 * 60
def acmeRenewalAttemptRecordVersion : UInt32 := 1
/-- `ACME_PRODUCTION_TRANSACTION_STAGE_COMPLETE`; stage 0 is `NONE`. -/
def transactionStageComplete : Nat := 7

structure TlsHandoffRecord where
  inProgress : Bool
  recoveredInterrupted : Bool
  attemptCount : UInt32
  startedUnix : Int
  retryNotBeforeUnix : Int
  targetLeafSha256 : Bytes
  deriving DecidableEq, Repr

structure TlsOutcomeRecord where
  resultValid : Bool
  success : Bool
  lkgRestored : Bool
  completedUnix : Int
  transitionResult : EspErr
  targetLeafSha256 : Bytes
  runningLeafSha256 : Bytes
  deriving DecidableEq, Repr

structure TlsIntentRecord where
  pending : Bool
  bootReconciled : Bool
  createdUnix : Int
  previousLeafSha256 : Bytes
  targetLeafSha256 : Bytes
  deriving DecidableEq, Repr

structure RenewalAttemptRecord where
  version : UInt32
  attemptCount : UInt32
  lastAttemptUnix : Int
  retryNotBeforeUnix : Int
  attemptWasInProgress : Bool
  lastAttemptResultValid : Bool
  lastAttemptResult : EspErr
  lastTransactionStage : Nat
  lastTransactionCompleted : Bool
  lastDns01Prepared : Bool
  lastCleanupAttempted : Bool
  lastCleanupResult : EspErr
  deriving DecidableEq, Repr

def RenewalAttemptRecord.zero : RenewalAttemptRecord :=
  ⟨acmeRenewalAttemptRecordVersion, 0, 0, 0, false, false, .ok, 0, false, false, false, .ok⟩

structure TlsHandoffStatus extends TlsHandoffRecord where
  stateLoaded : Bool
  deriving DecidableEq, Repr

structure TlsOutcomeStatus extends TlsOutcomeRecord where
  stateLoaded : Bool
  deriving DecidableEq, Repr

structure TlsIntentStatus extends TlsIntentRecord where
  stateLoaded : Bool
  reconciliationResult : String
  deriving DecidableEq, Repr

structure TlsStatus where
  handoff : TlsHandoffStatus
  outcome : TlsOutcomeStatus
  intent : TlsIntentStatus
  deriving DecidableEq, Repr

def TlsStatus.zero : TlsStatus :=
  ⟨⟨⟨false, false, 0, 0, 0, []⟩, false⟩, ⟨⟨false, false, false, 0, .ok, [], []⟩, false⟩,
    ⟨⟨false, false, 0, [], []⟩, false, ""⟩⟩

structure RenewalAttempt where
  attemptInProgress : Bool
  attemptCount : UInt32
  lastAttemptUnix : Int
  retryNotBeforeUnix : Int
  lastAttemptResultValid : Bool
  lastAttemptResult : EspErr
  lastTransactionStage : Nat
  lastTransactionCompleted : Bool
  lastDns01Prepared : Bool
  lastCleanupAttempted : Bool
  lastCleanupResult : EspErr
  attemptStateLoaded : Bool
  recoveredInterruptedAttempt : Bool
  deriving DecidableEq, Repr

def RenewalAttempt.zero : RenewalAttempt :=
  ⟨false, 0, 0, 0, false, .ok, 0, false, false, false, .ok, false, false⟩

inductive RenewalState
  | notEvaluated | noCertificate | timeUnavailable | invalidCertificate | valid | due | urgent | expired
  deriving DecidableEq, Repr

structure RenewalStatus where
  taskStarted : Bool
  evaluated : Bool
  evaluationCount : UInt32
  lastEvaluationUnix : Int
  secondsRemaining : Int
  daysRemaining : Int
  state : RenewalState
  automaticRenewalEnabled : Bool
  eligible : Bool
  executionPreflightReady : Bool
  attempt : RenewalAttempt
  tls : TlsStatus
  deriving DecidableEq, Repr

def RenewalStatus.zero : RenewalStatus :=
  ⟨false, false, 0, 0, 0, 0, .notEvaluated, false, false, false, .zero, .zero⟩

/-! ## Publishing -/

/-- A critical section that publishes: `tls_handoff_publish`, `tls_activation_outcome_publish`,
`tls_activation_intent_publish`, or a result that is set alone. -/
inductive TlsPublish
  | handoff (record : TlsHandoffRecord)
  | outcome (record : TlsOutcomeRecord)
  | intent (record : TlsIntentRecord) (result : String)
  | reconciliation (result : String)
  deriving DecidableEq, Repr

def TlsPublish.apply (tls : TlsStatus) : TlsPublish → TlsStatus
  | .handoff record => { tls with handoff := { record with stateLoaded := true } }
  | .outcome record => { tls with outcome := { record with stateLoaded := true } }
  | .intent record result =>
      { tls with intent := { record with stateLoaded := true, reconciliationResult := result } }
  | .reconciliation result => { tls with intent := { tls.intent with reconciliationResult := result } }

def attemptRecord (attempt : RenewalAttempt) (attemptWasInProgress : Bool) : RenewalAttemptRecord where
  version := acmeRenewalAttemptRecordVersion
  attemptCount := attempt.attemptCount
  lastAttemptUnix := attempt.lastAttemptUnix
  retryNotBeforeUnix := attempt.retryNotBeforeUnix
  attemptWasInProgress := attemptWasInProgress
  lastAttemptResultValid := attempt.lastAttemptResultValid
  lastAttemptResult := attempt.lastAttemptResult
  lastTransactionStage := attempt.lastTransactionStage
  lastTransactionCompleted := attempt.lastTransactionCompleted
  lastDns01Prepared := attempt.lastDns01Prepared
  lastCleanupAttempted := attempt.lastCleanupAttempted
  lastCleanupResult := attempt.lastCleanupResult

/-- How a write of the record ends: stored, or failed with the record durable or not. -/
inductive StoreOutcome
  | stored
  | failed (durable : Bool)
  deriving DecidableEq, Repr

def storeRenewalAttemptRecord (nvs : Option RenewalAttemptRecord) (record : RenewalAttemptRecord)
    (outcome : StoreOutcome) : Bool × Option RenewalAttemptRecord :=
  if record.version ≠ acmeRenewalAttemptRecordVersion then (false, nvs)
  else if record.lastTransactionStage > transactionStageComplete then (false, nvs)
  else match outcome with
    | .stored => (true, some record)
    | .failed durable => (false, if durable then some record else nvs)

def loadRenewalAttemptRecord (nvs : Option RenewalAttemptRecord) : Except EspErr RenewalAttemptRecord :=
  match nvs with
  | none => .ok .zero
  | some record =>
      if record.version ≠ acmeRenewalAttemptRecordVersion then .error .invalidVersion
      else if record.lastTransactionStage > transactionStageComplete then .error .invalidState
      else .ok record

def loadedAttempt (record : RenewalAttemptRecord) : RenewalAttempt where
  attemptInProgress := false
  attemptCount := record.attemptCount
  lastAttemptUnix := record.lastAttemptUnix
  retryNotBeforeUnix := record.retryNotBeforeUnix
  lastAttemptResultValid := record.lastAttemptResultValid
  lastAttemptResult := record.lastAttemptResult
  lastTransactionStage := record.lastTransactionStage
  lastTransactionCompleted := record.lastTransactionCompleted
  lastDns01Prepared := record.lastDns01Prepared
  lastCleanupAttempted := record.lastCleanupAttempted
  lastCleanupResult := record.lastCleanupResult
  attemptStateLoaded := true
  recoveredInterruptedAttempt := record.attemptWasInProgress

/-! ## `renewal_scheduler_evaluate` -/

/-- What the evaluation finds out outside its critical sections: the inspection of the stored
certificate, with its expiry where it can be parsed, whether the time can be read, and the policy. -/
structure EvaluationInputs where
  inspectErr : EspErr
  certificateParseValid : Bool
  hostnameMatchesCertificate : Bool
  privateKeyMatchesCertificate : Bool
  expires : Option Int
  timeAvailable : Bool
  policy : Except EspErr Bool

def evaluationBegun (status : RenewalStatus) : RenewalStatus :=
  { RenewalStatus.zero with
    taskStarted := status.taskStarted
    evaluationCount := status.evaluationCount + 1
    evaluated := true }

def expiryState (secondsRemaining : Int) : RenewalState :=
  if secondsRemaining ≤ 0 then .expired
  else if secondsRemaining ≤ 7 * 86400 then .urgent
  else if secondsRemaining ≤ 30 * 86400 then .due
  else .valid

/-- The state of the certificate, and the reading `now`, which is 0 where there is none. -/
def evaluationInspected (inputs : EvaluationInputs) (time : Int) (next : RenewalStatus) :
    RenewalStatus × Int :=
  if inputs.inspectErr = .notFound then ({ next with state := .noCertificate }, 0)
  else if inputs.inspectErr ≠ .ok ∧ inputs.inspectErr ≠ .invalidState then
    ({ next with state := .invalidCertificate }, 0)
  else if ¬inputs.certificateParseValid ∨ ¬inputs.hostnameMatchesCertificate ∨
      ¬inputs.privateKeyMatchesCertificate then ({ next with state := .invalidCertificate }, 0)
  else match inputs.expires with
    | none => ({ next with state := .invalidCertificate }, 0)
    | some expires =>
        if ¬inputs.timeAvailable then ({ next with state := .timeUnavailable }, 0)
        else
          let secondsRemaining := expires - time
          ({ next with
            lastEvaluationUnix := time
            secondsRemaining := secondsRemaining
            daysRemaining := if secondsRemaining ≥ 0 then secondsRemaining / 86400
              else -((-secondsRemaining + 86399) / 86400)
            state := expiryState secondsRemaining }, time)

def evaluationPolicy (policy : Except EspErr Bool) (next : RenewalStatus) : RenewalStatus :=
  let automaticEnabled := match policy with
    | .ok enabled => enabled
    | .error _ => false
  { next with
    automaticRenewalEnabled := automaticEnabled
    eligible := automaticEnabled &&
      (next.state == .due || next.state == .urgent || next.state == .expired) }

/-- The second critical section, and the gate that is computed from it. -/
def evaluationCopied (status : RenewalStatus) (now : Int) (next : RenewalStatus) : RenewalStatus :=
  let attempt := status.attempt
  let cooldownClear := attempt.lastAttemptUnix = 0 ∨ now ≤ 0 ∨ now ≥ attempt.retryNotBeforeUnix
  { next with
    attempt := attempt
    tls := status.tls
    executionPreflightReady := next.eligible && !attempt.attemptInProgress && decide cooldownClear }

/-! ## `renewal_scheduler_execute_if_ready` -/

/-- The critical section that takes the attempt lock at the reading `now`. -/
def attemptAcquired (now : Int) (status : RenewalStatus) : Option RenewalStatus :=
  if ¬status.executionPreflightReady ∨ status.attempt.attemptInProgress ∨
      (status.attempt.retryNotBeforeUnix > 0 ∧ now < status.attempt.retryNotBeforeUnix) then none
  else some { status with
    executionPreflightReady := false
    attempt := { status.attempt with
      attemptInProgress := true
      attemptCount := status.attempt.attemptCount + 1
      lastAttemptUnix := now
      retryNotBeforeUnix := now + renewalAttemptCooldownSeconds
      lastAttemptResultValid := false
      lastAttemptResult := .ok
      lastTransactionStage := 0
      lastTransactionCompleted := false
      lastDns01Prepared := false
      lastCleanupAttempted := false
      lastCleanupResult := .ok } }

def attemptRefused (status : RenewalStatus) : RenewalStatus :=
  { status with
    executionPreflightReady := false
    attempt := { status.attempt with attemptInProgress := false } }

structure TransactionStatus where
  stage : Nat
  completed : Bool
  dns01Prepared : Bool
  cleanupAttempted : Bool
  cleanupResult : EspErr
  deriving DecidableEq, Repr

def TransactionStatus.zero : TransactionStatus := ⟨0, false, false, false, .ok⟩

def attemptCompleted (result : EspErr) (transaction : TransactionStatus) (status : RenewalStatus) :
    RenewalStatus :=
  { status with
    executionPreflightReady := false
    attempt := { status.attempt with
      attemptInProgress := false
      lastAttemptResultValid := true
      lastAttemptResult := result
      lastTransactionStage := transaction.stage
      lastTransactionCompleted := transaction.completed
      lastDns01Prepared := transaction.dns01Prepared
      lastCleanupAttempted := transaction.cleanupAttempted
      lastCleanupResult := transaction.cleanupResult } }

/-! ## The system -/

inductive SchedulerPc
  | off
  | waiting
  | evaluating (next : RenewalStatus)
  | inspected (next : RenewalStatus) (now : Int)
  | copied (next : RenewalStatus)
  | evaluated
  | ready
  | timed (now : Int)
  | acquired (now : Int)
  | storing (now : Int) (record : RenewalAttemptRecord)
  | refused
  | stored (now : Int)
  | starting (now : Int)
  | running
  | finished (result : EspErr) (transaction : TransactionStatus)
  | completed
  | storingFinal (record : RenewalAttemptRecord)
  deriving DecidableEq

/-- A start of an automatic ACME transaction: the clock reading of its attempt, the time of the start,
and the attempt record in NVS at that time. -/
structure TransactionStart where
  reading : Int
  time : Int
  record : Option RenewalAttemptRecord
  deriving DecidableEq, Repr

/-- `starts`, latest first, and `latest`, what was last published, are history. -/
structure RenewalSystem where
  time : Int
  status : RenewalStatus
  nvs : Option RenewalAttemptRecord
  pc : SchedulerPc
  starts : List TransactionStart
  latest : TlsStatus
  deriving DecidableEq

def RenewalSystem.publish (s : RenewalSystem) (update : TlsPublish) : RenewalSystem :=
  { s with
    status := { s.status with tls := update.apply s.status.tls }
    latest := update.apply s.latest }

/-- What `start_renewal_scheduler` gets from the three records that it loads and publishes, from NVS when
it reads the attempt record, and from `xTaskCreate`. -/
structure BootLoads where
  intent : Except EspErr (TlsIntentRecord × String)
  outcome : Except EspErr TlsOutcomeRecord
  handoff : Except EspErr TlsHandoffRecord
  attemptReadFails : Option EspErr
  created : Bool

def loadAttemptState (s : RenewalSystem) (boot : BootLoads) : RenewalSystem :=
  match boot.attemptReadFails, loadRenewalAttemptRecord s.nvs with
  | none, .ok record =>
      { s with
        status := { s.status with attempt := loadedAttempt record, taskStarted := boot.created }
        pc := if boot.created then .waiting else .off }
  | _, _ => s

def startRenewalScheduler (s : RenewalSystem) (boot : BootLoads) : RenewalSystem :=
  match boot.intent with
  | .error _ => s
  | .ok (intent, result) =>
      let s := s.publish (.intent intent result)
      match boot.outcome with
      | .error _ => s
      | .ok outcome =>
          let s := s.publish (.outcome outcome)
          match boot.handoff with
          | .error _ => s
          | .ok handoff => loadAttemptState (s.publish (.handoff handoff)) boot

/-- NVS after a power loss: a record that is being written may be durable. -/
def nvsAfterPowerLoss (s : RenewalSystem) (durable : Bool) : Option RenewalAttemptRecord :=
  match s.pc with
  | .storing _ record | .storingFinal record => (storeRenewalAttemptRecord s.nvs record (.failed durable)).2
  | _ => s.nvs

inductive RenewalEvent
  | pass (seconds : Nat)
  | publish (update : TlsPublish)
  | powerLost (durable : Bool)
  | start (boot : BootLoads)
  | evaluateBegin
  | evaluateInspect (inputs : EvaluationInputs)
  | evaluateCopy
  | evaluatePublish
  | executeSnapshot
  | executeRead (timeAvailable : Bool)
  | executeAcquire
  | recordAttempt
  | storeAttempt (outcome : StoreOutcome)
  | refuse
  /-- the checks before the transaction and `tls_activation_intent_begin`, with the leaf it stores -/
  | prepare (outcome : Except EspErr Bytes)
  | startTransaction
  | endTransaction (result : EspErr) (transaction : TransactionStatus)
  | complete
  | recordFinal
  | storeFinal (outcome : StoreOutcome)

def renewalStep (s : RenewalSystem) : RenewalEvent → Option RenewalSystem
  | .pass seconds => some { s with time := s.time + seconds }
  | .publish update => some (s.publish update)
  | .powerLost durable =>
      some { s with nvs := nvsAfterPowerLoss s durable, status := .zero, latest := .zero, pc := .off }
  | .start boot =>
      match s.pc with
      | .off => some (startRenewalScheduler s boot)
      | _ => none
  | .evaluateBegin =>
      match s.pc with
      | .waiting => some { s with pc := .evaluating (evaluationBegun s.status) }
      | _ => none
  | .evaluateInspect inputs =>
      match s.pc with
      | .evaluating next =>
          let (next, now) := evaluationInspected inputs s.time next
          some { s with pc := .inspected (evaluationPolicy inputs.policy next) now }
      | _ => none
  | .evaluateCopy =>
      match s.pc with
      | .inspected next now => some { s with pc := .copied (evaluationCopied s.status now next) }
      | _ => none
  | .evaluatePublish =>
      match s.pc with
      | .copied next => some { s with status := next, pc := .evaluated }
      | _ => none
  | .executeSnapshot =>
      match s.pc with
      | .evaluated =>
          let skip := ¬s.status.executionPreflightReady ∨ ¬s.status.eligible ∨
            s.status.attempt.attemptInProgress
          some { s with pc := if skip then .waiting else .ready }
      | _ => none
  | .executeRead timeAvailable =>
      match s.pc with
      | .ready => some { s with pc := if timeAvailable ∧ 0 < s.time then .timed s.time else .waiting }
      | _ => none
  | .executeAcquire =>
      match s.pc with
      | .timed now =>
          match attemptAcquired now s.status with
          | none => some { s with pc := .waiting }
          | some status => some { s with status := status, pc := .acquired now }
      | _ => none
  | .recordAttempt =>
      match s.pc with
      | .acquired now => some { s with pc := .storing now (attemptRecord s.status.attempt true) }
      | _ => none
  | .storeAttempt outcome =>
      match s.pc with
      | .storing now record =>
          let (ok, nvs) := storeRenewalAttemptRecord s.nvs record outcome
          some { s with nvs := nvs, pc := if ok then .stored now else .refused }
      | _ => none
  | .refuse =>
      match s.pc with
      | .refused => some { s with status := attemptRefused s.status, pc := .waiting }
      | _ => none
  | .prepare outcome =>
      match s.pc with
      | .stored now =>
          match outcome with
          | .error result => some { s with pc := .finished result .zero }
          | .ok leaf =>
              some { s.publish (.intent ⟨true, false, now, leaf, []⟩ "pending_target_unknown") with
                pc := .starting now }
      | _ => none
  | .startTransaction =>
      match s.pc with
      | .starting now =>
          some { s with starts := ⟨now, s.time, s.nvs⟩ :: s.starts, pc := .running }
      | _ => none
  | .endTransaction result transaction =>
      match s.pc with
      | .running => some { s with pc := .finished result transaction }
      | _ => none
  | .complete =>
      match s.pc with
      | .finished result transaction =>
          some { s with status := attemptCompleted result transaction s.status, pc := .completed }
      | _ => none
  | .recordFinal =>
      match s.pc with
      | .completed => some { s with pc := .storingFinal (attemptRecord s.status.attempt false) }
      | _ => none
  | .storeFinal outcome =>
      match s.pc with
      | .storingFinal record =>
          some { s with nvs := (storeRenewalAttemptRecord s.nvs record outcome).2, pc := .waiting }
      | _ => none

def RenewalSystem.unpowered (time : Int) (nvs : Option RenewalAttemptRecord) : RenewalSystem :=
  ⟨time, .zero, nvs, .off, [], .zero⟩

end NtsTimeServer.Model
