import NtsTimeServer.Model.RenewalScheduler
import NtsTimeServer.Model.DeviceConfig

/-!
# The records of the TLS activation in NVS

The intent, the outcome and the handoff of an automatic activation, each a blob of its own key, and what
`web_console.c` publishes of them. A record holds its fingerprints as the text before the first zero.
-/

namespace NtsTimeServer.Model
open Lib

def tlsActivationIntentRecordVersion : UInt32 := 1
def tlsActivationOutcomeRecordVersion : UInt32 := 1
def tlsHandoffRecordVersion : UInt32 := 1
def tlsHandoffRetrySeconds : Int := 6 * 60 * 60
def leafSha256Size : Nat := 65

/-- A blob with the layout of a record: its length, the version at its front, and whether the last byte
of every fingerprint is zero. -/
structure TlsBlob (α : Type) where
  length : Nat
  version : UInt32
  terminated : Bool
  record : α
  deriving DecidableEq, Repr

/-- `nvs_get_blob` into a record of `size` bytes, and the checks of what was read. -/
def TlsBlob.read {α : Type} (size : Nat) (version : UInt32) (checksTerminators : Bool)
    (blob : TlsBlob α) : Except EspErr α :=
  if size < blob.length then .error .nvsInvalidLength
  else if blob.length ≠ size ∨ blob.version ≠ version ∨ (checksTerminators ∧ ¬blob.terminated) then
    .error .invalidVersion
  else .ok blob.record

/-- How NVS answers a read, where `ESP_ERR_NVS_NOT_FOUND` is a blob that is absent, and a write. -/
structure RecordAnswers where
  read : EspErr
  write : StoreOutcome
  deriving DecidableEq, Repr

def StoreOutcome.err : StoreOutcome → EspErr
  | .stored => .ok
  | .failed _ => .fail

def StoreOutcome.durable : StoreOutcome → Bool
  | .stored => true
  | .failed durable => durable

structure TlsRecords where
  intent : Option (TlsBlob TlsIntentRecord)
  outcome : Option (TlsBlob TlsOutcomeRecord)
  handoff : Option (TlsBlob TlsHandoffRecord)
  status : TlsStatus
  deriving DecidableEq, Repr

def TlsRecords.publish (update : TlsPublish) (s : TlsRecords) : TlsRecords :=
  { s with status := update.apply s.status }

/-! ## The handoff -/

def TlsHandoffRecord.zero : TlsHandoffRecord := ⟨false, false, 0, 0, 0, []⟩

def TlsHandoffRecord.size : Nat := 104

def TlsHandoffRecord.blob (record : TlsHandoffRecord) : TlsBlob TlsHandoffRecord :=
  ⟨TlsHandoffRecord.size, tlsHandoffRecordVersion, true, record⟩

def tlsHandoffWrite (record : TlsHandoffRecord) (write : StoreOutcome) (s : TlsRecords) :
    EspErr × TlsRecords :=
  let stored := { s with handoff := if write.durable then some record.blob else s.handoff }
  if write.err = .ok then (.ok, stored.publish (.handoff record)) else (write.err, stored)

def tlsHandoffRead (err : EspErr) (s : TlsRecords) : Except EspErr TlsHandoffRecord :=
  if err ≠ .ok then .error err
  else match s.handoff with
    | none => .ok .zero
    | some blob => blob.read TlsHandoffRecord.size tlsHandoffRecordVersion true

/-- The reading `now` is 0 where the time is not available. -/
def tlsHandoffLoadAndReconcile (now : Int) (nvs : RecordAnswers) (s : TlsRecords) : EspErr × TlsRecords :=
  match tlsHandoffRead nvs.read s with
  | .error err => (err, s)
  | .ok record =>
      if record.inProgress then
        let retry := if now > 0 ∧ record.retryNotBeforeUnix < now + tlsHandoffRetrySeconds then
          now + tlsHandoffRetrySeconds else record.retryNotBeforeUnix
        tlsHandoffWrite
          { record with inProgress := false, recoveredInterrupted := true, retryNotBeforeUnix := retry }
          nvs.write s
      else (.ok, s.publish (.handoff record))

def tlsHandoffBegin (targetLeafSha256 : Bytes) (now : Int) (nvs : RecordAnswers) (s : TlsRecords) :
    EspErr × TlsRecords :=
  if targetLeafSha256 = [] ∨ now ≤ 0 then (.invalidArg, s)
  else match tlsHandoffRead nvs.read s with
    | .error err => (err, s)
    | .ok record =>
        if record.inProgress then (.invalidState, s)
        else if record.retryNotBeforeUnix > 0 ∧ now < record.retryNotBeforeUnix then (.timeout, s)
        else tlsHandoffWrite
          { inProgress := true
            recoveredInterrupted := false
            attemptCount := record.attemptCount + 1
            startedUnix := now
            retryNotBeforeUnix := now + tlsHandoffRetrySeconds
            targetLeafSha256 := formatted leafSha256Size targetLeafSha256 } nvs.write s

def TlsHandoffRecord.finished (success : Bool) (now : Int) (record : TlsHandoffRecord) :
    TlsHandoffRecord :=
  let record := { record with inProgress := false, recoveredInterrupted := false }
  if success then { record with retryNotBeforeUnix := 0, targetLeafSha256 := [] }
  else if now > 0 then { record with retryNotBeforeUnix := now + tlsHandoffRetrySeconds }
  else record

def tlsHandoffFinish (success : Bool) (now : Int) (nvs : RecordAnswers) (s : TlsRecords) :
    EspErr × TlsRecords :=
  match tlsHandoffRead nvs.read s with
  | .error err => (err, s)
  | .ok record => tlsHandoffWrite (record.finished success now) nvs.write s

/-! ## The outcome -/

def TlsOutcomeRecord.size : Nat := 152

def TlsOutcomeRecord.blob (record : TlsOutcomeRecord) : TlsBlob TlsOutcomeRecord :=
  ⟨TlsOutcomeRecord.size, tlsActivationOutcomeRecordVersion, true, record⟩

def tlsActivationOutcomeStore (success lkgRestored : Bool) (transitionResult : EspErr)
    (targetLeafSha256 runningLeafSha256 : Bytes) (completedUnix : Int) (write : StoreOutcome)
    (s : TlsRecords) : EspErr × TlsRecords :=
  let record : TlsOutcomeRecord :=
    { resultValid := true
      success := success
      lkgRestored := lkgRestored
      completedUnix := completedUnix
      transitionResult := transitionResult
      targetLeafSha256 := formatted leafSha256Size targetLeafSha256
      runningLeafSha256 := formatted leafSha256Size runningLeafSha256 }
  let stored := { s with outcome := if write.durable then some record.blob else s.outcome }
  if write.err = .ok then (.ok, stored.publish (.outcome record)) else (write.err, stored)

/-! ## The intent -/

def TlsIntentRecord.zero : TlsIntentRecord := ⟨false, false, 0, [], []⟩

def TlsIntentRecord.size : Nat := 152

def TlsIntentRecord.blob (record : TlsIntentRecord) : TlsBlob TlsIntentRecord :=
  ⟨TlsIntentRecord.size, tlsActivationIntentRecordVersion, true, record⟩

def TlsIntentRecord.terminated (record : TlsIntentRecord) : TlsIntentRecord :=
  { record with
    previousLeafSha256 := formatted leafSha256Size record.previousLeafSha256
    targetLeafSha256 := formatted leafSha256Size record.targetLeafSha256 }

def loadTlsActivationIntent (err : EspErr) (s : TlsRecords) : Except EspErr TlsIntentRecord :=
  if err ≠ .ok then .error err
  else match s.intent with
    | none => .ok .zero
    | some blob =>
        (blob.read TlsIntentRecord.size tlsActivationIntentRecordVersion false).map
          TlsIntentRecord.terminated

/-- `acme_client_store_tls_activation_intent`, and what a caller publishes where it returns `ESP_OK`. -/
def storeTlsActivationIntent (record : TlsIntentRecord) (result : String) (write : StoreOutcome)
    (s : TlsRecords) : EspErr × TlsRecords :=
  let stored := { s with intent := if write.durable then some record.blob else s.intent }
  if write.err = .ok then (.ok, stored.publish (.intent record result)) else (write.err, stored)

def tlsActivationIntentClear (bootReconciled : Bool) (write : StoreOutcome) (s : TlsRecords) :
    EspErr × TlsRecords :=
  storeTlsActivationIntent { TlsIntentRecord.zero with bootReconciled := bootReconciled }
    (if bootReconciled then "resolved_on_boot" else "cleared_no_replacement") write s

def tlsActivationIntentBegin (previousLeafSha256 : Bytes) (now : Int) (write : StoreOutcome)
    (s : TlsRecords) : EspErr × TlsRecords :=
  if previousLeafSha256 = [] then (.invalidArg, s)
  else storeTlsActivationIntent
    { TlsIntentRecord.zero with
      pending := true
      createdUnix := now
      previousLeafSha256 := formatted leafSha256Size previousLeafSha256 }
    "pending_target_unknown" write s

def tlsActivationIntentSetTarget (targetLeafSha256 : Bytes) (nvs : RecordAnswers) (s : TlsRecords) :
    EspErr × TlsRecords :=
  if targetLeafSha256 = [] then (.invalidArg, s)
  else match loadTlsActivationIntent nvs.read s with
    | .error err => (err, s)
    | .ok record =>
        if ¬record.pending then (.invalidState, s)
        else storeTlsActivationIntent
          { record with targetLeafSha256 := formatted leafSha256Size targetLeafSha256 }
          "pending_runtime_handoff" nvs.write s

inductive WebTlsSource
  | embedded | storedTest | production
  deriving DecidableEq, Repr

/-- With the credential that is running, of which `activeLeafSha256` is empty where it is not known. -/
def tlsActivationIntentLoadAndReconcile (source : WebTlsSource) (activeLeafSha256 : Bytes)
    (nvs : RecordAnswers) (s : TlsRecords) : EspErr × TlsRecords :=
  match loadTlsActivationIntent nvs.read s with
  | .error err => (err, s)
  | .ok record =>
      if ¬record.pending then
        (.ok, s.publish (.intent record (if record.bootReconciled then "resolved_on_boot" else "none")))
      else
        let known := source = .production ∧ activeLeafSha256 ≠ []
        if known ∧ record.targetLeafSha256 ≠ [] ∧ record.targetLeafSha256 = activeLeafSha256 then
          tlsActivationIntentClear true nvs.write s
        -- the power was lost after the selector commit, before the target was stored
        else if known ∧ record.targetLeafSha256 = [] ∧ record.previousLeafSha256 ≠ [] ∧
            record.previousLeafSha256 ≠ activeLeafSha256 then
          tlsActivationIntentClear true nvs.write s
        else if known ∧ record.targetLeafSha256 = [] ∧ record.previousLeafSha256 ≠ [] ∧
            record.previousLeafSha256 = activeLeafSha256 then
          tlsActivationIntentClear false nvs.write s
        else (.ok, s.publish (.intent record "pending_runtime_handoff"))

/-- What happens to the handoff record: `now` is none where the time is not available. -/
inductive TlsHandoffEvent
  | begin (targetLeafSha256 : Bytes) (now : Int) (nvs : RecordAnswers)
  | finish (success : Bool) (now : Option Int) (nvs : RecordAnswers)
  | reboot (now : Option Int) (nvs : RecordAnswers)
  deriving DecidableEq, Repr

structure TlsHandoffSystem where
  /-- the latest reading -/
  time : Int
  records : TlsRecords
  deriving DecidableEq, Repr

def TlsHandoffEvent.reading : TlsHandoffEvent → Option Int
  | .begin _ now _ => some now
  | .finish _ now _ => now
  | .reboot now _ => now

def TlsHandoffEvent.perform (s : TlsRecords) : TlsHandoffEvent → EspErr × TlsRecords
  | .begin targetLeafSha256 now nvs => tlsHandoffBegin targetLeafSha256 now nvs s
  | .finish success now nvs => tlsHandoffFinish success (now.getD 0) nvs s
  | .reboot now nvs => tlsHandoffLoadAndReconcile (now.getD 0) nvs { s with status := .zero }

/-- No reading is earlier than one before it. -/
def tlsHandoffStep (s : TlsHandoffSystem) (event : TlsHandoffEvent) : Option TlsHandoffSystem :=
  let time := event.reading.getD s.time
  if s.time ≤ time then some ⟨time, (event.perform s.records).2⟩ else none

end NtsTimeServer.Model
