import NtsTimeServer.Lib.Committing
import NtsTimeServer.Model.CertStore
import NtsTimeServer.Model.TlsTransition

/-!
# An automatic renewal, and a loss of power in it

`renewal_scheduler_execute_if_ready` of `web_console.c` from its inspection of the stored certificate to the
handoff, the handoffs that follow, and a boot. Every NVS call of the scheduler works until the power is lost.
-/

namespace NtsTimeServer.Model
open Lib

structure InspectionLibrary extends CertLibrary where
  /-- `mbedtls_x509_crt_parse` of a blob without a terminator -/
  parseUnterminated : Bytes → Option Bytes
  sha256 : Bytes → Bytes
  sha256_length : ∀ bytes, (sha256 bytes).length = 32

def InspectionLibrary.parseBlob (lib : InspectionLibrary) (pem : Bytes) : Option Bytes :=
  if pem.getLast? = some 0 then lib.parseChain pem.dropLast else lib.parseUnterminated pem

def hex : Bytes :=
  [0x30, 0x31, 0x32, 0x33, 0x34, 0x35, 0x36, 0x37, 0x38, 0x39, 0x61, 0x62, 0x63, 0x64, 0x65, 0x66]

def fingerprintHex (digest : Bytes) : Bytes :=
  digest.flatMap fun byte => [hex.getD (byte.toNat / 16) 0, hex.getD (byte.toNat % 16) 0]

/-- The leaf of stored material, where the inspection returns `ESP_OK`: then the certificate is parsed, and
its name and its key match. -/
def inspectMaterial (lib : InspectionLibrary) (stored : StoredMaterial) : Except EspErr Bytes :=
  match loadMaterialByNames stored with
  | .error err => .error err
  | .ok material =>
      match lib.parseBlob material.pem with
      | none => .error .invalidResponse
      | some der =>
          if ¬lib.importKey material.key.bytes then .error .fail
          else match lib.exportPublicKey material.key.bytes with
            | none => .error .fail
            | some publicKey =>
                if publicKey.length ≠ 65 ∨ publicKey.head? ≠ some 0x04 then .error .fail
                else if ¬derContainsDnsSan der material.host ∨ ¬bytesContain der publicKey then
                  .error .invalidState
                else .ok (fingerprintHex (lib.sha256 der))

def inspectStoredProductionCertificate (lib : InspectionLibrary) : Committing CertNvs (Except EspErr Bytes) :=
  fun nvs =>
    let (resolved, batches) := resolveProductionSlot lib.toCertLibrary nvs
    match resolved with
    | .error err => (.error err, batches)
    | .ok slot => (inspectMaterial lib ((commitAll batches nvs).slot slot), batches)

/-! ## The scheduler's part -/

structure Device where
  certs : CertNvs
  web : WebTls

def Device.setCerts (certs : CertNvs) (d : Device) : Device := { d with certs := certs }

def Device.setRecords (records : TlsRecords) (d : Device) : Device :=
  { d with web := { d.web with records := records } }

def recordCall (call : TlsRecords → EspErr × TlsRecords) : Committing Device EspErr := do
  let err ← Committing.read fun d => (call d.web.records).1
  Committing.commit fun d => d.setRecords (call d.web.records).2
  return err

/-- What the attempt gets from outside: the time, whether the checks after the inspection pass, and what the
transaction has to store, if it comes to that. -/
structure RenewalInputs where
  now : Int
  configured : Bool
  issued : Option CertMaterial

/-- Whether `acme_client_run_production_certificate_transaction` stores a certificate. -/
def productionTransaction (lib : InspectionLibrary) (inputs : RenewalInputs) : Committing Device Bool :=
  match inputs.issued with
  | none => return false
  | some material => do
      let err ← Committing.within Device.certs Device.setCerts fun nvs =>
        storeCertificateMaterial lib.toCertLibrary nvs material
      return err == .ok

/-- `renewal_scheduler_execute_if_ready` with the attempt lock: whether it comes to
`tls_activation_schedule_pending_target`. -/
def renewalExecute (lib : InspectionLibrary) (inputs : RenewalInputs) : Committing Device Bool := do
  let inspection ← Committing.within Device.certs Device.setCerts (inspectStoredProductionCertificate lib)
  match inspection with
  | .error _ => return false
  | .ok leafSha256 =>
      if ¬inputs.configured then return false
      else
        let err ← recordCall (tlsActivationIntentBegin leafSha256 inputs.now .stored)
        if err ≠ .ok then return false
        else
          let stored ← productionTransaction lib inputs
          if stored then
            let replacement ← Committing.within Device.certs Device.setCerts
              (inspectStoredProductionCertificate lib)
            match replacement with
            | .error _ => return false
            | .ok replacement =>
                let err ← recordCall (tlsActivationIntentSetTarget replacement ⟨.ok, .stored⟩)
                return err == .ok
          else
            let _ ← recordCall (tlsActivationIntentClear false .stored)
            return false

/-- The answers at the calls of `tls_activation_schedule_pending_target`; the time is 0 where there is
none. -/
structure ScheduleAnswers where
  intentRead : EspErr
  inspect : EspErr
  candidateMatches : Bool
  candidateLeafSha256 : Bytes
  preflightReady : Bool
  now : Int
  begin : RecordAnswers
  created : Bool
  finish : RecordAnswers

def tlsActivationSchedulePendingTarget (answers : ScheduleAnswers) (w : WebTls) : EspErr × WebTls :=
  match loadTlsActivationIntent answers.intentRead w.records with
  | .error err => (err, w)
  | .ok intent =>
      if ¬intent.pending ∨ intent.targetLeafSha256 = [] then (.invalidState, w)
      else if w.source ≠ .production ∨ w.activeServerLeafSha256 = [] then (.invalidState, w)
      else if answers.inspect ≠ .ok then (answers.inspect, w)
      else if ¬answers.candidateMatches ∨ answers.candidateLeafSha256 ≠ intent.targetLeafSha256 then
        (.invalidState, w)
      else if ¬answers.preflightReady then (.invalidState, w)
      else if answers.now ≤ 0 then (.invalidState, w)
      else
        let (err, records) := tlsHandoffBegin intent.targetLeafSha256 answers.now answers.begin w.records
        if err ≠ .ok then (err, { w with records := records })
        else
          let unscheduled := (tlsHandoffFinish false answers.now answers.finish records).2
          if w.transitionPending then (.invalidState, { w with records := unscheduled })
          else if ¬answers.created then (.noMem, { w with records := unscheduled })
          else (.ok, { w with
            transitionPending := true
            transitionAutomatic := true
            records := records.publish (.reconciliation "runtime_handoff_scheduled") })

structure HandoffAnswers where
  schedule : ScheduleAnswers
  transition : TransitionAnswers

def handoff (answers : HandoffAnswers) (w : WebTls) : WebTls :=
  let (err, w) := tlsActivationSchedulePendingTarget answers.schedule w
  if err = .ok then tlsTransitionTask .production answers.transition w else w

/-! ## A loss of power -/

/-- A write of the given number, with the power for the first `writes` of them. -/
def StoreOutcome.powered (writes number : Nat) (outcome : StoreOutcome) : StoreOutcome :=
  if number < writes then outcome else .failed false

def HandoffAnswers.powered (writes : Nat) (answers : HandoffAnswers) : HandoffAnswers :=
  let { schedule, transition } := answers
  { schedule :=
      { schedule with
        begin := { schedule.begin with write := schedule.begin.write.powered writes 0 }
        finish := { schedule.finish with write := schedule.finish.write.powered writes 1 } }
    transition :=
      { transition with
        preference := { transition.preference with
          write := transition.preference.write.powered writes 1 }
        intentClear := transition.intentClear.powered writes 2
        restorePreference := { transition.restorePreference with
          write := transition.restorePreference.write.powered writes 2 }
        fallbackPreference := { transition.fallbackPreference with
          write := transition.fallbackPreference.write.powered writes 2 }
        outcome := transition.outcome.powered writes 3
        handoff := { transition.handoff with write := transition.handoff.write.powered writes 4 } } }

/-- What NVS can hold when the power is lost in a renewal: in the scheduler's part, or in the last of the
handoffs for its target. -/
inductive PowerLost (lib : InspectionLibrary) (inputs : RenewalInputs) (d : Device) : Device → Prop
  | scheduler {t : Device} : Interrupted (renewalExecute lib inputs d).2 d t → PowerLost lib inputs d t
  | handoff {executed : Device} (earlier : List HandoffAnswers) (last : HandoffAnswers) (writes : Nat) :
      (renewalExecute lib inputs d).1 = true → commitAll (renewalExecute lib inputs d).2 d = executed →
      PowerLost lib inputs d { executed with
        web := handoff (last.powered writes) (earlier.foldl (fun w answers => handoff answers w)
          executed.web) }

/-! ## The boot -/

def WebTls.rebooted (w : WebTls) : WebTls where
  server := none
  started := false
  source := .embedded
  activeStoredCredentials := none
  activeServerLeafSha256 := []
  transitionPending := false
  transitionAutomatic := false
  bootSelected := w.bootSelected
  records := { w.records with status := .zero }

/-- The production credential starts. The inspection of the stored certificate after it may fail. -/
structure BootsProduction (lib : InspectionLibrary) (d : Device) (answers : ServerAnswers) (w : WebTls) :
    Prop where
  started : startHttpsServer .production answers d.web.rebooted = (.ok, w)
  inspected : answers.inspect = .ok →
    (inspectStoredProductionCertificate lib d.certs).1 = .ok answers.leafSha256

end NtsTimeServer.Model
