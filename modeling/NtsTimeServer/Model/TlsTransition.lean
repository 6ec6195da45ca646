import NtsTimeServer.Model.TlsActivation

/-!
# The TLS transition task

`tls_transition_task` of `web_console.c` stops the management server and starts it with another credential,
or with the one before, or with the embedded one. What it calls answers once at every place of a call;
`httpd_ssl_stop` stops the server.
-/

namespace NtsTimeServer.Model
open Lib

/-- `acme_tls_credentials_t`; none is the zero structure. -/
structure TlsCredentials where
  certificatePem : Bytes
  privateKeyPem : Bytes
  deriving DecidableEq, Repr

inductive ServerCredential
  | embedded
  | stored (credentials : TlsCredentials)
  deriving DecidableEq, Repr

structure WebTls where
  /-- `s_server`, by the credential of the running server -/
  server : Option ServerCredential
  started : Bool
  source : WebTlsSource
  activeStoredCredentials : Option TlsCredentials
  activeServerLeafSha256 : Bytes
  transitionPending : Bool
  transitionAutomatic : Bool
  bootSelected : Option UInt8
  records : TlsRecords
  deriving DecidableEq, Repr

/-- What a start of the server gets from the stored certificate (its load and its inspection) and from the
server library. -/
structure ServerAnswers where
  load : EspErr
  credentials : TlsCredentials
  sslStart : EspErr
  registerAllHandlers : EspErr
  inspect : EspErr
  leafSha256 : Bytes
  deriving DecidableEq, Repr

def ServerAnswers.launch (answers : ServerAnswers) : EspErr :=
  if answers.sslStart = .ok then answers.registerAllHandlers else answers.sslStart

def startHttpsServer (source : WebTlsSource) (answers : ServerAnswers) (w : WebTls) : EspErr × WebTls :=
  let stored := source = .storedTest ∨ source = .production
  if stored ∧ answers.load ≠ .ok then (answers.load, w)
  else if answers.launch ≠ .ok then (answers.launch, w)
  else (.ok, { w with
    server := some (if stored then .stored answers.credentials else .embedded)
    started := true
    source := source
    activeServerLeafSha256 :=
      if source = .production ∧ answers.inspect = .ok then formatted leafSha256Size answers.leafSha256
      else []
    activeStoredCredentials := if stored then some answers.credentials else w.activeStoredCredentials })

def startHttpsServerWithCredentials (source : WebTlsSource) (credentials : Option TlsCredentials)
    (knownLeafSha256 : Bytes) (answers : ServerAnswers) (w : WebTls) : EspErr × WebTls :=
  if source = .embedded then startHttpsServer .embedded answers w
  else match credentials with
    | none => (.invalidArg, w)
    | some credentials =>
        if answers.launch ≠ .ok then (answers.launch, w)
        else (.ok, { w with
          server := some (.stored credentials)
          started := true
          source := source
          activeStoredCredentials := some credentials
          activeServerLeafSha256 := formatted leafSha256Size knownLeafSha256 })

/-- The checks before the write are the start of the storage, the inspection of the stored certificate
where production is selected, and the handle. -/
structure PreferenceAnswers where
  checks : EspErr
  write : StoreOutcome
  deriving DecidableEq, Repr

def setProductionBootSelected (selected : Bool) (answers : PreferenceAnswers) (w : WebTls) :
    EspErr × WebTls :=
  if answers.checks ≠ .ok then (answers.checks, w)
  else (answers.write.err, { w with
    bootSelected := if answers.write.durable then some (if selected then 1 else 0) else w.bootSelected })

def stopServer (w : WebTls) : WebTls :=
  if w.server.isSome then { w with server := none, started := false } else w

/-- The answers at every call of the task, in its order; a time is 0 where there is none. -/
structure TransitionAnswers where
  intentSnapshot : EspErr
  start : ServerAnswers
  preference : PreferenceAnswers
  intentRead : EspErr
  intentClear : StoreOutcome
  restore : ServerAnswers
  restorePreference : PreferenceAnswers
  fallbackPreference : PreferenceAnswers
  fallback : ServerAnswers
  outcomeCompleted : Int
  outcome : StoreOutcome
  handoffDone : Int
  handoff : RecordAnswers
  failedIntentRead : EspErr
  deriving DecidableEq, Repr

def automaticTargetLeafSha256 (automatic : Bool) (snapshot : EspErr) (s : TlsRecords) : Bytes :=
  if automatic then
    match loadTlsActivationIntent snapshot s with
    | .error _ => []
    | .ok intent => if intent.pending then formatted leafSha256Size intent.targetLeafSha256 else []
  else []

def transitionStopped (w : WebTls) : WebTls :=
  { stopServer { w with
      activeStoredCredentials := if w.source = .embedded then w.activeStoredCredentials else none } with
    activeServerLeafSha256 := [] }

/-- The start with the target credential and the boot preference that goes with it. -/
def transitionStarted (target : WebTlsSource) (answers : TransitionAnswers) (w : WebTls) :
    EspErr × WebTls :=
  let (err, w) := startHttpsServer target answers.start w
  if err ≠ .ok then (err, w)
  else match target with
    | .production => setProductionBootSelected true answers.preference w
    | .embedded => setProductionBootSelected false answers.preference w
    | .storedTest => (.ok, w)

def activatedIntentCleared (answers : TransitionAnswers) (w : WebTls) : WebTls :=
  match loadTlsActivationIntent answers.intentRead w.records with
  | .error _ => w
  | .ok intent =>
      if intent.pending ∧ intent.targetLeafSha256 ≠ [] ∧
          intent.targetLeafSha256 = w.activeServerLeafSha256 then
        let (err, records) := tlsActivationIntentClear false answers.intentClear w.records
        { w with
          records := if err = .ok then records.publish (.reconciliation "activated_runtime") else records }
      else w

def transitionRecorded (success lkgRestored : Bool) (result : EspErr) (automaticTarget : Bytes)
    (answers : TransitionAnswers) (w : WebTls) : WebTls :=
  let (_, records) := tlsActivationOutcomeStore success lkgRestored result automaticTarget
    w.activeServerLeafSha256 answers.outcomeCompleted answers.outcome w.records
  { w with records := (tlsHandoffFinish success answers.handoffDone answers.handoff records).2 }

def transitionSucceeded (target : WebTlsSource) (automatic : Bool) (automaticTarget : Bytes)
    (answers : TransitionAnswers) (w : WebTls) : WebTls :=
  let w := if target = .production ∧ w.activeServerLeafSha256 ≠ [] then activatedIntentCleared answers w
    else w
  if target = .production ∧ automatic then transitionRecorded true false .ok automaticTarget answers w
  else w

/-- The server with the previous credential, or else with the embedded one; `rollback_err` is the error of
the last start. -/
def transitionRolledBack (previousSource : WebTlsSource) (previousCredentials : Option TlsCredentials)
    (previousLeaf : Bytes) (answers : TransitionAnswers) (w : WebTls) : EspErr × WebTls :=
  let w := stopServer w
  let w := { w with
    activeStoredCredentials := if w.source = .embedded then w.activeStoredCredentials else none
    activeServerLeafSha256 := [] }
  let (rollbackErr, w) :=
    if previousSource = .embedded then startHttpsServer .embedded answers.restore w
    else startHttpsServerWithCredentials previousSource previousCredentials previousLeaf answers.restore w
  if rollbackErr = .ok then
    let (_, w) := setProductionBootSelected (previousSource = .production) answers.restorePreference w
    (rollbackErr, w)
  else
    let (_, w) := setProductionBootSelected false answers.fallbackPreference w
    startHttpsServer .embedded answers.fallback w

def transitionFailed (target : WebTlsSource) (automatic : Bool) (automaticTarget : Bytes) (err : EspErr)
    (previousSource : WebTlsSource) (previousCredentials : Option TlsCredentials) (previousLeaf : Bytes)
    (answers : TransitionAnswers) (w : WebTls) : WebTls :=
  let (rollbackErr, w) := transitionRolledBack previousSource previousCredentials previousLeaf answers w
  let w := if target = .production ∧ automatic then
      let lkgRestored := rollbackErr == .ok
      transitionRecorded false lkgRestored err automaticTarget answers w
    else w
  match loadTlsActivationIntent answers.failedIntentRead w.records with
  | .error _ => w
  | .ok failedIntent =>
      if failedIntent.pending then
        { w with records := w.records.publish (.reconciliation "activation_failed_lkg_restored") }
      else w

def tlsTransitionTask (target : WebTlsSource) (answers : TransitionAnswers) (w : WebTls) : WebTls :=
  let automatic := w.transitionAutomatic
  let previousSource := w.source
  let automaticTarget := automaticTargetLeafSha256 automatic answers.intentSnapshot w.records
  let previousLeaf := formatted leafSha256Size w.activeServerLeafSha256
  let previousCredentials := if previousSource = .embedded then none else w.activeStoredCredentials
  let (err, w) := transitionStarted target answers (transitionStopped w)
  let w :=
    if err = .ok then transitionSucceeded target automatic automaticTarget answers w
    else transitionFailed target automatic automaticTarget err previousSource previousCredentials
      previousLeaf answers w
  { w with
    transitionAutomatic := if automatic then false else w.transitionAutomatic
    transitionPending := false }

end NtsTimeServer.Model
