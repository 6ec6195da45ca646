import NtsTimeServer.Model.AcmeOrder
import NtsTimeServer.Model.Cloudflare

/-!
# The certificate transaction

`acme_client_run_production_certificate_transaction` of `acme_client.c` over its two hooks, and the hooks
that `web_console.c` gives it for a renewal.
-/

namespace NtsTimeServer.Model
open Lib Interaction

inductive TransactionStage
  | none | account | order | dns01Prepare | challenge | finalize | dns01Cleanup | complete
  deriving DecidableEq, Repr

structure ProductionTransactionStatus where
  stage : TransactionStage
  primaryResult : EspErr
  cleanupResult : EspErr
  dns01Prepared : Bool
  cleanupAttempted : Bool
  completed : Bool
  account : AcmeAccountStatus
  order : AcmeOrderDiscovery
  validation : AcmeChallengeValidation
  certificate : AcmeCertificateIssueStatus

def ProductionTransactionStatus.zero : ProductionTransactionStatus :=
  ⟨.none, .ok, .ok, false, false, false, .zero, .zero, .zero, .zero⟩

structure Dns01Hooks (γ : Type) where
  prepareDns01 : AcmeOrderDiscovery → γ → Issuance (EspErr × γ)
  cleanupDns01 : AcmeOrderDiscovery → γ → Issuance (EspErr × γ)

def withOutput {Out : Type} (program : Acme (EspErr × Out) Out) : Issuance (EspErr × Out) := do
  let result ← program.run
  match result with
  | .ok out => return (.ok, out)
  | .error failed => return failed

def challengeAndFinalize (out : ProductionTransactionStatus) : Issuance (EspErr × ProductionTransactionStatus) := do
  let out := { out with stage := .challenge }
  let (err, validation) ← withOutput (acmeClientValidateProductionDns01 out.order)
  let out := { out with validation }
  if err ≠ .ok then return (err, out)
  else if ¬validation.valid then return (.invalidResponse, out)
  else
    let out := { out with stage := .finalize }
    let (err, certificate) ← withOutput (acmeClientFinalizeProductionOrder out.order)
    let out := { out with certificate }
    if err = .ok ∧ ¬(certificate.finalized ∧ certificate.certificateRetrieved ∧ certificate.stored) then
      return (.invalidResponse, out)
    else return (err, out)

def cleanUp {γ : Type} (hooks : Dns01Hooks γ) (err : EspErr) (out : ProductionTransactionStatus) (context : γ) :
    Issuance (EspErr × ProductionTransactionStatus × γ) := do
  let out := { out with primaryResult := err, stage := .dns01Cleanup, cleanupAttempted := true }
  let (cleanupResult, context) ← hooks.cleanupDns01 out.order context
  let out := { out with cleanupResult }
  if err = .ok ∧ cleanupResult ≠ .ok then return (cleanupResult, out, context)
  else if err ≠ .ok then return (err, out, context)
  else return (.ok, { out with stage := .complete, completed := true, primaryResult := .ok }, context)

def acmeClientRunProductionCertificateTransaction {γ : Type} (hostname : Bytes) (hooks : Dns01Hooks γ)
    (context : γ) : Issuance (EspErr × ProductionTransactionStatus × γ) := do
  let out := ProductionTransactionStatus.zero
  if ¬dnsNameIsValid hostname then return (.invalidArg, out, context)
  else
    let out := { out with stage := .account, primaryResult := .fail }
    let (err, account) ← withOutput acmeClientProvisionProductionAccount
    let out := { out with account }
    if err ≠ .ok then return (err, { out with primaryResult := err }, context)
    else
      let out := { out with stage := .order }
      let (err, order) ← withOutput (acmeClientDiscoverProductionOrder hostname)
      let out := { out with order }
      if err ≠ .ok then return (err, { out with primaryResult := err }, context)
      else
        let out := { out with stage := .dns01Prepare }
        let (err, context) ← hooks.prepareDns01 order context
        if err ≠ .ok then return (err, { out with primaryResult := err }, context)
        else
          let (err, out) ← challengeAndFinalize { out with dns01Prepared := true }
          cleanUp hooks err out context

/-! ## The hooks of a renewal -/

structure RenewalDns01Context where
  credentials : CloudflareCredentials
  recordId : Bytes
  recordCreated : Bool

def renewalDns01Prepare (order : AcmeOrderDiscovery) (dns : RenewalDns01Context) :
    Issuance (EspErr × RenewalDns01Context) := do
  let created ← (cloudflareClientCreateDns01Txt dns.credentials order.dns01RecordName order.dns01Value).run
  match created with
  | .error (err, _) => return (err, { dns with recordId := [] })
  | .ok recordId =>
      let dns := { dns with recordId, recordCreated := true }
      let verified ← (cloudflareClientVerifyDns01TxtContent dns.credentials recordId order.dns01RecordName
        order.dns01Value).run
      match verified with
      | .error (err, _) =>
          -- a partial prepare removes its own record
          let deleted ← (cloudflareClientDeleteDns01TxtContent dns.credentials recordId
            order.dns01RecordName order.dns01Value).run
          match deleted with
          | .ok _ => return (err, { dns with recordCreated := false, recordId := [] })
          | .error _ => return (err, dns)
      | .ok _ =>
          Issuance.taskDelay 10000
          return (.ok, dns)

def renewalDns01Cleanup (order : AcmeOrderDiscovery) (dns : RenewalDns01Context) :
    Issuance (EspErr × RenewalDns01Context) := do
  if ¬dns.recordCreated then return (.ok, dns)
  else
    let deleted ← (cloudflareClientDeleteDns01TxtContent dns.credentials dns.recordId order.dns01RecordName
      order.dns01Value).run
    match deleted with
    | .error (err, _) => return (err, dns)
    | .ok _ => return (.ok, { dns with recordCreated := false, recordId := [] })

def renewalHooks : Dns01Hooks RenewalDns01Context := ⟨renewalDns01Prepare, renewalDns01Cleanup⟩

def renewalTransaction (hostname : Bytes) (credentials : CloudflareCredentials) :
    Issuance (EspErr × ProductionTransactionStatus × RenewalDns01Context) :=
  acmeClientRunProductionCertificateTransaction hostname renewalHooks ⟨credentials, [], false⟩

end NtsTimeServer.Model
