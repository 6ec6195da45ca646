import NtsTimeServer.Model.AcmeRequest

/-!
# An ACME order

The order, its authorization and its certificate in `acme_client.c`. Where a response is refused, the
outputs that were read from it before are left out of the failure.
-/

namespace NtsTimeServer.Model
open Lib Interaction

structure AcmeOrderDiscovery where
  discovered : Bool
  newOrderHttpStatus : Int
  authorizationHttpStatus : Int
  identifier : Bytes
  orderUrl : Bytes
  authorizationUrl : Bytes
  finalizeUrl : Bytes
  challengeUrl : Bytes
  challengeToken : Bytes
  challengeStatus : Bytes
  dns01RecordName : Bytes
  dns01Value : Bytes
  deriving DecidableEq

def AcmeOrderDiscovery.zero : AcmeOrderDiscovery := ⟨false, 0, 0, [], [], [], [], [], [], [], [], []⟩

def extractFirstArrayString (json name : Bytes) (outputSize : Nat) : Option Bytes :=
  if outputSize < 2 then none
  else
    let key := 0x22 :: (name ++ [0x22])
    if key.length ≥ 64 then none
    else match findPattern key json with
      | none => none
      | some offset =>
          match skipWs (json.drop (offset + key.length)) with
          | [] => none
          | colon :: p =>
              if colon ≠ 0x3A then none
              else match skipWs p with
                | [] => none
                | bracket :: p =>
                    if bracket ≠ 0x5B then none
                    else match skipWs p with
                      | [] => none
                      | quote :: p => if quote ≠ 0x22 then none else copyString outputSize 0 p

def loadAccount (production : Bool) : Acme EspErr (Bytes × Bytes) := do
  let err ← Issuance.storageInit
  refuseIf (err ≠ .ok) err
  let privateKey ← acmeStorageLoadPrivateKey
  let kid ← failing (fun _ => .invalidState) (loadAccountUrl production)
  refuseIf (¬isHttpsUrl kid) .invalidState
  return (privateKey, kid)

def newOrderPayload (hostname : Bytes) : Bytes :=
  ascii "\x7b\"identifiers\":[\x7b\"type\":\"dns\",\"value\":\"" ++ hostname ++ ascii "\"\x7d]\x7d"

def placeOrder (directory : AcmeDirectoryStatus) (privateKey kid payload : Bytes) (out : AcmeOrderDiscovery) :
    Acme (EspErr × AcmeOrderDiscovery) AcmeOrderDiscovery := do
  let (response, status) ← failing (fun failed => (failed.1, { out with newOrderHttpStatus := failed.2 }))
    (signedRequest directory.newNonceUrl directory.newOrderUrl kid payload privateKey)
  let out := { out with newOrderHttpStatus := status }
  let json := cString response.data
  refuseIf (status ≠ 201 ∨ ¬isHttpsUrl response.location) (.invalidResponse, out)
  let finalizeUrl ← ofOption (.invalidResponse, out)
    (extractJsonString json (ascii "finalize") acmeUrlMaxLength)
  let authorizationUrl ← ofOption (.invalidResponse, out)
    (extractFirstArrayString json (ascii "authorizations") acmeUrlMaxLength)
  return { out with finalizeUrl, authorizationUrl, orderUrl := formatted acmeUrlMaxLength response.location }

def readAuthorization (directory : AcmeDirectoryStatus) (privateKey kid hostname : Bytes)
    (out : AcmeOrderDiscovery) : Acme (EspErr × AcmeOrderDiscovery) AcmeOrderDiscovery := do
  let (response, status) ← failing (fun failed => (failed.1, { out with authorizationHttpStatus := failed.2 }))
    (signedRequest directory.newNonceUrl out.authorizationUrl kid [] privateKey)
  let out := { out with authorizationHttpStatus := status }
  let json := cString response.data
  refuseIf (status ≠ 200) (.invalidResponse, out)
  let challenge ← ofOption (.invalidResponse, out)
    (extractDns01Challenge json acmeUrlMaxLength (acmeChallengeTokenMaxLength + 1) 24)
  let authIdentifier ← ofOption (.invalidResponse, out)
    (extractJsonString json (ascii "value") (acmeDnsNameMaxLength + 1))
  refuseIf (authIdentifier ≠ hostname ∨ ¬isHttpsUrl challenge.url) (.invalidResponse, out)
  return { out with
    challengeUrl := challenge.url, challengeToken := challenge.token, challengeStatus := challenge.status }

def challengeRecordName (hostname : Bytes) : Bytes := ascii "_acme-challenge." ++ hostname

def deriveDns01 (privateKey hostname : Bytes) (out : AcmeOrderDiscovery) :
    Acme EspErr AcmeOrderDiscovery := do
  let (_, thumbprint) ← buildJwkAndThumbprint privateKey
  let keyAuthorization ← ofOption .invalidSize
    (printed (acmeChallengeTokenMaxLength + acmeThumbprintLength + 2)
      (out.challengeToken ++ 0x2E :: thumbprint))
  let digest ← sha256Bytes keyAuthorization
  let dns01Value ← ofResult (base64urlString digest acmeThumbprintLength)
  let dns01RecordName ← ofOption .invalidSize
    (printed (acmeDnsNameMaxLength + 32) (challengeRecordName hostname))
  return { out with dns01Value, dns01RecordName, discovered := true }

def discoverOrderSync (production : Bool) (hostname : Bytes) :
    Acme (EspErr × AcmeOrderDiscovery) AcmeOrderDiscovery := do
  refuseIf (¬dnsNameIsValid hostname) (.invalidArg, .zero)
  let out := { AcmeOrderDiscovery.zero with identifier := formatted (acmeDnsNameMaxLength + 1) hostname }
  let (privateKey, kid) ← failing (·, out) (loadAccount production)
  let directory ← failing (·, out) (probeSync production)
  let payload ← ofOption (.invalidSize, out) (printed (acmeDnsNameMaxLength + 96) (newOrderPayload hostname))
  let response ← Issuance.calloc
  refuseIf (¬response) (.noMem, out)
  let out ← placeOrder directory privateKey kid payload out
  let out ← readAuthorization directory privateKey kid hostname out
  failing (·, out) (deriveDns01 privateKey hostname out)

/-! ## The challenge -/

structure AcmeChallengeValidation where
  triggered : Bool
  valid : Bool
  triggerHttpStatus : Int
  pollHttpStatus : Int
  pollCount : Nat
  authorizationStatus : Bytes
  challengeStatus : Bytes
  deriving DecidableEq

def AcmeChallengeValidation.zero : AcmeChallengeValidation := ⟨false, false, 0, 0, 0, [], []⟩

/-- The loop of `validate_dns01_sync` with some turns left. -/
def pollAuthorization (nonceUrl authorizationUrl kid privateKey : Bytes) :
    Nat → AcmeChallengeValidation → Acme (EspErr × AcmeChallengeValidation) AcmeChallengeValidation
  | 0, out => throw (.timeout, out)
  | left + 1, out => do
      Issuance.taskDelay 2000
      let attempt := out.pollCount + 1
      let (response, status) ← failing
        (fun failed => (failed.1, { out with pollHttpStatus := failed.2, pollCount := attempt }))
        (signedRequest nonceUrl authorizationUrl kid [] privateKey)
      let out := { out with pollHttpStatus := status, pollCount := attempt }
      refuseIf (status ≠ 200) (.invalidResponse, out)
      let parsed ← failing (·, out) (ofResult (parseAuthorizationStatus (cString response.data) 24 24))
      let out := { out with authorizationStatus := parsed.authorization, challengeStatus := parsed.challenge }
      if parsed.authorization = ascii "valid" then return { out with valid := true }
      else if parsed.authorization = ascii "invalid" ∨ parsed.challenge = ascii "invalid" then
        throw (.invalidResponse, out)
      else pollAuthorization nonceUrl authorizationUrl kid privateKey left out

def acmePollAttempts : Nat := 30

def triggerPayload : Bytes := ascii "\x7b\x7d"

def validateDns01Sync (production : Bool) (order : AcmeOrderDiscovery) :
    Acme (EspErr × AcmeChallengeValidation) AcmeChallengeValidation := do
  let out := AcmeChallengeValidation.zero
  refuseIf (¬order.discovered ∨ ¬isHttpsUrl order.challengeUrl ∨ ¬isHttpsUrl order.authorizationUrl)
    (.invalidArg, out)
  let (privateKey, kid) ← failing (·, out) (loadAccount production)
  let directory ← failing (·, out) (probeSync production)
  let response ← Issuance.calloc
  refuseIf (¬response) (.noMem, out)
  let (_, status) ← failing (fun failed => (failed.1, { out with triggerHttpStatus := failed.2 }))
    (signedRequest directory.newNonceUrl order.challengeUrl kid triggerPayload privateKey)
  let out := { out with triggerHttpStatus := status }
  refuseIf (status ≠ 200 ∧ status ≠ 202) (.invalidResponse, out)
  pollAuthorization directory.newNonceUrl order.authorizationUrl kid privateKey acmePollAttempts
    { out with triggered := true }

/-! ## The certificate -/

structure AcmeCertificateIssueStatus where
  finalized : Bool
  certificateRetrieved : Bool
  stored : Bool
  finalizeHttpStatus : Int
  orderPollHttpStatus : Int
  certificateHttpStatus : Int
  orderPollCount : Nat
  certificatePemLength : Nat
  identifier : Bytes
  orderStatus : Bytes
  certificateUrl : Bytes
  deriving DecidableEq

def AcmeCertificateIssueStatus.zero : AcmeCertificateIssueStatus :=
  ⟨false, false, false, 0, 0, 0, 0, 0, [], [], []⟩

def generateCertificateKey : Acme EspErr (Bytes × Bytes) := do
  let privateKey ← Issuance.generateKey
  let privateKey ← ofOption .fail privateKey
  let publicKey ← Issuance.publicKey privateKey
  let publicKey ← ofOption .fail publicKey
  refuseIf (privateKey.length ≠ 32 ∨ publicKey.length ≠ 65 ∨ publicKey.head? ≠ some 0x04) .fail
  return (privateKey, publicKey)

def finalizePayload (csr64 : Bytes) : Bytes := ascii "\x7b\"csr\":\"" ++ csr64 ++ ascii "\"\x7d"

def certificateRequest (identifier : Bytes) : Acme EspErr (Bytes × Bytes) := do
  let (certKey, publicKey) ← generateCertificateKey
  let (err, csr) ← Issuance.buildCsr identifier certKey publicKey
  refuseIf (err ≠ .ok) err
  let csr64 ← ofResult (base64urlString csr 1536)
  let payload ← ofOption .invalidSize (printed 1664 (finalizePayload csr64))
  return (certKey, payload)

/-- The loop of `finalize_order_sync` with some turns left. -/
def pollOrder (nonceUrl orderUrl kid privateKey : Bytes) :
    Nat → AcmeCertificateIssueStatus → Acme (EspErr × AcmeCertificateIssueStatus) AcmeCertificateIssueStatus
  | 0, out => throw (.timeout, out)
  | left + 1, out => do
      Issuance.taskDelay 2000
      let attempt := out.orderPollCount + 1
      let (response, status) ← failing
        (fun failed => (failed.1, { out with orderPollHttpStatus := failed.2, orderPollCount := attempt }))
        (signedRequest nonceUrl orderUrl kid [] privateKey)
      let out := { out with orderPollHttpStatus := status, orderPollCount := attempt }
      refuseIf (status ≠ 200) (.invalidResponse, out)
      let json := cString response.data
      let orderStatus ← ofOption (.invalidResponse, out) (extractJsonString json (ascii "status") 24)
      let out := { out with orderStatus }
      if orderStatus = ascii "valid" then
        let certificateUrl ← ofOption (.invalidResponse, out) (httpsMember json "certificate")
        return { out with certificateUrl }
      else if orderStatus = ascii "invalid" then throw (.invalidResponse, out)
      else pollOrder nonceUrl orderUrl kid privateKey left out

def beginCertificate : Bytes := ascii "-----BEGIN CERTIFICATE-----"

def retrieveCertificate (production : Bool) (nonceUrl kid accountKey certKey identifier : Bytes)
    (out : AcmeCertificateIssueStatus) :
    Acme (EspErr × AcmeCertificateIssueStatus) AcmeCertificateIssueStatus := do
  let (response, status) ← failing (fun failed => (failed.1, { out with certificateHttpStatus := failed.2 }))
    (signedRequest nonceUrl out.certificateUrl kid [] accountKey)
  let out := { out with certificateHttpStatus := status }
  refuseIf (status ≠ 200 ∨ response.data = [] ∨ findPattern beginCertificate (cString response.data) = none)
    (.invalidResponse, out)
  let out := { out with certificateRetrieved := true, certificatePemLength := response.data.length }
  let err ← Issuance.storeCertificate production identifier certKey response.data
  refuseIf (err ≠ .ok) (err, out)
  return { out with stored := true }

def finalizeOrderSync (production : Bool) (order : AcmeOrderDiscovery) :
    Acme (EspErr × AcmeCertificateIssueStatus) AcmeCertificateIssueStatus := do
  refuseIf (¬order.discovered ∨ ¬isHttpsUrl order.orderUrl ∨ ¬isHttpsUrl order.finalizeUrl ∨
    ¬dnsNameIsValid order.identifier) (.invalidArg, .zero)
  let out := { AcmeCertificateIssueStatus.zero with
    identifier := formatted (acmeDnsNameMaxLength + 1) order.identifier }
  let (accountKey, kid) ← failing (·, out) (loadAccount production)
  let (certKey, payload) ← failing (·, out) (certificateRequest order.identifier)
  let directory ← failing (·, out) (probeSync production)
  let response ← Issuance.calloc
  refuseIf (¬response) (.noMem, out)
  let (_, status) ← failing (fun failed => (failed.1, { out with finalizeHttpStatus := failed.2 }))
    (signedRequest directory.newNonceUrl order.finalizeUrl kid payload accountKey)
  let out := { out with finalizeHttpStatus := status }
  refuseIf (status ≠ 200) (.invalidResponse, out)
  let out ← pollOrder directory.newNonceUrl order.orderUrl kid accountKey acmePollAttempts
    { out with finalized := true }
  retrieveCertificate production directory.newNonceUrl kid accountKey certKey order.identifier out

/-- What `calloc` of a context and `run_worker` do with a function of the worker. -/
def withWorker {Out : Type} (zero : Out) (program : Acme (EspErr × Out) Out) : Acme (EspErr × Out) Out := do
  let context ← Issuance.calloc
  refuseIf (¬context) (.noMem, zero)
  let created ← Issuance.taskCreate
  refuseIf (¬created) (.noMem, zero)
  program

def acmeClientProvisionProductionAccount : Acme (EspErr × AcmeAccountStatus) AcmeAccountStatus :=
  withWorker .zero (provisionAccountSync true)

def acmeClientDiscoverProductionOrder (hostname : Bytes) :
    Acme (EspErr × AcmeOrderDiscovery) AcmeOrderDiscovery := do
  refuseIf (¬dnsNameIsValid hostname) (.invalidArg, .zero)
  withWorker .zero (discoverOrderSync true (formatted (acmeDnsNameMaxLength + 1) hostname))

def acmeClientValidateProductionDns01 (order : AcmeOrderDiscovery) :
    Acme (EspErr × AcmeChallengeValidation) AcmeChallengeValidation :=
  withWorker .zero (validateDns01Sync true order)

def acmeClientFinalizeProductionOrder (order : AcmeOrderDiscovery) :
    Acme (EspErr × AcmeCertificateIssueStatus) AcmeCertificateIssueStatus :=
  withWorker .zero (finalizeOrderSync true order)

end NtsTimeServer.Model
