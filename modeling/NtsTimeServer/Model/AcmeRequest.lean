import NtsTimeServer.Model.AcmeJson
import NtsTimeServer.Model.Base64url
import NtsTimeServer.Model.CertStore
import NtsTimeServer.Model.IssuanceCalls

/-!
# Requests to an ACME server

The part of `acme_client.c` below the order: the response buffer, the nonce, the signed request with its one
retry, the directory, the account key and the account. Strings are their bytes up to the terminator. A
failure carries what the caller finds in the outputs.
-/

namespace NtsTimeServer.Model
open Lib Interaction

def acmeStagingDirectoryUrl : Bytes := ascii "https://acme-staging-v02.api.letsencrypt.org/directory"
def acmeProductionDirectoryUrl : Bytes := ascii "https://acme-v02.api.letsencrypt.org/directory"
def acmeNonceMax : Nat := 256
def acmeJwkMax : Nat := 256
def acmeProtectedMax : Nat := 896
def acmeJwsMax : Nat := 3072
def acmeBadNonceMaxRetries : Nat := 1
def acmeThumbprintLength : Nat := 44
def acmeAccountPrivateKeyLength : Nat := 32

abbrev Acme (ε α : Type) := Fallible IssuanceCall IssuanceCall.Answer ε α

structure AcmeResponse where
  data : Bytes
  overflow : Bool
  replayNonce : Bytes
  location : Bytes
  deriving DecidableEq

def AcmeResponse.zero : AcmeResponse := ⟨[], false, [], []⟩

def copyHeader (destination : Bytes) (destinationSize : Nat) (data : Bytes) : Bytes :=
  if data.length = 0 ∨ data.length ≥ destinationSize then destination else data

/-- `http_event_handler` of `acme_client.c` -/
def acmeHttpEventHandler (response : AcmeResponse) : HttpEvent → AcmeResponse
  | .onHeader key value =>
      if lowercase key = ascii "replay-nonce" then
        { response with replayNonce := copyHeader response.replayNonce acmeNonceMax value }
      else if lowercase key = ascii "location" then
        { response with location := copyHeader response.location acmeUrlMaxLength value }
      else response
  | .onData data =>
      if data.length > acmeResponseMax - 1 - response.data.length then { response with overflow := true }
      else { response with data := response.data ++ data }

def HttpAnswer.err (answer : HttpAnswer) : EspErr :=
  if answer.setters = .ok then answer.perform else answer.setters

def HttpAnswer.received (answer : HttpAnswer) : List HttpEvent :=
  if answer.setters = .ok then answer.events else []

def HttpAnswer.response (answer : HttpAnswer) : AcmeResponse :=
  answer.received.foldl acmeHttpEventHandler .zero

def isHttpsUrl (url : Bytes) : Bool := (ascii "https://").isPrefixOf url

def header (key value : String) : Bytes × Bytes := (ascii key, ascii value)

def sha256Bytes (data : Bytes) : Acme EspErr Bytes := do
  let digest ← Issuance.sha256 data
  let digest ← ofOption .fail digest
  refuseIf (digest.length ≠ 32) .fail
  return digest

def signEs256 (privateKey digest : Bytes) : Acme EspErr Bytes := do
  let signature ← Issuance.signHash privateKey digest
  let signature ← ofOption .fail signature
  refuseIf (signature.length ≠ 64) .fail
  return signature

def base64urlString (input : Bytes) (outputSize : Nat) : Except EspErr Bytes :=
  match base64url input (List.replicate outputSize 0) with
  | .ok output => .ok (cString output)
  | .error (.error err) => .error err
  | .error .fault => .error .fail

def jwkText (x y : Bytes) : Bytes :=
  ascii "\x7b\"crv\":\"P-256\",\"kty\":\"EC\",\"x\":\"" ++ x ++ ascii "\",\"y\":\"" ++ y ++ ascii "\"\x7d"

def buildJwkAndThumbprint (privateKey : Bytes) : Acme EspErr (Bytes × Bytes) := do
  let publicKey ← Issuance.publicKey privateKey
  let publicKey ← ofOption .fail publicKey
  refuseIf (publicKey.length ≠ 65 ∨ publicKey.head? ≠ some 0x04) .fail
  let x ← ofResult (base64urlString ((publicKey.drop 1).take 32) 44)
  let y ← ofResult (base64urlString ((publicKey.drop 33).take 32) 44)
  let jwk ← ofOption .invalidSize (printed acmeJwkMax (jwkText x y))
  let digest ← sha256Bytes jwk
  let thumbprint ← ofResult (base64urlString digest acmeThumbprintLength)
  return (jwk, thumbprint)

/-! ## Signed requests -/

def getNonce (nonceUrl : Bytes) : Acme (EspErr × Int) Bytes := do
  let response ← Issuance.calloc
  refuseIf (¬response) (.noMem, 0)
  let answer ← Issuance.http ⟨.head, nonceUrl, [header "User-Agent" "esp32p4-ntp/phase5b8b"], none⟩
  refuseIf (¬answer.client) (.noMem, 0)
  refuseIf (answer.err ≠ .ok) (answer.err, answer.status)
  refuseIf (answer.status < 200 ∨ answer.status ≥ 400) (.invalidResponse, answer.status)
  refuseIf (answer.response.replayNonce = []) (.invalidResponse, answer.status)
  return answer.response.replayNonce

def jwsText (protected64 payload64 signature64 : Bytes) : Bytes :=
  ascii "\x7b\"protected\":\"" ++ protected64 ++ ascii "\",\"payload\":\"" ++ payload64 ++
    ascii "\",\"signature\":\"" ++ signature64 ++ ascii "\"\x7d"

def allocatedIf (allocate : Bool) : Issuance Bool := if allocate then Issuance.calloc else pure true

/-- What the two builders of a JWS have in common; `allocate` is for the signing input. -/
def buildJws (payloadSize signingInputSize : Nat) (allocate : Bool)
    (protectedJson payloadJson privateKey : Bytes) (outJwsSize : Nat) : Acme EspErr Bytes := do
  let protected64 ← ofResult (base64urlString protectedJson 1280)
  let payload64 ← ofResult (base64urlString payloadJson payloadSize)
  let allocated ← allocatedIf allocate
  refuseIf (¬allocated) .noMem
  let signingInput ← ofOption .invalidSize (printed signingInputSize (protected64 ++ 0x2E :: payload64))
  let digest ← sha256Bytes signingInput
  let signature ← signEs256 privateKey digest
  let signature64 ← ofResult (base64urlString signature 96)
  ofOption .invalidSize (printed outJwsSize (jwsText protected64 payload64 signature64))

def newAccountProtected (jwk nonce newAccountUrl : Bytes) : Bytes :=
  ascii "\x7b\"alg\":\"ES256\",\"jwk\":" ++ jwk ++ ascii ",\"nonce\":\"" ++ nonce ++
    ascii "\",\"url\":\"" ++ newAccountUrl ++ ascii "\"\x7d"

def newAccountPayload : Bytes := ascii "\x7b\"termsOfServiceAgreed\":true\x7d"

def buildNewAccountJws (newAccountUrl nonce jwk privateKey : Bytes) (outJwsSize : Nat) :
    Acme EspErr Bytes := do
  let protectedJson ← ofOption .invalidSize
    (printed acmeProtectedMax (newAccountProtected jwk nonce newAccountUrl))
  buildJws 128 1536 false protectedJson newAccountPayload privateKey outJwsSize

def kidProtected (kid nonce url : Bytes) : Bytes :=
  ascii "\x7b\"alg\":\"ES256\",\"kid\":\"" ++ kid ++ ascii "\",\"nonce\":\"" ++ nonce ++
    ascii "\",\"url\":\"" ++ url ++ ascii "\"\x7d"

def buildKidJws (url nonce kid payloadJson privateKey : Bytes) (outJwsSize : Nat) : Acme EspErr Bytes := do
  let protectedJson ← ofOption .invalidSize (printed acmeProtectedMax (kidProtected kid nonce url))
  buildJws 2048 3584 true protectedJson payloadJson privateKey outJwsSize

def joseHeaders (userAgent : String) : List (Bytes × Bytes) :=
  [header "Content-Type" "application/jose+json", header "Accept" "application/json",
    header "User-Agent" userAgent]

/-- `status` is in `*out_http_status` before. -/
def postJws (userAgent : String) (url jws : Bytes) (status : Int) :
    Acme (EspErr × Int) (AcmeResponse × Int) := do
  let answer ← Issuance.http ⟨.post, url, joseHeaders userAgent, some jws⟩
  refuseIf (¬answer.client) (.noMem, status)
  refuseIf (answer.err ≠ .ok) (answer.err, answer.status)
  refuseIf answer.response.overflow (.invalidSize, answer.status)
  return (answer.response, answer.status)

def acmePost (url jws : Bytes) (status : Int) : Acme (EspErr × Int) (AcmeResponse × Int) :=
  postJws "esp32p4-ntp/phase5b8d" url jws status

def postNewAccount (url jws : Bytes) : Acme (EspErr × Int) (AcmeResponse × Int) := do
  let (response, status) ← postJws "esp32p4-ntp/phase5b8b" url jws 0
  refuseIf (status ≠ 200 ∧ status ≠ 201) (.invalidResponse, status)
  refuseIf (¬isHttpsUrl response.location) (.invalidResponse, status)
  return (response, status)

def acmeResponseIsBadNonce (response : AcmeResponse) : Bool :=
  extractJsonString (cString response.data) (ascii "type") acmeUrlMaxLength =
    some (ascii "urn:ietf:params:acme:error:badNonce")

/-- A turn of the loop of `signed_request`, with `status` in `*out_http_status`. -/
def signedAttempt (nonceUrl url kid payloadJson privateKey : Bytes)
    (again : Int → Acme (EspErr × Int) (AcmeResponse × Int)) (status : Int) :
    Acme (EspErr × Int) (AcmeResponse × Int) := do
  let nonce ← getNonce nonceUrl
  let jws ← Issuance.calloc
  refuseIf (¬jws) (.noMem, status)
  let jws ← failing (·, status) (buildKidJws url nonce kid payloadJson privateKey acmeJwsMax)
  let (response, status) ← acmePost url jws status
  if acmeResponseIsBadNonce response then again status else return (response, status)

def signedAttempts (nonceUrl url kid payloadJson privateKey : Bytes) :
    Nat → Int → Acme (EspErr × Int) (AcmeResponse × Int)
  | 0 => signedAttempt nonceUrl url kid payloadJson privateKey fun status => throw (.invalidResponse, status)
  | retries + 1 => signedAttempt nonceUrl url kid payloadJson privateKey fun status =>
      signedAttempts nonceUrl url kid payloadJson privateKey retries status

def signedRequest (nonceUrl url kid payloadJson privateKey : Bytes) :
    Acme (EspErr × Int) (AcmeResponse × Int) :=
  signedAttempts nonceUrl url kid payloadJson privateKey acmeBadNonceMaxRetries 0

structure AcmeDirectoryStatus where
  reachable : Bool
  httpStatus : Int
  newNonceUrl : Bytes
  newAccountUrl : Bytes
  newOrderUrl : Bytes

def httpsMember (json : Bytes) (name : String) : Option Bytes :=
  (extractJsonString json (ascii name) acmeUrlMaxLength).filter isHttpsUrl

def probeDirectorySync (directoryUrl : Bytes) : Acme EspErr AcmeDirectoryStatus := do
  let response ← Issuance.calloc
  refuseIf (¬response) .noMem
  let answer ← Issuance.http ⟨.get, directoryUrl,
    [header "Accept" "application/json", header "User-Agent" "esp32p4-ntp/phase5b8b"], none⟩
  refuseIf (¬answer.client) .noMem
  refuseIf (answer.err ≠ .ok) answer.err
  refuseIf answer.response.overflow .invalidSize
  refuseIf (answer.status ≠ 200) .invalidResponse
  let json := cString answer.response.data
  let newNonceUrl ← ofOption .invalidResponse (httpsMember json "newNonce")
  let newAccountUrl ← ofOption .invalidResponse (httpsMember json "newAccount")
  let newOrderUrl ← ofOption .invalidResponse (httpsMember json "newOrder")
  return ⟨true, answer.status, newNonceUrl, newAccountUrl, newOrderUrl⟩

/-- `probe_production_sync` or `probe_staging_sync` -/
def probeSync (production : Bool) : Acme EspErr AcmeDirectoryStatus :=
  probeDirectorySync (if production then acmeProductionDirectoryUrl else acmeStagingDirectoryUrl)

/-- `acme_storage_init`, which returns `ESP_OK` from its first success on, and `nvs_open_from_partition`. The
functions that open the namespace are called after a success. -/
def opened : Acme EspErr Unit := do
  let err ← Issuance.nvsOpen
  refuseIf (err.val ≠ .ok) err.val

def committed (err : NvsResult) : Acme EspErr Unit := do
  refuseIf (err.val ≠ .ok) err.val
  let err ← Issuance.nvsCommit
  refuseIf (err.val ≠ .ok) err.val

def NvsAnswer.value {α : Type} : NvsAnswer α → Except EspErr α
  | .found value => .ok value
  | .notFound => .error .notFound
  | .failed err _ => .error err.val

def acmeStorageLoadPrivateKey : Acme EspErr Bytes := do
  opened
  let answer ← Issuance.nvsGetBlob "acct_key"
  let privateKey ← ofResult answer.value
  refuseIf (privateKey.length > acmeAccountPrivateKeyLength) .nvsInvalidLength
  refuseIf (privateKey.length ≠ acmeAccountPrivateKeyLength) .invalidSize
  return privateKey

def acmeStorageStorePrivateKey (privateKey : Bytes) : Acme EspErr Unit := do
  opened
  let err ← Issuance.nvsSetBlob "acct_key" privateKey
  committed err

def accountUrlName (production : Bool) : String := if production then "acct_prod" else "acct_url"

/-- `load_production_account_url` or `acme_storage_load_account_url` -/
def loadAccountUrl (production : Bool) : Acme EspErr Bytes := do
  opened
  let answer ← Issuance.nvsGetStr (accountUrlName production)
  let url ← ofResult answer.value
  refuseIf (url.length + 1 > acmeUrlMaxLength) .nvsInvalidLength
  return url

/-- `store_production_account_url` or `acme_storage_store_account_url` -/
def storeAccountUrl (production : Bool) (url : Bytes) : Acme EspErr Unit := do
  refuseIf (¬isHttpsUrl url ∨ ¬production ∧ url.length ≥ acmeUrlMaxLength) .invalidArg
  opened
  let err ← Issuance.nvsSetStr (accountUrlName production) url
  committed err

def ensureAccountKey : Acme EspErr Bytes := do
  let loaded ← tried acmeStorageLoadPrivateKey
  match loaded with
  | .ok privateKey => return privateKey
  | .error err =>
      refuseIf (err ≠ .notFound) err
      let privateKey ← Issuance.generateKey
      let privateKey ← ofOption .fail privateKey
      refuseIf (privateKey.length ≠ acmeAccountPrivateKeyLength) .fail
      acmeStorageStorePrivateKey privateKey
      return privateKey

/-! ## The account -/

structure AcmeAccountStatus where
  keyPresent : Bool
  registered : Bool
  httpStatus : Int
  accountUrl : Bytes
  jwkThumbprint : Bytes
  deriving DecidableEq

def AcmeAccountStatus.zero : AcmeAccountStatus := ⟨false, false, 0, [], []⟩

def AcmeAccountStatus.register (out : AcmeAccountStatus) (url : Bytes) : AcmeAccountStatus :=
  { out with registered := true, accountUrl := formatted acmeUrlMaxLength url }

/-- `provision_account_sync` where no account URL is stored. -/
def registerAccount (production : Bool) (privateKey jwk : Bytes) (out : AcmeAccountStatus) :
    Acme (EspErr × AcmeAccountStatus) AcmeAccountStatus := do
  let directory ← failing (·, out) (probeSync production)
  let nonce ← failing (fun failed => (failed.1, { out with httpStatus := failed.2 }))
    (getNonce directory.newNonceUrl)
  let jws ← Issuance.calloc
  refuseIf (¬jws) (.noMem, out)
  let jws ← failing (·, out) (buildNewAccountJws directory.newAccountUrl nonce jwk privateKey acmeJwsMax)
  let response ← Issuance.calloc
  refuseIf (¬response) (.noMem, out)
  let (response, status) ← failing (fun failed => (failed.1, { out with httpStatus := failed.2 }))
    (postNewAccount directory.newAccountUrl jws)
  let out := { out with httpStatus := status }
  failing (·, out) (storeAccountUrl production response.location)
  return out.register response.location

def provisionAccountSync (production : Bool) :
    Acme (EspErr × AcmeAccountStatus) AcmeAccountStatus := do
  let out := AcmeAccountStatus.zero
  let err ← Issuance.storageInit
  refuseIf (err ≠ .ok) (err, out)
  let privateKey ← failing (·, out) ensureAccountKey
  let (jwk, thumbprint) ← failing (·, out) (buildJwkAndThumbprint privateKey)
  let out := { out with jwkThumbprint := thumbprint, keyPresent := true }
  let existing ← tried (loadAccountUrl production)
  match existing with
  -- a stored URL of another kind is left as it is, and the call returns ESP_OK
  | .ok url => return if isHttpsUrl url then out.register url else out
  | .error err =>
      refuseIf (err ≠ .notFound) (err, out)
      registerAccount production privateKey jwk out

end NtsTimeServer.Model
