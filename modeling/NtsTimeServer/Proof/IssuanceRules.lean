import Mathlib.Data.List.Infix
import NtsTimeServer.Model.CertTransaction
import NtsTimeServer.Proof.Base64url

/-!
# What a certificate transaction may ask for

Conditions on the calls of a transaction, each on what has been called and answered before.
-/

namespace NtsTimeServer.Proof
open Model Lib Interaction

/-! ## A JWS as a server reads it -/

structure Jws where
  header : Bytes
  payload : Bytes
  signature : Bytes
  signingInput : Bytes

def jwsMember (label text : Bytes) : Option (Bytes × Bytes) :=
  if label.isPrefixOf text then
    some ((text.drop label.length).takeWhile (· ≠ 0x22), (text.drop label.length).dropWhile (· ≠ 0x22))
  else none

def readJws (body : Bytes) : Option Jws :=
  (jwsMember (ascii "\x7b\"protected\":\"") body).bind fun (protected64, rest) =>
    (jwsMember (ascii "\",\"payload\":\"") rest).bind fun (payload64, rest) =>
      (jwsMember (ascii "\",\"signature\":\"") rest).bind fun (signature64, rest) =>
        if rest ≠ ascii "\"\x7d" then none
        else (urlSafeAlphabet.decode protected64).bind fun header =>
          (urlSafeAlphabet.decode payload64).bind fun payload =>
            (urlSafeAlphabet.decode signature64).map fun signature =>
              ⟨header, payload, signature, protected64 ++ 0x2E :: payload64⟩

def postedJws : IssuanceCall → Option (Bytes × Jws)
  | .http ⟨.post, url, _, some body⟩ => (readJws body).map fun jws => (url, jws)
  | _ => none

def Received (past : IssuanceHistory) (url payload : Bytes) (response : AcmeResponse) (status : Int) : Prop :=
  ∃ request answer jws, ⟨.http request, answer⟩ ∈ past ∧ postedJws (.http request) = some (url, jws) ∧
    jws.payload = payload ∧ answer.client = true ∧ answer.err = .ok ∧ answer.response = response ∧
      answer.status = status

def AccountKey (past : IssuanceHistory) (key : Bytes) : Prop :=
  ⟨.nvsGetBlob "acct_key", .found key⟩ ∈ past ∨
    ∃ answer : NvsResult, answer.val = .ok ∧ ⟨.nvsSetBlob "acct_key" key, answer⟩ ∈ past

def JwkOf (past : IssuanceHistory) (key jwk : Bytes) : Prop :=
  ∃ publicKey, ⟨.publicKey key, some publicKey⟩ ∈ past ∧ publicKey.length = 65 ∧
    publicKey.head? = some 0x04 ∧ jwk = jwkText (urlSafeAlphabet.encode ((publicKey.drop 1).take 32))
      (urlSafeAlphabet.encode ((publicKey.drop 33).take 32))

def Identifies (past : IssuanceHistory) (key identity : Bytes) : Prop :=
  (∃ kid, ⟨.nvsGetStr "acct_prod", .found kid⟩ ∈ past ∧ isHttpsUrl kid = true ∧
    identity = ascii "\"kid\":\"" ++ kid ++ ascii "\"") ∨
  ∃ jwk, JwkOf past key jwk ∧ identity = ascii "\"jwk\":" ++ jwk

def lastExchange : IssuanceHistory → Option (HttpRequest × HttpAnswer)
  | [] => none
  | ⟨.http request, answer⟩ :: _ => some (request, answer)
  | _ :: past => lastExchange past

def jwsHeader (identity nonce url : Bytes) : Bytes :=
  ascii "\x7b\"alg\":\"ES256\"," ++ identity ++ ascii ",\"nonce\":\"" ++ nonce ++ ascii "\",\"url\":\"" ++ url ++
    ascii "\"\x7d"

/-- The header is for this URL and has the nonce of the exchange before, and the signature is over what is
posted, with the account key. -/
structure Signed (past : IssuanceHistory) (url : Bytes) (jws : Jws) : Prop where
  header : ∃ key identity nonce, AccountKey past key ∧ Identifies past key identity ∧
    jws.header = jwsHeader identity nonce url ∧ nonce ≠ [] ∧
      (∃ request answer, lastExchange past = some (request, answer) ∧ request.method = .head ∧
        answer.response.replayNonce = nonce) ∧
      ∃ digest, ⟨.sha256 jws.signingInput, some digest⟩ ∈ past ∧
        ⟨.signHash key digest, some jws.signature⟩ ∈ past

def Offered (past : IssuanceHistory) (hostname url token : Bytes) : Prop :=
  ∃ authorizationUrl response challenge, Received past authorizationUrl [] response 200 ∧
    extractDns01Challenge (cString response.data) acmeUrlMaxLength (acmeChallengeTokenMaxLength + 1) 24 =
      some challenge ∧ challenge.url = url ∧ challenge.token = token ∧
    extractJsonString (cString response.data) (ascii "value") (acmeDnsNameMaxLength + 1) = some hostname

/-- The value is the digest of the token and the thumbprint of the account key. -/
def Proves (past : IssuanceHistory) (token value : Bytes) : Prop :=
  ∃ key jwk thumbprint digest, AccountKey past key ∧ JwkOf past key jwk ∧
    ⟨.sha256 jwk, some thumbprint⟩ ∈ past ∧
      ⟨.sha256 (token ++ 0x2E :: urlSafeAlphabet.encode thumbprint), some digest⟩ ∈ past ∧
        value = urlSafeAlphabet.encode digest

def Approved (answer : HttpAnswer) : Prop :=
  answer.client = true ∧ answer.err = .ok ∧ answer.cloudflare.overflow = false ∧ answer.status = 200 ∧
    responseSuccess (cString answer.cloudflare.data) = true

/-- The TXT record was posted, and the code can read the id in the approving answer. -/
def RecordCreated (past : IssuanceHistory) (zoneId recordId name value : Bytes) : Prop :=
  ∃ headers answer, ⟨.http ⟨.post, recordsUrl zoneId, headers, some (txtBody name value)⟩, answer⟩ ∈ past ∧
    Approved answer ∧ extractDnsRecordId (cString answer.cloudflare.data) = some recordId

def Shows (answer : HttpAnswer) (name value : Bytes) : Prop :=
  Approved answer ∧ isExpectedRecord (cString answer.cloudflare.data) name value = true

/-- The record was created and then shown with its name and its exact value, and the delay for it to
propagate is over. -/
def Propagated (past : IssuanceHistory) (name value : Bytes) : Prop :=
  ∃ earlier zoneId recordId, ⟨.taskDelay 10000, ()⟩ :: earlier <:+ past ∧
    RecordCreated earlier zoneId recordId name value ∧
      ∃ headers answer, ⟨.http ⟨.get, recordUrl zoneId recordId, headers, none⟩, answer⟩ ∈ earlier ∧
        Shows answer name value

def OrderPlaced (past : IssuanceHistory) (hostname finalizeUrl authorizationUrl orderUrl : Bytes) : Prop :=
  ∃ newOrderUrl response, Received past newOrderUrl (newOrderPayload hostname) response 201 ∧
    extractJsonString (cString response.data) (ascii "finalize") acmeUrlMaxLength = some finalizeUrl ∧
    extractFirstArrayString (cString response.data) (ascii "authorizations") acmeUrlMaxLength =
      some authorizationUrl ∧ formatted acmeUrlMaxLength response.location = orderUrl

def Requests509 (past : IssuanceHistory) (hostname key payload : Bytes) : Prop :=
  key.length = 32 ∧ ∃ publicKey csr csr64, ⟨.generateKey, some key⟩ ∈ past ∧ ⟨.publicKey key, some publicKey⟩ ∈ past ∧
    ⟨.buildCsr hostname key publicKey, (EspErr.ok, csr)⟩ ∈ past ∧ base64urlString csr 1536 = .ok csr64 ∧
      payload = finalizePayload csr64

/-! ## The conditions -/

def TriggerDue (past : IssuanceHistory) (hostname url : Bytes) : Prop :=
  ∃ token value, Offered past hostname url token ∧ Proves past token value ∧
    Propagated past (challengeRecordName hostname) value

/-- The order's authorization was answered with 200, and the first `status` of the answer, which can be
that of a challenge, is `valid`. -/
def FinalizeDue (past : IssuanceHistory) (hostname url : Bytes) : Prop :=
  ∃ authorizationUrl orderUrl response parsed, OrderPlaced past hostname url authorizationUrl orderUrl ∧
    Received past authorizationUrl [] response 200 ∧
      parseAuthorizationStatus (cString response.data) 24 24 = .ok parsed ∧
        parsed.authorization = ascii "valid"

/-- The call before shows the record, and this transaction created it. -/
def DeleteDue (past : IssuanceHistory) (hostname url : Bytes) : Prop :=
  ∃ zoneId recordId value headers answer earlier,
    past = ⟨.http ⟨.get, url, headers, none⟩, answer⟩ :: earlier ∧ url = recordUrl zoneId recordId ∧
      Shows answer (challengeRecordName hostname) value ∧
        RecordCreated earlier zoneId recordId (challengeRecordName hostname) value

def StoreDue (past : IssuanceHistory) (hostname key pem : Bytes) : Prop :=
  ∃ payload finalizeUrl authorizationUrl orderUrl certificateUrl finalized order certificate,
    OrderPlaced past hostname finalizeUrl authorizationUrl orderUrl ∧ Requests509 past hostname key payload ∧
      Received past finalizeUrl payload finalized 200 ∧ Received past orderUrl [] order 200 ∧
        extractJsonString (cString order.data) (ascii "status") 24 = some (ascii "valid") ∧
          httpsMember (cString order.data) "certificate" = some certificateUrl ∧
            Received past certificateUrl [] certificate 200 ∧ certificate.data = pem ∧
              findPattern beginCertificate (cString pem) ≠ none

def KeyDue (past : IssuanceHistory) (key : Bytes) : Prop :=
  ⟨.nvsGetBlob "acct_key", .notFound⟩ ∈ past ∧ ⟨.generateKey, some key⟩ ∈ past

def AccountUrlDue (past : IssuanceHistory) (url : Bytes) : Prop :=
  isHttpsUrl url = true ∧ ⟨.nvsGetStr "acct_prod", .notFound⟩ ∈ past ∧
    ∃ newAccountUrl response status, Received past newAccountUrl newAccountPayload response status ∧
      (status = 200 ∨ status = 201) ∧ response.location = url

def RecordDue (past : IssuanceHistory) (hostname text : Bytes) : Prop :=
  ∃ url token value, Offered past hostname url token ∧ Proves past token value ∧
    text = txtBody (challengeRecordName hostname) value

/-- A URL of `https`, or as an order lists its authorization. -/
def UrlDue (past : IssuanceHistory) (hostname url : Bytes) : Prop :=
  isHttpsUrl url = true ∨ ∃ finalizeUrl orderUrl, OrderPlaced past hostname finalizeUrl url orderUrl

/-- The request has the API token in its headers, or another in the header for it. -/
def BearsToken (token : Bytes) (request : HttpRequest) : Prop :=
  ∃ header ∈ request.headers, header.1 = ascii "Authorization" ∨ ascii "Bearer " ++ token <:+: header.2

abbrev TokenFree (header : Bytes × Bytes) : Prop :=
  header.1 ≠ ascii "Authorization" ∧ ¬ascii "Bearer " <:+: header.2

theorem not_bearsToken {token url : Bytes} {method : HttpMethod} {headers : List (Bytes × Bytes)}
    {body : Option Bytes} (free : ∀ header ∈ headers, TokenFree header) :
    ¬BearsToken token ⟨method, url, headers, body⟩ := by
  rintro ⟨header, mem, named | held⟩
  · exact (free header mem).1 named
  · exact (free header mem).2 ((List.prefix_append _ _).isInfix.trans held)

/-- What a call asks of the calls before it. -/
structure MayCall (hostname : Bytes) (past : IssuanceHistory) (c : IssuanceCall) : Prop where
  secure : ∀ request, c = .http request → UrlDue past hostname request.url
  token : ∀ request token, c = .http request → BearsToken token request → zonesUrl <+: request.url
  post : ∀ url headers body, c = .http ⟨.post, url, headers, body⟩ → ∃ text, body = some text ∧
    (readJws text ≠ none ∨ RecordDue past hostname text)
  signed : ∀ url jws, postedJws c = some (url, jws) → Signed past url jws
  trigger : ∀ url jws, postedJws c = some (url, jws) → jws.payload = triggerPayload →
    TriggerDue past hostname url
  finalize : ∀ url jws csr64, postedJws c = some (url, jws) → jws.payload = finalizePayload csr64 →
    FinalizeDue past hostname url
  delete : ∀ url headers body, c = .http ⟨.delete, url, headers, body⟩ → DeleteDue past hostname url
  store : ∀ production host key pem, c = .storeCertificate production host key pem →
    production = true ∧ host = hostname ∧ StoreDue past hostname key pem
  key : ∀ name key, c = .nvsSetBlob name key → name = "acct_key" ∧ KeyDue past key
  accountUrl : ∀ name url, c = .nvsSetStr name url → name = "acct_prod" ∧ AccountUrlDue past url

def asksNothing : IssuanceCall → Bool
  | .http _ | .storeCertificate _ _ _ _ | .nvsSetBlob _ _ | .nvsSetStr _ _ => false
  | _ => true

theorem mayCall_of_asksNothing {hostname : Bytes} {past : IssuanceHistory} {c : IssuanceCall}
    (nothing : asksNothing c = true) : MayCall hostname past c := by
  cases c with
  | http request => cases nothing
  | storeCertificate production host key pem => cases nothing
  | nvsSetBlob name key => cases nothing
  | nvsSetStr name url => cases nothing
  | _ => constructor <;> simp [postedJws]

theorem mayCall_of_store {hostname key pem : Bytes} {past : IssuanceHistory}
    (due : StoreDue past hostname key pem) :
    MayCall hostname past (.storeCertificate true hostname key pem) := by
  constructor
  case store =>
    intro production host other chain same
    cases same
    exact ⟨rfl, rfl, due⟩
  all_goals simp [postedJws]

theorem mayCall_of_key {hostname key : Bytes} {past : IssuanceHistory} (due : KeyDue past key) :
    MayCall hostname past (.nvsSetBlob "acct_key" key) := by
  constructor
  case key =>
    intro name other same
    cases same
    exact ⟨rfl, due⟩
  all_goals simp [postedJws]

theorem mayCall_of_accountUrl {hostname url : Bytes} {past : IssuanceHistory}
    (due : AccountUrlDue past url) : MayCall hostname past (.nvsSetStr "acct_prod" url) := by
  constructor
  case accountUrl =>
    intro name other same
    cases same
    exact ⟨rfl, due⟩
  all_goals simp [postedJws]

theorem mayCall_of_reads {hostname : Bytes} {past : IssuanceHistory} {request : HttpRequest}
    (reads : request.method = .get ∨ request.method = .head) (url : UrlDue past hostname request.url)
    (token : ∀ token, BearsToken token request → zonesUrl <+: request.url) :
    MayCall hostname past (.http request) := by
  have noPost : postedJws (.http request) = none := by
    unfold postedJws
    split
    next same =>
      cases same
      simp at reads
    next => rfl
  refine ⟨?_, ?_, ?_, by simp [noPost], by simp [noPost], by simp [noPost], ?_, by simp, by simp, by simp⟩
  · rintro other ⟨⟩
    exact url
  · rintro other _ ⟨⟩
    exact token _
  · rintro other headers body ⟨⟩
    simp at reads
  · rintro other headers body ⟨⟩
    simp at reads

end NtsTimeServer.Proof
