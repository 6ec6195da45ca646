import NtsTimeServer.Model.AcmeRequest

/-!
# DNS-01 records at Cloudflare

The requests of `cloudflare_client.c` for one TXT record, and the readers of their responses. A failure
carries the HTTP status.
-/

namespace NtsTimeServer.Model
open Lib Interaction

def cfResponseMax : Nat := 4096
def cfUrlMax : Nat := 384
def cfAuthMax : Nat := appCloudflareApiTokenMaxLength + 16
def cloudflareDnsRecordIdLength : Nat := 32
def cloudflareDns01ValueMaxLength : Nat := 255

structure CloudflareResponse where
  data : Bytes
  overflow : Bool

/-- `http_event_handler` of `cloudflare_client.c` -/
def cfHttpEventHandler (response : CloudflareResponse) : HttpEvent → CloudflareResponse
  | .onHeader _ _ => response
  | .onData data =>
      if data.length > cfResponseMax - 1 - response.data.length then { response with overflow := true }
      else { response with data := response.data ++ data }

def HttpAnswer.cloudflare (answer : HttpAnswer) : CloudflareResponse :=
  answer.received.foldl cfHttpEventHandler ⟨[], false⟩

def strstr (text needle : Bytes) : Option Bytes := (findPattern needle text).map fun offset => text.drop offset

def strchr (text : Bytes) (c : UInt8) : Option Bytes := strstr text [c]

def afterColon (text : Bytes) : Option Bytes := (strchr text 0x3A).map fun p => skipWs p.tail

def responseSuccess (json : Bytes) : Bool :=
  match (strstr json (ascii "\"success\"")).bind afterColon with
  | none => false
  | some p => (ascii "true").isPrefixOf p

def quotedHexId (length : Nat) : Bytes → Option Bytes
  | [] => none
  | quote :: p =>
      if quote ≠ 0x22 ∨ (p.take length).length ≠ length ∨ ¬(p.take length).all isxdigit ∨
          p[length]? ≠ some 0x22 then none
      else some (p.take length)

def extractDnsRecordId (json : Bytes) : Option Bytes :=
  (strstr json (ascii "\"result\"")).bind fun result =>
    (strchr result 0x7B).bind fun object =>
      (strstr object (ascii "\"id\"")).bind fun id =>
        (afterColon id).bind (quotedHexId cloudflareDnsRecordIdLength)

def isHexId (value : Bytes) (length : Nat) : Bool := value.length = length && value.all isxdigit

def dns01ValueIsValid (value : Bytes) : Bool :=
  value.length ≠ 0 && value.length ≤ cloudflareDns01ValueMaxLength &&
    value.all fun c => isalnum c || c = 0x2D || c = 0x5F

def jsonStringEquals (json key expected : Bytes) : Bool :=
  let needle := 0x22 :: (key ++ [0x22])
  if needle.length ≥ 64 then false
  else match (strstr json needle).bind fun p => afterColon (p.drop needle.length) with
    | none => false
    | some p => (0x22 :: (expected ++ [0x22])).isPrefixOf p

/-- The loop of `json_txt_content_equals` after `used` bytes of `decoded`. -/
def decodeContent : Nat → Bytes → Option Bytes
  | _, [] => none
  | used, 0x5C :: p =>
      if used + 1 ≥ cloudflareDns01ValueMaxLength + 3 then none
      else match p with
        | [] => none
        | c :: p => if c ≠ 0x22 ∧ c ≠ 0x5C then none else (decodeContent (used + 1) p).map (c :: ·)
  | used, c :: p =>
      if c = 0x22 then some []
      else if used + 1 ≥ cloudflareDns01ValueMaxLength + 3 then none
      else (decodeContent (used + 1) p).map (c :: ·)

def unquoted (decoded : Bytes) : Bytes :=
  if 2 ≤ decoded.length ∧ decoded.head? = some 0x22 ∧ decoded.getLast? = some 0x22 then
    decoded.tail.dropLast
  else decoded

def jsonTxtContentEquals (json expected : Bytes) : Bool :=
  match (strstr json (ascii "\"content\"")).bind afterColon with
  | none => false
  | some [] => false
  | some (quote :: p) =>
      if quote ≠ 0x22 then false
      else match decodeContent 0 p with
        | none => false
        | some decoded => unquoted decoded = expected

/-! ## Requests -/

/-- The token of a client has at most 512 bytes, so the authorization fits whether there is a client or
not. -/
def cloudflareHttpRequest (apiToken : Bytes) (method : HttpMethod) (url : Bytes) (jsonBody : Option Bytes) :
    Acme (EspErr × Int) (CloudflareResponse × Int) := do
  let authorization ← ofOption (.invalidSize, 0) (printed cfAuthMax (ascii "Bearer " ++ apiToken))
  let contentType := match jsonBody with
    | none => []
    | some _ => [header "Content-Type" "application/json"]
  let answer ← Issuance.http ⟨method, url, (ascii "Authorization", authorization) ::
    header "Accept" "application/json" :: header "User-Agent" "esp32p4-ntp/phase5b7" :: contentType, jsonBody⟩
  refuseIf (¬answer.client) (.noMem, 0)
  refuseIf (answer.err ≠ .ok) (answer.err, answer.status)
  refuseIf answer.cloudflare.overflow (.invalidSize, answer.status)
  return (answer.cloudflare, answer.status)

structure CloudflareCredentials where
  apiToken : Bytes
  zoneId : Bytes

def zonesUrl : Bytes := ascii "https://api.cloudflare.com/client/v4/zones/"

def recordsUrl (zoneId : Bytes) : Bytes := zonesUrl ++ zoneId ++ ascii "/dns_records"

def recordUrl (zoneId recordId : Bytes) : Bytes := recordsUrl zoneId ++ 0x2F :: recordId

def txtBody (recordName txtValue : Bytes) : Bytes :=
  ascii "\x7b\"type\":\"TXT\",\"name\":\"" ++ recordName ++ ascii "\",\"content\":\"\\\"" ++ txtValue ++
    ascii "\\\"\",\"ttl\":1,\"comment\":\"ESP32-P4 ACME DNS-01\"\x7d"

def cloudflareCreateDns01TxtSync (credentials : CloudflareCredentials) (recordName txtValue : Bytes) :
    Acme (EspErr × Int) Bytes := do
  refuseIf (¬isHexId credentials.zoneId appCloudflareZoneIdLength ∨ ¬dns01ValueIsValid txtValue)
    (.invalidArg, 0)
  let url ← ofOption (.invalidSize, 0) (printed cfUrlMax (recordsUrl credentials.zoneId))
  let body ← ofOption (.invalidSize, 0) (printed 768 (txtBody recordName txtValue))
  let (response, status) ← cloudflareHttpRequest credentials.apiToken .post url (some body)
  let json := cString response.data
  refuseIf (status ≠ 200 ∨ ¬responseSuccess json) (.invalidResponse, status)
  ofOption (.invalidResponse, status) (extractDnsRecordId json)

def isExpectedRecord (json expectedRecordName expectedTxtValue : Bytes) : Bool :=
  jsonStringEquals json (ascii "type") (ascii "TXT") &&
    jsonStringEquals json (ascii "name") expectedRecordName && jsonTxtContentEquals json expectedTxtValue

def cloudflareVerifyDns01TxtContentSync (credentials : CloudflareCredentials)
    (recordId expectedRecordName expectedTxtValue : Bytes) : Acme (EspErr × Int) Unit := do
  refuseIf (¬isHexId credentials.zoneId appCloudflareZoneIdLength ∨
    ¬isHexId recordId cloudflareDnsRecordIdLength ∨ ¬dns01ValueIsValid expectedTxtValue) (.invalidArg, 0)
  let url ← ofOption (.invalidSize, 0) (printed cfUrlMax (recordUrl credentials.zoneId recordId))
  let (response, status) ← cloudflareHttpRequest credentials.apiToken .get url none
  let json := cString response.data
  refuseIf (status ≠ 200 ∨ ¬responseSuccess json) (.notFound, status)
  refuseIf (¬isExpectedRecord json expectedRecordName expectedTxtValue) (.invalidState, status)

def cloudflareDeleteDns01TxtContentSync (credentials : CloudflareCredentials)
    (recordId expectedRecordName expectedTxtValue : Bytes) : Acme (EspErr × Int) Unit := do
  refuseIf (¬isHexId credentials.zoneId appCloudflareZoneIdLength ∨
    ¬isHexId recordId cloudflareDnsRecordIdLength ∨ ¬dns01ValueIsValid expectedTxtValue) (.invalidArg, 0)
  let url ← ofOption (.invalidSize, 0) (printed cfUrlMax (recordUrl credentials.zoneId recordId))
  cloudflareVerifyDns01TxtContentSync credentials recordId expectedRecordName expectedTxtValue
  let (response, status) ← cloudflareHttpRequest credentials.apiToken .delete url none
  refuseIf (status ≠ 200 ∨ ¬responseSuccess (cString response.data)) (.invalidResponse, status)

/-! ## The worker -/

def withCloudflareWorker {α : Type} (fits : Bool) (program : Acme (EspErr × Int) α) :
    Acme (EspErr × Int) α := do
  let context ← Issuance.calloc
  refuseIf (¬context) (.noMem, 0)
  refuseIf (¬fits) (.invalidSize, 0)
  let created ← Issuance.taskCreate
  refuseIf (¬created) (.noMem, 0)
  program

def contextFits (credentials : CloudflareCredentials) (recordId recordName txtValue : Bytes) : Bool :=
  credentials.apiToken.length ≤ appCloudflareApiTokenMaxLength &&
    credentials.zoneId.length ≤ appCloudflareZoneIdLength && recordId.length ≤ cloudflareDnsRecordIdLength &&
      recordName.length < appCloudflareZoneNameMaxLength + 32 &&
        txtValue.length ≤ cloudflareDns01ValueMaxLength

def cloudflareClientCreateDns01Txt (credentials : CloudflareCredentials) (recordName txtValue : Bytes) :
    Acme (EspErr × Int) Bytes :=
  withCloudflareWorker (contextFits credentials [] recordName txtValue)
    (cloudflareCreateDns01TxtSync credentials recordName txtValue)

def cloudflareClientVerifyDns01TxtContent (credentials : CloudflareCredentials)
    (recordId expectedRecordName expectedTxtValue : Bytes) : Acme (EspErr × Int) Unit :=
  withCloudflareWorker (contextFits credentials recordId expectedRecordName expectedTxtValue)
    (cloudflareVerifyDns01TxtContentSync credentials recordId expectedRecordName expectedTxtValue)

def cloudflareClientDeleteDns01TxtContent (credentials : CloudflareCredentials)
    (recordId expectedRecordName expectedTxtValue : Bytes) : Acme (EspErr × Int) Unit :=
  withCloudflareWorker (contextFits credentials recordId expectedRecordName expectedTxtValue)
    (cloudflareDeleteDns01TxtContentSync credentials recordId expectedRecordName expectedTxtValue)

end NtsTimeServer.Model
