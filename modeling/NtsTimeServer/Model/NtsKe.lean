import NtsTimeServer.Lib.Records
import NtsTimeServer.Model.CookieSystem

/-!
# NTS key establishment

`nts_ke.c` from the first read of the request to the bytes of the response. A pointer into the request
is what is left of the request from there on.
-/

namespace NtsTimeServer.Model
open Lib

def ntsKeRequestMax : Nat := 2048
def ntsKeResponseMax : Nat := 4096
def ntsKeCookieCount : Nat := 8

def ntsKeRecordEndOfMessage : Nat := 0x0000
def ntsKeRecordNextProtocol : Nat := 0x0001
def ntsKeRecordError : Nat := 0x0002
def ntsKeRecordWarning : Nat := 0x0003
def ntsKeRecordAeadAlgorithm : Nat := 0x0004
def ntsKeRecordNewCookie : Nat := 0x0005
def ntsKeRecordNtpServer : Nat := 0x0006
def ntsKeRecordNtpPort : Nat := 0x0007

def ntsKeProtocolNtpv4 : Nat := 0x0000
def ntsKeAeadAesSivCmac256 : Nat := 0x000F

def ntsKeErrorUnrecognizedCritical : Nat := 0x0000
def ntsKeErrorBadRequest : Nat := 0x0001
def ntsKeErrorInternalServer : Nat := 0x0002

def isCritical (wireType : Nat) : Bool := wireType &&& 0x8000 != 0

def recordType (wireType : Nat) : Nat := wireType &&& 0x7FFF

structure KeRequestState where
  nextProtocolSeen : Bool
  aeadSeen : Bool
  endSeen : Bool
  ntpv4Offered : Bool
  aesSivOffered : Bool
  protocolError : Nat
  deriving DecidableEq, Repr

def keRequestInit : KeRequestState := ⟨false, false, false, false, false, 0⟩

def listContainsU16 (body : Bytes) (wanted : Nat) : Bool :=
  if body.length = 0 ∨ body.length % 2 ≠ 0 then false
  else (List.range (body.length / 2)).any fun index => readBe16 body (2 * index) == wanted

abbrev KeRefusal := EspErr × KeRequestState

def badRequest (state : KeRequestState) : KeRefusal :=
  (.invalidResponse, { state with protocolError := ntsKeErrorBadRequest })

/-- The switch of `parse_request`; `last` if nothing follows the record. -/
def parseRecord (state : KeRequestState) (critical : Bool) (type : Nat) (body : Bytes) (last : Bool) :
    Except KeRefusal KeRequestState :=
  if type = ntsKeRecordEndOfMessage then
    if ¬critical ∨ body.length ≠ 0 ∨ state.endSeen then .error (badRequest state)
    else if ¬last then .error (badRequest { state with endSeen := true })
    else .ok { state with endSeen := true }
  else if type = ntsKeRecordNextProtocol then
    if ¬critical ∨ state.nextProtocolSeen ∨ body.length = 0 ∨ body.length % 2 ≠ 0 then
      .error (badRequest state)
    else .ok { state with
      nextProtocolSeen := true
      ntpv4Offered := listContainsU16 body ntsKeProtocolNtpv4 }
  else if type = ntsKeRecordAeadAlgorithm then
    if state.aeadSeen ∨ body.length = 0 ∨ body.length % 2 ≠ 0 then .error (badRequest state)
    else .ok { state with
      aeadSeen := true
      aesSivOffered := listContainsU16 body ntsKeAeadAesSivCmac256 }
  else if type = ntsKeRecordError ∨ type = ntsKeRecordWarning then .error (badRequest state)
  else if type = ntsKeRecordNtpServer then
    if body.length = 0 then .error (badRequest state) else .ok state
  else if type = ntsKeRecordNtpPort then
    if body.length ≠ 2 then .error (badRequest state) else .ok state
  else if critical then
    .error (.notSupported, { state with protocolError := ntsKeErrorUnrecognizedCritical })
  else .ok state

/-- The loop of `parse_request`. A turn takes at least 4 bytes, so `request.length` turns are enough. -/
def parseRecords : Nat → KeRequestState → Bytes → Except KeRefusal KeRequestState
  | 0, state, _ => .ok state
  | fuel + 1, state, rest =>
      if 4 ≤ rest.length then
        let wireType := readBe16 rest 0
        let bodyLen := readBe16 rest 2
        let rest := rest.drop 4
        if bodyLen > rest.length then .error (badRequest state)
        else
          let body := rest.take bodyLen
          let rest := rest.drop bodyLen
          match parseRecord state (isCritical wireType) (recordType wireType) body rest.isEmpty with
          | .error refused => .error refused
          | .ok state => if state.endSeen then .ok state else parseRecords fuel state rest
      else .ok state

def parseRequest (request : Bytes) : EspErr × KeRequestState :=
  match parseRecords request.length keRequestInit request with
  | .error refused => refused
  | .ok state =>
      if ¬state.endSeen ∨ ¬state.nextProtocolSeen ∨ ¬state.ntpv4Offered ∨ ¬state.aeadSeen ∨
          ¬state.aesSivOffered then badRequest state
      else (.ok, state)

/-! ## Reading -/

/-- What `mbedtls_ssl_read` returns: bytes of the client's stream (none for the return value 0),
`MBEDTLS_ERR_SSL_WANT_READ` or `MBEDTLS_ERR_SSL_WANT_WRITE`, `MBEDTLS_ERR_SSL_PEER_CLOSE_NOTIFY`, or
another error. -/
inductive TlsRead
  | received (bytes : Bytes)
  | want
  | closeNotify
  | failed
  deriving DecidableEq, Repr

/-- The inner loop of `tls_read_request`: what follows the first End of Message record, if that is
there. -/
def afterEndOfMessage : Nat → Bytes → Option Bytes
  | 0, _ => none
  | fuel + 1, rest =>
      if 4 ≤ rest.length then
        let type := recordType (readBe16 rest 0)
        let bodyLen := readBe16 rest 2
        if bodyLen > rest.length - 4 then none
        else
          let rest := rest.drop (4 + bodyLen)
          if type = ntsKeRecordEndOfMessage then some rest else afterEndOfMessage fuel rest
      else none

/-- `tls_read_request` after `request` has been received, with the results of the reads to come. A read
returns no more than fits the buffer. `none` while it waits for another result. -/
def tlsReadRequest (requestSize : Nat) : Bytes → List TlsRead → Option (EspErr × Bytes)
  | request, [] => if request.length < requestSize then none else some (.invalidSize, request)
  | request, read :: reads =>
      if request.length < requestSize then
        match read with
        | .received [] | .closeNotify => some (.invalidResponse, request)
        | .failed => some (.fail, request)
        | .want => tlsReadRequest requestSize request reads
        | .received (byte :: bytes) =>
            let request := request ++ (byte :: bytes).take (requestSize - request.length)
            match afterEndOfMessage request.length request with
            | none => tlsReadRequest requestSize request reads
            | some rest => some (if rest.isEmpty then .ok else .invalidResponse, request)
      else some (.invalidSize, request)

/-! ## The response -/

structure KeResponse where
  buffer : Bytes
  used : Nat
  deriving DecidableEq, Repr

abbrev KeResult := Except EspErr Unit × KeResponse

/-- `append_record`. A body of length 0 stands for the null pointer. -/
def appendRecord (response : KeResponse) (type : Nat) (critical : Bool) (body : Bytes) :
    KeResult :=
  if body.length > 65535 then (.error .invalidArg, response)
  else if response.used > response.buffer.length ∨
      body.length + 4 > response.buffer.length - response.used then (.error .invalidSize, response)
  else
    let wireType := type &&& 0x7FFF
    let wireType := if critical then wireType ||| 0x8000 else wireType
    let buffer := writeAt response.buffer response.used (beBytes 2 wireType)
    let buffer := writeAt buffer (response.used + 2) (beBytes 2 body.length)
    (.ok (), ⟨writeAt buffer (response.used + 4) body, response.used + 4 + body.length⟩)

def buildErrorResponse (errorCode : Nat) (response : KeResponse) : KeResult :=
  let response := { response with used := 0 }
  match appendRecord response ntsKeRecordError true (beBytes 2 errorCode) with
  | (.ok (), response) => appendRecord response ntsKeRecordEndOfMessage true []
  | stopped => stopped

/-- What `build_success_response` meets: the two TLS exporters, `nts_cookie_generate_keys`, and the
store and the surroundings of each call of `nts_cookie_create`. -/
structure KeEnv where
  exportC2s : Option TrafficKey
  exportS2c : Option TrafficKey
  generate : Option Keyring × CookieEnv
  create : Nat → Option Keyring × CookieEnv

def KeEnv.cookieKeys (env : KeEnv) : Except EspErr CookieKeys :=
  match env.exportC2s, env.exportS2c with
  | some c2sKey, some s2cKey =>
      match (ntsCookieGenerateKeys env.generate.1 env.generate.2 ntsKeCookieLifetimeSeconds).1 with
      | .error err => .error err
      | .ok metadata => .ok { metadata with c2sKey := c2sKey, s2cKey := s2cKey }
  | _, _ => .error .fail

def KeEnv.cookie (env : KeEnv) (aead : Aead) (keys : CookieKeys) (index : Nat) : Except EspErr Bytes :=
  (ntsCookieCreate aead (env.create index).1 (env.create index).2 keys ntsCookieMaxLen).1

/-- The loop of `build_success_response`, with `remaining` cookies to go. -/
def appendCookieRecords (aead : Aead) (env : KeEnv) (keys : CookieKeys) :
    Nat → KeResponse → KeResult
  | 0, response => (.ok (), response)
  | remaining + 1, response =>
      match env.cookie aead keys (ntsKeCookieCount - (remaining + 1)) with
      | .error err => (.error err, response)
      | .ok cookie =>
          match appendRecord response ntsKeRecordNewCookie false cookie with
          | (.ok (), response) => appendCookieRecords aead env keys remaining response
          | stopped => stopped

def buildSuccessResponse (aead : Aead) (env : KeEnv) (response : KeResponse) : KeResult :=
  let response := { response with used := 0 }
  match env.cookieKeys with
  | .error err => (.error err, response)
  | .ok keys =>
      match appendRecord response ntsKeRecordNextProtocol true [0x00, 0x00] with
      | (.ok (), response) =>
          match appendRecord response ntsKeRecordAeadAlgorithm false [0x00, 0x0F] with
          | (.ok (), response) =>
              match appendCookieRecords aead env keys ntsKeCookieCount response with
              | (.ok (), response) => appendRecord response ntsKeRecordEndOfMessage true []
              | stopped => stopped
          | stopped => stopped
      | stopped => stopped

/-- `handle_client` once a request has been read or refused: the response it is left with. -/
def keRespond (aead : Aead) (env : KeEnv) (read : EspErr × Bytes) (response : KeResponse) : KeResponse :=
  if read.1 = .ok then
    let (err, state) := parseRequest read.2
    if err = .ok then
      match buildSuccessResponse aead env response with
      | (.ok (), response) => response
      | (.error _, response) => (buildErrorResponse ntsKeErrorInternalServer response).2
    else
      let protocolError :=
        if state.protocolError ≤ ntsKeErrorInternalServer then state.protocolError
        else ntsKeErrorBadRequest
      (buildErrorResponse protocolError response).2
  else (buildErrorResponse ntsKeErrorBadRequest response).2

structure KeResponseBuffer where
  bytes : Bytes
  length : bytes.length = ntsKeResponseMax

/-- `handle_client` after the handshake: the bytes it hands to `tls_write_all`, if any. `none` while it
waits for the request. -/
def handleClient (aead : Aead) (env : KeEnv) (reads : List TlsRead) (buffer : KeResponseBuffer) :
    Option (Option Bytes) :=
  (tlsReadRequest ntsKeRequestMax [] reads).map fun read =>
    let response := keRespond aead env read ⟨buffer.bytes, 0⟩
    if response.used > 0 then some (response.buffer.take response.used) else none

end NtsTimeServer.Model
