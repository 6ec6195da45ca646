import NtsTimeServer.Model.NtsExchange
import NtsTimeServer.Model.NtsKe

/-!
# Sessions of NTS clients

Clients that take their cookies from the NTS-KE server and spend one on each request to the NTP server,
while any tasks use the keyring. A client is not part of the firmware: it does what RFC 8915 asks.
-/

namespace NtsTimeServer.Model
open Lib

section

variable {σ : Type}

def haltError : Halt EspErr → EspErr
  | .fault => .fail
  | .error err => err

def appendCookieRecordsWith : (Nat → ExceptT (Halt EspErr) (StateM σ) Bytes) → Nat → KeResponse → σ →
    KeResult × σ
  | _, 0, response, s => ((.ok (), response), s)
  | create, remaining + 1, response, s =>
      match (create 0).run.run s with
      | (.error halt, s) => ((.error (haltError halt), response), s)
      | (.ok cookie, s) =>
          match appendRecord response ntsKeRecordNewCookie false cookie with
          | (.ok (), response) =>
              appendCookieRecordsWith (fun turn => create (turn + 1)) remaining response s
          | stopped => (stopped, s)

/-- `build_success_response`; `keys` is what `export_traffic_keys` and `nts_cookie_generate_keys` give. -/
def buildSuccessResponseWith (keys : ExceptT (Halt EspErr) (StateM σ) CookieKeys)
    (create : CookieKeys → Nat → ExceptT (Halt EspErr) (StateM σ) Bytes) (response : KeResponse) (s : σ) :
    KeResult × σ :=
  let response := { response with used := 0 }
  match keys.run.run s with
  | (.error halt, s) => ((.error (haltError halt), response), s)
  | (.ok keys, s) =>
      match appendRecord response ntsKeRecordNextProtocol true [0x00, 0x00] with
      | (.ok (), response) =>
          match appendRecord response ntsKeRecordAeadAlgorithm false [0x00, 0x0F] with
          | (.ok (), response) =>
              match appendCookieRecordsWith (create keys) ntsKeCookieCount response s with
              | ((.ok (), response), s) => (appendRecord response ntsKeRecordEndOfMessage true [], s)
              | stopped => stopped
          | stopped => (stopped, s)
      | stopped => (stopped, s)

def keRespondWith (keys : ExceptT (Halt EspErr) (StateM σ) CookieKeys)
    (create : CookieKeys → Nat → ExceptT (Halt EspErr) (StateM σ) Bytes) (read : EspErr × Bytes)
    (response : KeResponse) (s : σ) : KeResponse × σ :=
  if read.1 = .ok then
    let (err, state) := parseRequest read.2
    if err = .ok then
      match buildSuccessResponseWith keys create response s with
      | ((.ok (), response), s) => (response, s)
      | ((.error _, response), s) => ((buildErrorResponse ntsKeErrorInternalServer response).2, s)
    else
      let protocolError :=
        if state.protocolError ≤ ntsKeErrorInternalServer then state.protocolError
        else ntsKeErrorBadRequest
      ((buildErrorResponse protocolError response).2, s)
  else ((buildErrorResponse ntsKeErrorBadRequest response).2, s)

/-- `handle_client` after the handshake. `none` while it waits for the request. -/
def handleClientWith (keys : ExceptT (Halt EspErr) (StateM σ) CookieKeys)
    (create : CookieKeys → Nat → ExceptT (Halt EspErr) (StateM σ) Bytes) (reads : List TlsRead)
    (buffer : KeResponseBuffer) (s : σ) : Option (Option Bytes × σ) :=
  (tlsReadRequest ntsKeRequestMax [] reads).map fun read =>
    let (response, s) := keRespondWith keys create read ⟨buffer.bytes, 0⟩ s
    (if response.used > 0 then some (response.buffer.take response.used) else none, s)

def ntsNtpAuthVerifyRequestWith (aead : Aead) (unpack : Bytes → ExceptT (Halt EspErr) (StateM σ) CookieKeys)
    (packet : Bytes) : ExceptT (Halt EspErr) (StateM σ) NtsNtpAuthContext := fun s =>
  if packet.length < ntpHeaderLen ∨ packet.length > ntsNtpMaxPacketSize then
    (.error (.error .invalidArg), s)
  else match collectFields packet packet.length ntpHeaderLen noFields with
    | .error err => (.error (.error err), s)
    | .ok ⟨some uid, some cookie, placeholderLengths, some (authOffset, authBody)⟩ =>
        match authenticatorParts authBody with
        | .error err => (.error (.error err), s)
        | .ok (nonce, ciphertext) =>
            match (unpack cookie).run.run s with
            | (.error halt, s) => (.error halt, s)
            | (.ok keys, s) =>
                match aead.decrypt keys.c2sKey.bytes (packet.take authOffset) nonce ciphertext with
                | .error err => (.error (.error err), s)
                | .ok plaintext =>
                    if plaintext.length ≠ 0 then (.error (.error .notSupported), s)
                    else (.ok {
                      uniqueId := uniqueIdOf uid
                      uniqueIdLen := uid.length
                      validPlaceholders := placeholderLengths.count cookie.length
                      requestLength := packet.length
                      keys := keys
                      authenticated := true }, s)
    | .ok _ => (.error (.error .notFound), s)

def immediate {α : Type} (result : Except EspErr α) : ExceptT (Halt EspErr) (StateM σ) α :=
  fun s => (result.mapError .error, s)

@[simp] theorem immediate_ok {α : Type} (a : α) (s : σ) : (immediate (.ok a)).run.run s = (.ok a, s) := rfl

@[simp] theorem immediate_error {α : Type} (err : EspErr) (s : σ) :
    (immediate (.error err) : ExceptT (Halt EspErr) (StateM σ) α).run.run s = (.error (.error err), s) := rfl

theorem appendCookieRecords_eq (aead : Aead) (env : KeEnv) (keys : CookieKeys) {remaining : Nat}
    (few : remaining ≤ ntsKeCookieCount) (response : KeResponse) (s : σ) :
    appendCookieRecordsWith (fun turn => immediate (env.cookie aead keys (ntsKeCookieCount - remaining + turn)))
        remaining response s = (appendCookieRecords aead env keys remaining response, s) := by
  induction remaining generalizing response with
  | zero => rfl
  | succ remaining ih =>
      have next (turn : Nat) : ntsKeCookieCount - (remaining + 1) + (turn + 1) =
          ntsKeCookieCount - remaining + turn := by omega
      rw [appendCookieRecordsWith, appendCookieRecords, Nat.add_zero]
      cases env.cookie aead keys (ntsKeCookieCount - (remaining + 1)) with
      | error err => rfl
      | ok cookie =>
          simp only [next, immediate_ok]
          cases appendRecord response ntsKeRecordNewCookie false cookie with
          | mk result response =>
              cases result with
              | error err => rfl
              | ok => exact ih (by omega) response

theorem buildSuccessResponse_eq (aead : Aead) (env : KeEnv) (response : KeResponse) (s : σ) :
    buildSuccessResponseWith (immediate env.cookieKeys) (fun keys turn => immediate (env.cookie aead keys turn))
      response s = (buildSuccessResponse aead env response, s) := by
  unfold buildSuccessResponseWith buildSuccessResponse
  cases env.cookieKeys with
  | error err => rfl
  | ok keys =>
      have cookies := @appendCookieRecords_eq σ aead env keys ntsKeCookieCount le_rfl
      simp only [Nat.sub_self, Nat.zero_add] at cookies
      simp only [immediate_ok, cookies]
      rcases appendRecord _ ntsKeRecordNextProtocol true [0x00, 0x00] with ⟨_ | _, response⟩
      · rfl
      · dsimp only
        rcases appendRecord _ ntsKeRecordAeadAlgorithm false [0x00, 0x0F] with ⟨_ | _, response⟩
        · rfl
        · dsimp only
          rcases appendCookieRecords aead env keys ntsKeCookieCount _ with ⟨_ | _, response⟩ <;> rfl

/-- The NTS-KE server that nothing else happens beside is one case. -/
theorem handleClient_eq (aead : Aead) (env : KeEnv) (reads : List TlsRead) (buffer : KeResponseBuffer) (s : σ) :
    handleClientWith (immediate env.cookieKeys) (fun keys turn => immediate (env.cookie aead keys turn)) reads
        buffer s = (handleClient aead env reads buffer).map fun sent => (sent, s) := by
  have respond (read : EspErr × Bytes) (response : KeResponse) :
      keRespondWith (immediate env.cookieKeys) (fun keys turn => immediate (env.cookie aead keys turn)) read
        response s = (keRespond aead env read response, s) := by
    unfold keRespondWith keRespond
    simp only [buildSuccessResponse_eq]
    split
    next =>
      split
      next =>
        cases buildSuccessResponse aead env response with
        | mk result response => cases result <;> rfl
      next => rfl
    next => rfl
  simp [handleClientWith, handleClient, respond, Function.comp_def]

theorem ntsNtpAuthVerifyRequest_eq (aead : Aead) (store : Option Keyring) (env : CookieEnv) (packet : Bytes) :
    (ntsNtpAuthVerifyRequestWith aead (fun cookie store =>
        ((ntsCookieUnpack aead store env cookie).1.mapError Halt.error, (ntsCookieUnpack aead store env cookie).2))
      packet).run.run store =
      ((ntsNtpAuthVerifyRequest aead store env packet).1.mapError Halt.error,
        (ntsNtpAuthVerifyRequest aead store env packet).2) := by
  unfold ntsNtpAuthVerifyRequestWith ntsNtpAuthVerifyRequest
  simp only [ExceptT.run, StateT.run]
  split
  next => rfl
  next =>
    rcases collectFields packet packet.length ntpHeaderLen noFields with
      err | ⟨_ | uid, _ | cookie, placeholderLengths, _ | ⟨authOffset, authBody⟩⟩
    case ok.some.some.some =>
      dsimp only
      rcases authenticatorParts authBody with err | ⟨nonce, ciphertext⟩
      · rfl
      · dsimp only
        rcases ntsCookieUnpack aead store env cookie with ⟨err | keys, after⟩
        · rfl
        · simp only [Except.mapError]
          rcases aead.decrypt keys.c2sKey.bytes (packet.take authOffset) nonce ciphertext with err | plaintext
          · rfl
          · dsimp only
            split <;> rfl
    all_goals rfl

end

/-! ## Calls that return traffic keys, in a history -/

deriving instance DecidableEq for CookieCall, CookieTask

def generateLoaded (keyring : Keyring) (clock : Option Nat) (lifetimeSeconds : Nat)
    (trafficKeys : TrafficKey × TrafficKey) : Except EspErr CookieKeys :=
  match getActiveCookieMasterKey keyring, clock with
  | none, _ => .error .notFound
  | some _, none => .error .invalidState
  | some active, some nowNtp => .ok {
      c2sKey := trafficKeys.1
      s2cKey := trafficKeys.2
      masterKeyId := active.keyId
      issuedNtpSeconds := nowNtp
      expiresNtpSeconds := u64 (nowNtp + lifetimeSeconds) }

theorem ntsCookieGenerateKeys_eq (store : Option Keyring) (env : CookieEnv) (lifetimeSeconds : Nat) :
    ntsCookieGenerateKeys store env lifetimeSeconds =
      if lifetimeSeconds = 0 then (.error .invalidArg, store)
      else withMaintainedKeyring store env fun keyring =>
        generateLoaded keyring env.clock lifetimeSeconds env.trafficKeys := rfl

section

variable {ι : Type}

/-- What happens from the start of a call to its last load, and its reading of the clock after that. -/
structure KeysHistory (ι : Type) where
  events : List (CookieEvent ι)
  loadFails : Bool
  nonce : CookieNonce
  clock : Option Nat

variable [DecidableEq ι]

def CookieSystem.keysReturn (s : CookieSystem ι) (task : ι) (call : CookieCall) (history : KeysHistory ι)
    (read : Keyring → Option Nat → Except EspErr CookieKeys) : Except EspErr CookieKeys :=
  if s.tasks task = .maintained call then
    match loadCookieKeyring s.store history.loadFails with
    | .error err => .error err
    | .ok keyring => read keyring history.clock
  else .error .fail

/-- A call in a history whose events meet a condition, as `createIn`. -/
def keysIn (aead : Aead) (meets : CookieSystem ι → CookieEvent ι → Prop)
    [∀ s event, Decidable (meets s event)] (task : ι) (call : CookieCall) (history : KeysHistory ι)
    (read : Keyring → Option Nat → Except EspErr CookieKeys) :
    ExceptT (Halt EspErr) (StateM (CookieSystem ι)) CookieKeys := fun s =>
  match execute (cookieStep aead) meets s (.call task call :: history.events) with
  | none => (.error (.error .fail), s)
  | some last =>
      match execute (cookieStep aead) meets last
          (.finish task history.loadFails history.nonce :: history.clock.toList.map .wait) with
      | none => (.error (.error .fail), last)
      | some s => ((last.keysReturn task call history read).mapError .error, s)

/-! ## The clients -/

structure NtsClient where
  c2sKey : TrafficKey
  s2cKey : TrafficKey
  cookies : List Bytes
  /-- the requests since the last response -/
  unanswered : Nat

def NtsClient.spend (client : NtsClient) (cookie : Bytes) : Option (List Bytes) → NtsClient
  | none => { client with
      cookies := client.cookies.erase cookie
      unanswered := client.unanswered + 1 }
  | some fresh => { client with
      cookies := client.cookies.erase cookie ++ fresh
      unanswered := 0 }

def clientKeCookies (response : Bytes) : Option (List Bytes) := do
  let records ← decodeRecords (response.length + 1) response
  if records.any fun record => record.type == ntsKeRecordError then none
  return (records.filter fun record => record.type == ntsKeRecordNewCookie).map Record.body

/-! ## The system -/

structure NtsSystem (ι κ : Type) where
  keyring : CookieSystem ι
  clients : κ → Option NtsClient

def ntsStart {ι κ : Type} : NtsSystem ι κ := ⟨cookieStart, fun _ => none⟩

/-- A TLS session with the NTS-KE server. Its ends export the same keys, if the exporter works. -/
structure KeSession (ι : Type) where
  task : ι
  c2sKey : TrafficKey
  s2cKey : TrafficKey
  exported : Bool
  reads : List TlsRead
  buffer : KeResponseBuffer
  generate : KeysHistory ι
  create : Nat → CreateHistory ι
  delivered : Bool

/-- `packet` is what the buffer of the response holds before it is protected. -/
structure NtpExchange (ι : Type) where
  task : ι
  cookie : Bytes
  request : Bytes
  unpack : KeysHistory ι
  create : Nat → CreateHistory ι
  nonce : CookieNonce
  packet : Bytes
  size : packet.length = ntsNtpMaxPacketSize
  delivered : Bool

inductive NtsEvent (ι κ : Type)
  | keyring (event : CookieEvent ι)
  | establish (client : κ) (session : KeSession ι)
  | exchange (client : κ) (exchange : NtpExchange ι)

section

variable (aead : Aead) (meets : CookieSystem ι → CookieEvent ι → Prop) [∀ s event, Decidable (meets s event)]

def KeSession.keys (session : KeSession ι) : ExceptT (Halt EspErr) (StateM (CookieSystem ι)) CookieKeys :=
  if session.exported then
    keysIn aead meets session.task .generate session.generate fun keyring clock =>
      generateLoaded keyring clock ntsKeCookieLifetimeSeconds (session.c2sKey, session.s2cKey)
  else throw (.error .fail)

def KeSession.respond (session : KeSession ι) (s : CookieSystem ι) : Option (Option Bytes × CookieSystem ι) :=
  handleClientWith (session.keys aead meets)
    (fun keys turn => createIn aead meets session.task keys (session.create turn)) session.reads
    session.buffer s

def NtpExchange.respond (exchange : NtpExchange ι) :
    ExceptT (Halt EspErr) (StateM (CookieSystem ι)) (Bytes × Nat) := do
  let context ← ntsNtpAuthVerifyRequestWith aead (fun cookie =>
    keysIn aead meets exchange.task (.unpack cookie) exchange.unpack fun keyring clock =>
      unpackLoaded aead keyring cookie clock) exchange.request
  protectResponseWith aead (fun turn => createIn aead meets exchange.task context.keys (exchange.create turn))
    exchange.nonce context exchange.packet ntpHeaderLen ntsNtpMaxPacketSize

variable {κ : Type} [DecidableEq κ]

def NtsSystem.establish (s : NtsSystem ι κ) (client : κ) (session : KeSession ι) : Option (NtsSystem ι κ) :=
  (session.respond aead meets s.keyring).map fun (response, keyring) =>
    match if session.delivered then response.bind clientKeCookies else none with
    | none => { s with keyring := keyring }
    | some cookies => ⟨keyring, Function.update s.clients client
        (some ⟨session.c2sKey, session.s2cKey, cookies, 0⟩)⟩

def NtsSystem.exchange (s : NtsSystem ι κ) (client : κ) (exchange : NtpExchange ι) :
    Option (NtsSystem ι κ) :=
  match s.clients client with
  | none => none
  | some held =>
      if exchange.cookie ∈ held.cookies then
        let (reply, keyring) := (exchange.respond aead meets).run.run s.keyring
        let fresh := if exchange.delivered then reply.toOption.bind fun (packet, packetLen) =>
          clientCookies aead held.s2cKey (packet.take packetLen) else none
        some ⟨keyring, Function.update s.clients client (some (held.spend exchange.cookie fresh))⟩
      else none

def ntsStep (s : NtsSystem ι κ) : NtsEvent ι κ → Option (NtsSystem ι κ)
  | .keyring event =>
      if meets s.keyring event then
        (cookieStep aead s.keyring event).map fun keyring => { s with keyring := keyring }
      else none
  | .establish client session => s.establish aead meets client session
  | .exchange client exchange => s.exchange aead meets client exchange

end

end

end NtsTimeServer.Model
