import NtsTimeServer.Lib.Memory
import NtsTimeServer.Lib.Tlv
import NtsTimeServer.Model.Cookie

/-!
# NTS extension fields of NTP packets

`nts_ntp_auth.c`: the verification of a request and the protection of a response.
-/

namespace NtsTimeServer.Model
open Lib

def ntpHeaderLen : Nat := 48
def ntsNtpMaxPacketSize : Nat := 1280
def ntsNtpMaxUidLen : Nat := 256
def ntsNtpMaxPlaceholders : Nat := 7

def ntsEfUniqueIdentifier : Nat := 0x0104
def ntsEfCookie : Nat := 0x0204
def ntsEfCookiePlaceholder : Nat := 0x0304
def ntsEfAuthenticator : Nat := 0x0404

structure UniqueId where
  bytes : Bytes
  length : bytes.length = 256
  deriving DecidableEq

def uniqueIdOf (uid : Bytes) : UniqueId where
  bytes := (uid ++ List.replicate ntsNtpMaxUidLen 0).take ntsNtpMaxUidLen
  length := by
    rw [List.length_take, List.length_append, List.length_replicate]
    exact min_eq_left (Nat.le_add_left _ _)

structure NtsNtpAuthContext where
  uniqueId : UniqueId
  uniqueIdLen : Nat
  validPlaceholders : Nat
  requestLength : Nat
  keys : CookieKeys
  authenticated : Bool
  deriving DecidableEq

def roundUp4 (value : Nat) : Nat := (value + 3) / 4 * 4

def isNtsType (type : Nat) : Bool :=
  type == ntsEfUniqueIdentifier || type == ntsEfCookie || type == ntsEfCookiePlaceholder ||
    type == ntsEfAuthenticator

/-- The loop of `nts_ntp_auth_request_present`. A turn moves the offset by at least 4, so
`packet.length` turns are enough. -/
def requestPresentFrom (packet : Bytes) : Nat → Nat → Bool
  | 0, _ => false
  | fuel + 1, offset =>
      if packet.length - offset < 4 then false
      else
        let type := readBe16 packet offset
        let fieldLen := readBe16 packet (offset + 2)
        if isNtsType type then true
        else if fieldLen < 4 ∨ fieldLen % 4 ≠ 0 ∨ fieldLen > packet.length - offset then false
        else requestPresentFrom packet fuel (offset + fieldLen)

def ntsNtpAuthRequestPresent (packet : Bytes) : Bool :=
  if packet.length ≤ ntpHeaderLen then false
  else requestPresentFrom packet packet.length ntpHeaderLen

/-! ## Requests -/

structure RequestFields where
  uid : Option Bytes
  cookie : Option Bytes
  placeholderLengths : List Nat
  /-- the offset and the body of the first authenticator -/
  auth : Option (Nat × Bytes)
  deriving DecidableEq, Repr

def noFields : RequestFields := ⟨none, none, [], none⟩

def collectField (fields : RequestFields) (offset : Nat) (field : Field) :
    Except EspErr RequestFields :=
  if fields.auth.isSome then .ok fields
  else if field.type = ntsEfUniqueIdentifier then
    if fields.uid.isSome ∨ field.body.length < 32 ∨ field.body.length > ntsNtpMaxUidLen then
      .error .invalidResponse
    else .ok { fields with uid := some field.body }
  else if field.type = ntsEfCookie then
    if fields.cookie.isSome ∨ field.body.length = 0 ∨ field.body.length > ntsCookieMaxLen then
      .error .invalidResponse
    else .ok { fields with cookie := some field.body }
  else if field.type = ntsEfCookiePlaceholder then
    if fields.placeholderLengths.length < ntsNtpMaxPlaceholders then
      .ok { fields with placeholderLengths := fields.placeholderLengths ++ [field.body.length] }
    else .ok fields
  else if field.type = ntsEfAuthenticator then .ok { fields with auth := some (offset, field.body) }
  else .ok fields

/-- The loop of `verify_request_impl`. A turn moves the offset by at least 4, so `packet.length`
turns are enough. -/
def collectFields (packet : Bytes) : Nat → Nat → RequestFields → Except EspErr RequestFields
  | 0, _, _ => .error .fail
  | fuel + 1, offset, fields =>
      if offset ≥ packet.length then .ok fields
      else if packet.length - offset < 4 then .error .invalidSize
      else
        let type := readBe16 packet offset
        let fieldLen := readBe16 packet (offset + 2)
        if fieldLen < 4 ∨ fieldLen % 4 ≠ 0 ∨ fieldLen > packet.length - offset then
          .error .invalidSize
        else
          let body := (packet.drop (offset + 4)).take (fieldLen - 4)
          match collectField fields offset ⟨type, body⟩ with
          | .error err => .error err
          | .ok fields => collectFields packet fuel (offset + fieldLen) fields

def authenticatorParts (authBody : Bytes) : Except EspErr (Bytes × Bytes) :=
  if authBody.length < 4 then .error .invalidSize
  else
    let nonceLen := readBe16 authBody 0
    let ciphertextLen := readBe16 authBody 2
    if nonceLen ≠ ntsAesSivNonceLen ∨ ciphertextLen < ntsAesSivTagLen ∨
        4 + roundUp4 nonceLen + roundUp4 ciphertextLen > authBody.length then .error .invalidSize
    else .ok ((authBody.drop 4).take nonceLen,
      (authBody.drop (4 + roundUp4 nonceLen)).take ciphertextLen)

/-- `verify_request_impl`. The ciphertext is part of the packet, so `s_plaintext` is large enough
for its plaintext. -/
def ntsNtpAuthVerifyRequest (aead : Aead) (store : Option Keyring) (env : CookieEnv)
    (packet : Bytes) : Except EspErr NtsNtpAuthContext × Option Keyring :=
  if packet.length < ntpHeaderLen ∨ packet.length > ntsNtpMaxPacketSize then
    (.error .invalidArg, store)
  else match collectFields packet packet.length ntpHeaderLen noFields with
    | .error err => (.error err, store)
    | .ok ⟨some uid, some cookie, placeholderLengths, some (authOffset, authBody)⟩ =>
        match authenticatorParts authBody with
        | .error err => (.error err, store)
        | .ok (nonce, ciphertext) =>
            match ntsCookieUnpack aead store env cookie with
            | (.error err, store) => (.error err, store)
            | (.ok keys, store) =>
                match aead.decrypt keys.c2sKey.bytes (packet.take authOffset) nonce ciphertext with
                | .error err => (.error err, store)
                | .ok plaintext =>
                    if plaintext.length ≠ 0 then (.error .notSupported, store)
                    else (.ok {
                      uniqueId := uniqueIdOf uid
                      uniqueIdLen := uid.length
                      validPlaceholders := placeholderLengths.count cookie.length
                      requestLength := packet.length
                      keys := keys
                      authenticated := true }, store)
    | .ok _ => (.error .notFound, store)

/-! ## Responses -/

def subSize (a b : Nat) : Nat := u32 (a + 2 ^ 32 - b)

def appendExtension (packet : Bytes) (capacity offset type : Nat) (body : Bytes) (bodyLen : Nat) :
    Except (Halt EspErr) (Bytes × Nat) := do
  let fieldLen := 4 + bodyLen
  if fieldLen > 65535 ∨ fieldLen % 4 ≠ 0 ∨ fieldLen > subSize capacity offset then
    throw (.error .invalidSize)
  let packet ← memcpy packet offset (beBytes 2 type) 2
  let packet ← memcpy packet (offset + 2) (beBytes 2 fieldLen) 2
  let packet ← memcpy packet (offset + 4) body bodyLen
  return (packet, offset + fieldLen)

/-- `nts_aes_siv_encrypt` into a buffer of `capacity` bytes. -/
def encryptWithin (aead : Aead) (capacity : Nat) (key associatedData nonce plaintext : Bytes) :
    Except (Halt EspErr) Bytes :=
  if capacity < ntsAesSivTagLen + plaintext.length then .error (.error .invalidSize)
  else (aead.encrypt key associatedData nonce plaintext).mapError .error

def createCookie (aead : Aead) (env : CookieEnv) (keys : CookieKeys) :
    ExceptT (Halt EspErr) (StateM (Option Keyring)) Bytes := fun store =>
  let (result, store) := ntsCookieCreate aead store env keys ntsCookieMaxLen
  (result.mapError .error, store)

/-- The loop over the cookies of a response; `envs` gives what each call reads from outside. -/
def appendCookies (aead : Aead) (keys : CookieKeys) : Nat → (Nat → CookieEnv) → Bytes → Nat →
    ExceptT (Halt EspErr) (StateM (Option Keyring)) (Bytes × Nat)
  | 0, _, plaintext, plaintextLen => pure (plaintext, plaintextLen)
  | count + 1, envs, plaintext, plaintextLen => do
      let cookie ← createCookie aead (envs 0) keys
      let (plaintext, plaintextLen) ← appendExtension plaintext ntsNtpMaxPacketSize plaintextLen
        ntsEfCookie cookie cookie.length
      appendCookies aead keys count (fun turn => envs (turn + 1)) plaintext plaintextLen

def authenticatorBody (nonce ciphertext : Bytes) : Except (Halt EspErr) (Bytes × Nat) := do
  let authBodyLen := 4 + roundUp4 ntsAesSivNonceLen + roundUp4 ciphertext.length
  if authBodyLen > ntsNtpMaxPacketSize then throw (.error .invalidSize)
  let authBody ← memsetZero (List.replicate ntsNtpMaxPacketSize 0) authBodyLen
  let authBody ← memcpy authBody 0 (beBytes 2 ntsAesSivNonceLen) 2
  let authBody ← memcpy authBody 2 (beBytes 2 ciphertext.length) 2
  let authBody ← memcpy authBody 4 nonce ntsAesSivNonceLen
  let authBody ← memcpy authBody (4 + roundUp4 ntsAesSivNonceLen) ciphertext ciphertext.length
  return (authBody, authBodyLen)

/-- `protect_response_impl`: the packet and its length. -/
def ntsNtpAuthProtectResponse (aead : Aead) (envs : Nat → CookieEnv) (nonce : CookieNonce)
    (context : NtsNtpAuthContext) (packet : Bytes) (basePacketLen packetCapacity : Nat) :
    ExceptT (Halt EspErr) (StateM (Option Keyring)) (Bytes × Nat) := do
  if ¬context.authenticated ∨ basePacketLen ≠ ntpHeaderLen ∨ packetCapacity < basePacketLen ∨
      packetCapacity > ntsNtpMaxPacketSize then throw (.error .invalidArg)
  let (packet, offset) ← appendExtension packet packetCapacity basePacketLen ntsEfUniqueIdentifier
    context.uniqueId.bytes context.uniqueIdLen
  let cookieCount := min (u16 (1 + context.validPlaceholders)) (1 + ntsNtpMaxPlaceholders)
  let (plaintext, plaintextLen) ← appendCookies aead context.keys cookieCount envs
    (List.replicate ntsNtpMaxPacketSize 0) 0
  let ciphertext ← encryptWithin aead ntsNtpMaxPacketSize context.keys.s2cKey.bytes
    (packet.take offset) nonce.bytes (plaintext.take plaintextLen)
  let (authBody, authBodyLen) ← authenticatorBody nonce.bytes ciphertext
  let (packet, offset) ← appendExtension packet packetCapacity offset ntsEfAuthenticator authBody
    authBodyLen
  if offset > context.requestLength then throw (.error .invalidSize)
  return (packet, offset)

section

variable {σ : Type}

/-- The loop over the cookies of a response, for any calls of `nts_cookie_create`. -/
def appendCookiesWith : (Nat → ExceptT (Halt EspErr) (StateM σ) Bytes) → Nat → Bytes → Nat →
    ExceptT (Halt EspErr) (StateM σ) (Bytes × Nat)
  | _, 0, plaintext, plaintextLen => pure (plaintext, plaintextLen)
  | create, count + 1, plaintext, plaintextLen => do
      let cookie ← create 0
      let (plaintext, plaintextLen) ← appendExtension plaintext ntsNtpMaxPacketSize plaintextLen
        ntsEfCookie cookie cookie.length
      appendCookiesWith (fun turn => create (turn + 1)) count plaintext plaintextLen

def protectResponseWith (aead : Aead) (create : Nat → ExceptT (Halt EspErr) (StateM σ) Bytes)
    (nonce : CookieNonce) (context : NtsNtpAuthContext) (packet : Bytes)
    (basePacketLen packetCapacity : Nat) : ExceptT (Halt EspErr) (StateM σ) (Bytes × Nat) := do
  if ¬context.authenticated ∨ basePacketLen ≠ ntpHeaderLen ∨ packetCapacity < basePacketLen ∨
      packetCapacity > ntsNtpMaxPacketSize then throw (.error .invalidArg)
  let (packet, offset) ← appendExtension packet packetCapacity basePacketLen ntsEfUniqueIdentifier
    context.uniqueId.bytes context.uniqueIdLen
  let cookieCount := min (u16 (1 + context.validPlaceholders)) (1 + ntsNtpMaxPlaceholders)
  let (plaintext, plaintextLen) ← appendCookiesWith create cookieCount
    (List.replicate ntsNtpMaxPacketSize 0) 0
  let ciphertext ← encryptWithin aead ntsNtpMaxPacketSize context.keys.s2cKey.bytes
    (packet.take offset) nonce.bytes (plaintext.take plaintextLen)
  let (authBody, authBodyLen) ← authenticatorBody nonce.bytes ciphertext
  let (packet, offset) ← appendExtension packet packetCapacity offset ntsEfAuthenticator authBody
    authBodyLen
  if offset > context.requestLength then throw (.error .invalidSize)
  return (packet, offset)

theorem appendCookies_eq (aead : Aead) (keys : CookieKeys) (count : Nat) (envs : Nat → CookieEnv)
    (plaintext : Bytes) (plaintextLen : Nat) :
    appendCookies aead keys count envs plaintext plaintextLen =
      appendCookiesWith (fun turn => createCookie aead (envs turn) keys) count plaintext
        plaintextLen := by
  induction count generalizing envs plaintext plaintextLen with
  | zero => rfl
  | succ count ih =>
      rw [appendCookies, appendCookiesWith]
      simp only [ih]

theorem ntsNtpAuthProtectResponse_eq (aead : Aead) (envs : Nat → CookieEnv) (nonce : CookieNonce)
    (context : NtsNtpAuthContext) (packet : Bytes) (basePacketLen packetCapacity : Nat) :
    ntsNtpAuthProtectResponse aead envs nonce context packet basePacketLen packetCapacity =
      protectResponseWith aead (fun turn => createCookie aead (envs turn) context.keys) nonce context
        packet basePacketLen packetCapacity := by
  unfold ntsNtpAuthProtectResponse protectResponseWith
  simp only [appendCookies_eq]

end

end NtsTimeServer.Model
