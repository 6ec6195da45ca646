import NtsTimeServer.Model.CookieSystem
import NtsTimeServer.Model.NtpAuth

/-!
# An exchange with a client

The cookies of a response are created while other tasks use the keyring. The client is not part of
the firmware: it reads a response as RFC 8915 frames it.
-/

namespace NtsTimeServer.Model
open Lib

section

variable {ι : Type}

/-- What happens from the start of a call of `nts_cookie_create` to its last load: the steps of the
call and everything else. -/
structure CreateHistory (ι : Type) where
  events : List (CookieEvent ι)
  loadFails : Bool
  nonce : CookieNonce

/-- What `nts_cookie_create` returns when `task` takes the last step of the call. -/
def CookieSystem.createReturns (aead : Aead) (s : CookieSystem ι) (task : ι) (keys : CookieKeys)
    (loadFails : Bool) (nonce : CookieNonce) : Except EspErr Bytes :=
  match s.tasks task with
  | .maintained (.create keys' cookieLen) =>
      if keys' = keys then
        match loadCookieKeyring s.store loadFails with
        | .error err => .error err
        | .ok keyring => createLoaded aead keyring keys cookieLen nonce
      else .error .fail
  | _ => .error .fail

variable [DecidableEq ι]

/-- `nts_cookie_create` into a buffer of `NTS_COOKIE_MAX_LEN` bytes, in a history whose events meet a
condition. A call that ends early, or whose history cannot happen, fails. -/
def createIn (aead : Aead) (meets : CookieSystem ι → CookieEvent ι → Prop)
    [∀ s event, Decidable (meets s event)] (task : ι) (keys : CookieKeys) (history : CreateHistory ι) :
    ExceptT (Halt EspErr) (StateM (CookieSystem ι)) Bytes := fun s =>
  let call := .call task (.create keys ntsCookieMaxLen)
  match execute (cookieStep aead) meets s (call :: history.events) with
  | none => (.error (.error .fail), s)
  | some last =>
      match cookieStep aead last (.finish task history.loadFails history.nonce) with
      | none => (.error (.error .fail), last)
      | some s =>
          ((last.createReturns aead task keys history.loadFails history.nonce).mapError .error, s)

end

/-! ## The client -/

def authenticatorFields (body : Bytes) : Option (Bytes × Bytes) :=
  let nonceLen := readBe16 body 0
  let ciphertextLen := readBe16 body 2
  if body.length < 4 ∨ body.length < 4 + roundUp4 nonceLen + roundUp4 ciphertextLen then none
  else some ((body.drop 4).take nonceLen, (body.drop (4 + roundUp4 nonceLen)).take ciphertextLen)

def clientCookies (aead : Aead) (s2cKey : TrafficKey) (response : Bytes) : Option (List Bytes) := do
  let fields ← parseFields (response.drop ntpHeaderLen)
  let before := fields.takeWhile fun field => field.type != ntsEfAuthenticator
  let authenticator ← fields.find? fun field => field.type == ntsEfAuthenticator
  let (nonce, ciphertext) ← authenticatorFields authenticator.body
  let associatedData := response.take (ntpHeaderLen + (encodeFields before).length)
  let plaintext ← (aead.decrypt s2cKey.bytes associatedData nonce ciphertext).toOption
  let encrypted ← parseFields plaintext
  return (encrypted.filter fun field => field.type == ntsEfCookie).map Field.body

end NtsTimeServer.Model
