import NtsTimeServer.Model.AesSiv
import NtsTimeServer.Model.Keyring

/-!
# NTS cookies

`nts_cookie.c`: a cookie is the id of a master key, a nonce, and the traffic keys with their times
sealed under that key. Each function maintains the keyring, loads it and then works on the ring it
loaded; the last part has a definition of its own.
-/

namespace NtsTimeServer.Model
open Lib

def ntsTrafficKeyLen : Nat := 32
def ntsCookieNonceLen : Nat := 16
def ntsCookieMaxLen : Nat := 256
def ntsCookieMagic : Nat := 0x4E545343
def ntsCookieVersion : Nat := 1
def ntsCookiePlaintextLen : Nat := 4 + 2 + 2 + 4 + 8 + 8 + ntsTrafficKeyLen + ntsTrafficKeyLen
def ntsCookieWirePrefixLen : Nat := 4 + ntsCookieNonceLen

def ntsCookieLen : Nat := ntsCookieWirePrefixLen + ntsAesSivTagLen + ntsCookiePlaintextLen

structure TrafficKey where
  bytes : Bytes
  length : bytes.length = 32
  deriving DecidableEq

def trafficKeyAt (source : Bytes) (offset : Nat) : TrafficKey where
  bytes := (source.drop offset ++ List.replicate 32 0).take 32
  length := by simp

structure CookieNonce where
  bytes : Bytes
  length : bytes.length = 16
  deriving DecidableEq

structure CookieKeys where
  c2sKey : TrafficKey
  s2cKey : TrafficKey
  masterKeyId : Nat
  issuedNtpSeconds : Nat
  expiresNtpSeconds : Nat
  deriving DecidableEq

def findCookieMasterKey (keyring : Keyring) (keyId : Nat) : Option CookieKey :=
  [keyring.previous, keyring.active, keyring.next].find? fun slot =>
    slot.valid != 0 && slot.keyId == keyId

def getActiveCookieMasterKey (keyring : Keyring) : Option CookieKey :=
  if keyring.active.valid = 0 then none else some keyring.active

/-! ## Creating -/

def cookiePlaintext (master : CookieKey) (keys : CookieKeys) : Bytes :=
  beBytes 4 ntsCookieMagic ++ (beBytes 2 ntsCookieVersion ++ (beBytes 2 0 ++
    (beBytes 4 master.keyId ++ (beBytes 8 keys.issuedNtpSeconds ++
      (beBytes 8 keys.expiresNtpSeconds ++ (keys.c2sKey.bytes ++ keys.s2cKey.bytes))))))

def sealCookie (aead : Aead) (master : CookieKey) (keys : CookieKeys)
    (nonce : CookieNonce) : Except EspErr Bytes :=
  match aead.encrypt master.key (beBytes 4 master.keyId) nonce.bytes (cookiePlaintext master keys) with
  | .error err => .error err
  | .ok encrypted => .ok (beBytes 4 master.keyId ++ (nonce.bytes ++ encrypted))

/-- `nts_cookie_create` on the ring it loads, into a buffer of `cookieLen` bytes. -/
def createLoaded (aead : Aead) (keyring : Keyring) (keys : CookieKeys) (cookieLen : Nat)
    (nonce : CookieNonce) : Except EspErr Bytes :=
  match getActiveCookieMasterKey keyring with
  | none => .error .notFound
  | some master =>
      if cookieLen < ntsCookieLen then .error .invalidSize else sealCookie aead master keys nonce

/-! ## Unpacking -/

def readCookiePlaintext (plaintext : Bytes) (masterKeyId : Nat) (clock : Option Nat) :
    Except EspErr CookieKeys :=
  if plaintext.length ≠ ntsCookiePlaintextLen then .error .invalidSize
  else if readBe32 plaintext 0 ≠ ntsCookieMagic ∨ readBe16 plaintext 4 ≠ ntsCookieVersion ∨
      readBe16 plaintext 6 ≠ 0 ∨ readBe32 plaintext 8 ≠ masterKeyId then .error .invalidResponse
  else match clock with
    | none => .error .invalidState
    | some nowNtp =>
        if readBe64 plaintext 20 ≤ nowNtp ∨ readBe64 plaintext 12 > nowNtp then .error .invalidState
        else .ok {
          c2sKey := trafficKeyAt plaintext 28
          s2cKey := trafficKeyAt plaintext 60
          masterKeyId := masterKeyId
          issuedNtpSeconds := readBe64 plaintext 12
          expiresNtpSeconds := readBe64 plaintext 20 }

/-- `nts_cookie_unpack` on the ring it loads. -/
def unpackLoaded (aead : Aead) (keyring : Keyring) (cookie : Bytes) (clock : Option Nat) :
    Except EspErr CookieKeys :=
  let masterKeyId := readBe32 cookie 0
  match findCookieMasterKey keyring masterKeyId with
  | none => .error .notFound
  | some master =>
      let nonce := (cookie.drop 4).take ntsCookieNonceLen
      match aead.decrypt master.key (cookie.take 4) nonce (cookie.drop ntsCookieWirePrefixLen) with
      | .error err => .error err
      | .ok plaintext => readCookiePlaintext plaintext masterKeyId clock

/-- What a cookie function reads from outside: the maintenance it begins with, whether its own load
fails, its own reading of the clock and its random bytes. -/
structure CookieEnv where
  maintain : StorageEnv
  loadFails : Bool
  clock : Option Nat
  nonce : CookieNonce
  trafficKeys : TrafficKey × TrafficKey

def withMaintainedKeyring {α : Type} (store : Option Keyring) (env : CookieEnv)
    (body : Keyring → Except EspErr α) : Except EspErr α × Option Keyring :=
  let (err, store) := ntsStorageMaintainCookieKeyring store env.maintain
  if err ≠ .ok then (.error err, store)
  else match loadCookieKeyring store env.loadFails with
    | .error err => (.error err, store)
    | .ok keyring => (body keyring, store)

def ntsCookieGenerateKeys (store : Option Keyring) (env : CookieEnv) (lifetimeSeconds : Nat) :
    Except EspErr CookieKeys × Option Keyring :=
  if lifetimeSeconds = 0 then (.error .invalidArg, store)
  else withMaintainedKeyring store env fun keyring =>
    match getActiveCookieMasterKey keyring, env.clock with
    | none, _ => .error .notFound
    | some _, none => .error .invalidState
    | some active, some nowNtp => .ok {
        c2sKey := env.trafficKeys.1
        s2cKey := env.trafficKeys.2
        masterKeyId := active.keyId
        issuedNtpSeconds := nowNtp
        expiresNtpSeconds := u64 (nowNtp + lifetimeSeconds) }

def ntsCookieCreate (aead : Aead) (store : Option Keyring) (env : CookieEnv) (keys : CookieKeys)
    (cookieLen : Nat) : Except EspErr Bytes × Option Keyring :=
  withMaintainedKeyring store env fun keyring => createLoaded aead keyring keys cookieLen env.nonce

def ntsCookieUnpack (aead : Aead) (store : Option Keyring) (env : CookieEnv) (cookie : Bytes) :
    Except EspErr CookieKeys × Option Keyring :=
  if cookie.length ≠ ntsCookieLen then (.error .invalidSize, store)
  else withMaintainedKeyring store env fun keyring => unpackLoaded aead keyring cookie env.clock

end NtsTimeServer.Model
