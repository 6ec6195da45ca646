import NtsTimeServer.Model.Cookie
import NtsTimeServer.Proof.AesSiv
import NtsTimeServer.Proof.Keyring

namespace NtsTimeServer.Proof
open Model Lib

variable {aead : Aead}

theorem trafficKeyAt_append_right {first : Bytes} (second : Bytes) {offset : Nat}
    (past : first.length ≤ offset) :
    trafficKeyAt (first ++ second) offset = trafficKeyAt second (offset - first.length) := by
  simp only [trafficKeyAt, List.drop_append, List.drop_eq_nil_of_le past, List.nil_append]

theorem trafficKeyAt_append (key : TrafficKey) (rest : Bytes) :
    trafficKeyAt (key.bytes ++ rest) 0 = key := by
  obtain ⟨bytes, length⟩ := key
  simp only [trafficKeyAt, List.drop_zero, List.append_assoc, List.take_left' length]

theorem trafficKeyAt_skip {size offset : Nat} (past : size ≤ offset) (value : Nat) (rest : Bytes) :
    trafficKeyAt (beBytes size value ++ rest) offset = trafficKeyAt rest (offset - size) := by
  rw [trafficKeyAt_append_right rest (by rwa [beBytes_length]), beBytes_length]

theorem cookiePlaintext_length (master : CookieKey) (keys : CookieKeys) :
    (cookiePlaintext master keys).length = ntsCookiePlaintextLen := by
  simp [cookiePlaintext, keys.c2sKey.length, keys.s2cKey.length, ntsCookiePlaintextLen,
    ntsTrafficKeyLen]

structure TimesFit (keys : CookieKeys) : Prop where
  issued : keys.issuedNtpSeconds < 2 ^ 64
  expires : keys.expiresNtpSeconds < 2 ^ 64

theorem cookiePlaintext_fields {master : CookieKey} {keys : CookieKeys}
    (id : master.keyId < 2 ^ 32) (fit : TimesFit keys) :
    let plaintext := cookiePlaintext master keys
    readBe32 plaintext 0 = ntsCookieMagic ∧ readBe16 plaintext 4 = ntsCookieVersion ∧
      readBe16 plaintext 6 = 0 ∧ readBe32 plaintext 8 = master.keyId ∧
      readBe64 plaintext 12 = keys.issuedNtpSeconds ∧
      readBe64 plaintext 20 = keys.expiresNtpSeconds ∧
      trafficKeyAt plaintext 28 = keys.c2sKey ∧ trafficKeyAt plaintext 60 = keys.s2cKey := by
  have last : trafficKeyAt keys.s2cKey.bytes 0 = keys.s2cKey := by
    have := trafficKeyAt_append keys.s2cKey []
    rwa [List.append_nil] at this
  intro plaintext
  simp (disch := decide) only [plaintext, cookiePlaintext, readBe_skip, trafficKeyAt_skip, Nat.reduceSub,
    Nat.sub_self]
  refine ⟨readBe_beBytes_append (by decide) _, readBe_beBytes_append (by decide) _,
    readBe_beBytes_append (by decide) _, readBe_beBytes_append id _,
    readBe_beBytes_append fit.issued _, readBe_beBytes_append fit.expires _,
    trafficKeyAt_append _ _, ?_⟩
  rw [trafficKeyAt_append_right _ (by rw [keys.c2sKey.length]), keys.c2sKey.length]
  exact last

/-! ## Unpacking what was created -/

theorem readCookiePlaintext_cookiePlaintext {master : CookieKey} {keys : CookieKeys}
    (id : master.keyId < 2 ^ 32) (fit : TimesFit keys) (nowNtp : Nat) :
    readCookiePlaintext (cookiePlaintext master keys) master.keyId (some nowNtp) =
      if keys.expiresNtpSeconds ≤ nowNtp ∨ keys.issuedNtpSeconds > nowNtp then .error .invalidState
      else .ok { keys with masterKeyId := master.keyId } := by
  obtain ⟨magic, version, reserved, keyId, issuedAt, expiresAt, c2s, s2c⟩ :=
    cookiePlaintext_fields id fit
  unfold readCookiePlaintext
  rw [if_neg (not_not.mpr (cookiePlaintext_length master keys)), if_neg (by simp [magic, version,
    reserved, keyId]), issuedAt, expiresAt, c2s, s2c]

theorem findCookieMasterKey_serves {keyring : Keyring} (regular : Regular keyring)
    {slot : CookieKey} (serves : Serves keyring slot) :
    findCookieMasterKey keyring slot.keyId = some slot := by
  obtain ⟨valid, rfl | rfl⟩ := serves
  · simp [findCookieMasterKey, valid]
  · rcases regular.previousValid with empty | populated
    · simp [findCookieMasterKey, valid, empty]
    · obtain ⟨previousId, activeId⟩ := regular.previousId populated
      have other : keyring.previous.keyId ≠ keyring.active.keyId := by
        rw [activeId]
        exact (nextKeyId_ne previousId).symm
      simp [findCookieMasterKey, valid, populated, other]

theorem Serves.id {keyring : Keyring} (regular : Regular keyring) {slot : CookieKey}
    (serves : Serves keyring slot) : slot.keyId < 2 ^ 32 := by
  obtain ⟨valid, rfl | rfl⟩ := serves
  · exact (regular.previousId valid).1.2
  · exact regular.activeId.2

theorem sealCookie_ok {master : CookieKey} {keys : CookieKeys} {nonce : CookieNonce}
    {cookie : Bytes} (sealed : sealCookie aead master keys nonce = .ok cookie) :
    ∃ encrypted, aead.encrypt master.key (beBytes 4 master.keyId) nonce.bytes
        (cookiePlaintext master keys) = .ok encrypted ∧
      cookie = beBytes 4 master.keyId ++ (nonce.bytes ++ encrypted) := by
  unfold sealCookie at sealed
  split at sealed
  · cases sealed
  · rename_i encrypted written
    exact ⟨encrypted, written, (Except.ok.inj sealed).symm⟩

theorem sealCookie_length {master : CookieKey} {keys : CookieKeys} {nonce : CookieNonce}
    {cookie : Bytes} (sealed : sealCookie aead master keys nonce = .ok cookie) :
    cookie.length = ntsCookieLen := by
  obtain ⟨encrypted, written, rfl⟩ := sealCookie_ok sealed
  have length := aead.encrypt_length written
  rw [cookiePlaintext_length] at length
  simp only [List.length_append, beBytes_length, nonce.length, length, ntsCookieLen,
    ntsCookieWirePrefixLen, ntsCookieNonceLen]
  omega

theorem unpackLoaded_found_eq (roundTrip : aead.RoundTrip) {keyring : Keyring} {slot : CookieKey}
    (found : findCookieMasterKey keyring slot.keyId = some slot) (id : slot.keyId < 2 ^ 32)
    {keys : CookieKeys} (fit : TimesFit keys) {nonce : CookieNonce} {cookie : Bytes}
    (sealed : sealCookie aead slot keys nonce = .ok cookie) (nowNtp : Nat) :
    unpackLoaded aead keyring cookie (some nowNtp) =
      if keys.expiresNtpSeconds ≤ nowNtp ∨ keys.issuedNtpSeconds > nowNtp then .error .invalidState
      else .ok { keys with masterKeyId := slot.keyId } := by
  obtain ⟨encrypted, written, rfl⟩ := sealCookie_ok sealed
  have prefixed : readBe32 (beBytes 4 slot.keyId ++ (nonce.bytes ++ encrypted)) 0 = slot.keyId :=
    readBe_beBytes_append id _
  have header : (beBytes 4 slot.keyId ++ (nonce.bytes ++ encrypted)).take 4 = beBytes 4 slot.keyId :=
    List.take_left' (beBytes_length _ _)
  have rest : (beBytes 4 slot.keyId ++ (nonce.bytes ++ encrypted)).drop 4 = nonce.bytes ++ encrypted :=
    List.drop_left' (beBytes_length _ _)
  have nonceRead : (nonce.bytes ++ encrypted).take ntsCookieNonceLen = nonce.bytes :=
    List.take_left' nonce.length
  have body : (beBytes 4 slot.keyId ++ (nonce.bytes ++ encrypted)).drop ntsCookieWirePrefixLen =
      encrypted := by
    rw [← List.append_assoc]
    exact List.drop_left' (by simp [nonce.length, ntsCookieWirePrefixLen, ntsCookieNonceLen])
  unfold unpackLoaded
  simp only [prefixed, found, header, rest, nonceRead, body, roundTrip _ _ _ _ _ written]
  exact readCookiePlaintext_cookiePlaintext id fit nowNtp

theorem unpackLoaded_found (roundTrip : aead.RoundTrip) {keyring : Keyring} {slot : CookieKey}
    (found : findCookieMasterKey keyring slot.keyId = some slot) (id : slot.keyId < 2 ^ 32)
    {keys : CookieKeys} (fit : TimesFit keys) {nonce : CookieNonce} {cookie : Bytes}
    (sealed : sealCookie aead slot keys nonce = .ok cookie) {nowNtp : Nat}
    (issued : keys.issuedNtpSeconds ≤ nowNtp) (unexpired : nowNtp < keys.expiresNtpSeconds) :
    unpackLoaded aead keyring cookie (some nowNtp) =
      .ok { keys with masterKeyId := slot.keyId } := by
  rw [unpackLoaded_found_eq roundTrip found id fit sealed]
  exact if_neg (by omega)

theorem unpackLoaded_sealCookie (roundTrip : aead.RoundTrip) {keyring : Keyring}
    (regular : Regular keyring) {slot : CookieKey} (serves : Serves keyring slot) {keys : CookieKeys}
    (fit : TimesFit keys) {nonce : CookieNonce} {cookie : Bytes}
    (sealed : sealCookie aead slot keys nonce = .ok cookie) {nowNtp : Nat}
    (issued : keys.issuedNtpSeconds ≤ nowNtp) (unexpired : nowNtp < keys.expiresNtpSeconds) :
    unpackLoaded aead keyring cookie (some nowNtp) =
      .ok { keys with masterKeyId := slot.keyId } :=
  unpackLoaded_found roundTrip (findCookieMasterKey_serves regular serves) (serves.id regular) fit
    sealed issued unexpired

theorem withMaintainedKeyring_ok {α : Type} {store after : Option Keyring} {env : CookieEnv}
    {body : Keyring → Except EspErr α} {a : α}
    (returned : withMaintainedKeyring store env body = (.ok a, after)) :
    ∃ keyring, after = some keyring ∧ body keyring = .ok a := by
  unfold withMaintainedKeyring at returned
  dsimp only at returned
  split at returned
  · cases returned
  · split at returned
    · cases returned
    · rename_i keyring loaded
      obtain ⟨value, rfl⟩ := Prod.mk.inj returned
      exact ⟨keyring, loadCookieKeyring_ok loaded, value⟩

theorem ntsCookieCreate_ok {store store' : Option Keyring} {env : CookieEnv} {keys : CookieKeys}
    {cookieLen : Nat} {cookie : Bytes}
    (created : ntsCookieCreate aead store env keys cookieLen = (.ok cookie, store')) :
    ∃ ring, store' = some ring ∧ ring.active.valid ≠ 0 ∧
      sealCookie aead ring.active keys env.nonce = .ok cookie := by
  obtain ⟨ring, stored, sealed⟩ := withMaintainedKeyring_ok created
  refine ⟨ring, stored, ?_⟩
  unfold createLoaded getActiveCookieMasterKey at sealed
  by_cases empty : ring.active.valid = 0
  · simp [empty] at sealed
  · rw [if_neg empty] at sealed
    dsimp only at sealed
    split at sealed
    · cases sealed
    · exact ⟨empty, sealed⟩

def fixedKey : TrafficKey := ⟨List.replicate 32 3, by simp⟩

def fixedNonce : CookieNonce := ⟨List.replicate 16 4, by simp⟩

def randomBytes (byte : UInt8) (_ : Nat) : Bytes := List.replicate 32 byte

end NtsTimeServer.Proof
