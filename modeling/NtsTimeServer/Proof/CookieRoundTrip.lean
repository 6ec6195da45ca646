import NtsTimeServer.Proof.Cookie

namespace NtsTimeServer.Proof
open Model Lib

def slots (keyring : Keyring) : List CookieKey := [keyring.previous, keyring.active, keyring.next]

theorem mem_slots {keyring : Keyring} {slot : CookieKey} : slot ∈ slots keyring ↔
    slot = keyring.previous ∨ slot = keyring.active ∨ slot = keyring.next := by
  simp [slots]

structure Validated (keyring : Keyring) : Prop where
  activeValid : keyring.active.valid = 1
  nextValid : keyring.next.valid = 1
  nonzero : ∀ slot ∈ slots keyring, slot.valid ≠ 0 → slot.keyId ≠ 0
  previousActive : keyring.previous.valid ≠ 0 → keyring.previous.keyId ≠ keyring.active.keyId
  previousNext : keyring.previous.valid ≠ 0 → keyring.previous.keyId ≠ keyring.next.keyId
  activeNext : keyring.active.keyId ≠ keyring.next.keyId

theorem slotAcceptable_id {slot : CookieKey} (acceptable : slotAcceptable slot = true)
    (valid : slot.valid ≠ 0) : slot.keyId ≠ 0 := by
  simp only [slotAcceptable, Bool.and_eq_true, Bool.or_eq_true, beq_iff_eq, valid, false_or] at acceptable
  exact (populatedSlotValid_iff.mp acceptable.2).2.1

theorem validated_of_ok {keyring : Keyring} (validates : validateCookieKeyring keyring = .ok) :
    Validated keyring := by
  obtain ⟨previous, activePopulated, nextPopulated, distinct, -, -⟩ :=
    validateCookieKeyring_ok_iff.mp validates
  have activeValid := (populatedSlotValid_iff.mp activePopulated).1
  have nextValid := (populatedSlotValid_iff.mp nextPopulated).1
  simp only [keyIdsDistinct, slotIdsDistinct, activeValid, nextValid, Bool.and_eq_true,
    Bool.or_eq_true, beq_iff_eq, bne_iff_ne, one_ne_zero, or_false, false_or] at distinct
  obtain ⟨⟨previousActive, previousNext⟩, activeNext⟩ := distinct
  refine ⟨activeValid, nextValid, ?_, fun valid => previousActive.resolve_left valid,
    fun valid => previousNext.resolve_left valid, activeNext⟩
  rintro slot mem valid
  rcases mem_slots.mp mem with rfl | rfl | rfl
  · exact slotAcceptable_id previous valid
  · exact (populatedSlotValid_iff.mp activePopulated).2.1
  · exact (populatedSlotValid_iff.mp nextPopulated).2.1

/-- What rotating keeps of a validated ring `origin`: only the new NEXT slot can share its id with
PREVIOUS, and then it is no slot of `origin`. -/
structure Rotated (origin keyring : Keyring) : Prop where
  activeValid : keyring.active.valid = 1
  nextValid : keyring.next.valid = 1
  activeId : KeyIdValid keyring.active.keyId
  nextId : KeyIdValid keyring.next.keyId
  previousActive : keyring.previous.valid ≠ 0 → keyring.previous.keyId ≠ keyring.active.keyId
  activeNext : keyring.active.keyId ≠ keyring.next.keyId
  previousNext : keyring.previous.valid ≠ 0 → keyring.previous.keyId = keyring.next.keyId →
    keyring.next ∈ slots origin → keyring.previous = keyring.next
  consecutive : keyring.active = origin.active ∨ keyring.next.keyId = nextKeyId keyring.active.keyId

theorem Validated.eq_of_id {keyring : Keyring} (validated : Validated keyring) {slot : CookieKey}
    (mem : slot ∈ slots keyring) (valid : slot.valid ≠ 0)
    (same : slot.keyId = keyring.active.keyId) : slot = keyring.active := by
  rcases mem_slots.mp mem with rfl | rfl | rfl
  · exact absurd same (validated.previousActive valid)
  · rfl
  · exact absurd same.symm validated.activeNext

theorem Validated.rotated {keyring : Keyring} (validated : Validated keyring)
    (ids : ∀ slot ∈ slots keyring, slot.keyId < 2 ^ 32) : Rotated keyring keyring := by
  have activeMem : keyring.active ∈ slots keyring := by simp [slots]
  have nextMem : keyring.next ∈ slots keyring := by simp [slots]
  have activeNonzero := validated.nonzero _ activeMem (by simp [validated.activeValid])
  have nextNonzero := validated.nonzero _ nextMem (by simp [validated.nextValid])
  exact ⟨validated.activeValid, validated.nextValid, ⟨by omega, ids _ activeMem⟩,
    ⟨by omega, ids _ nextMem⟩, validated.previousActive, validated.activeNext,
    fun valid same _ => absurd same (validated.previousNext valid), Or.inl rfl⟩

theorem Rotated.rotateOnce {origin keyring : Keyring} (validated : Validated origin)
    (rotated : Rotated origin keyring) (random : Bytes) :
    Rotated origin (rotateOnce keyring random) := by
  refine ⟨rotated.nextValid, rfl, rotated.nextId, nextKeyId_valid _, fun _ => rotated.activeNext,
    (nextKeyId_ne rotated.nextId).symm, fun _ same mem => ?_, Or.inr rfl⟩
  change keyring.active.keyId = nextKeyId keyring.next.keyId at same
  rcases rotated.consecutive with active | successor
  · have id : (generateNextSlot (nextKeyId keyring.next.keyId) keyring.next.notAfterNtp random).keyId =
        origin.active.keyId := by
      rw [← active, same]
      rfl
    exact active.trans (validated.eq_of_id mem one_ne_zero id).symm
  · rw [successor] at same
    exact absurd same.symm (nextKeyId_nextKeyId_ne rotated.activeId)

theorem Rotated.rotateWhileDue {origin : Keyring} (validated : Validated origin) (nowNtp fuel : Nat)
    (random : Nat → Bytes) {keyring : Keyring} (rotated : Rotated origin keyring) :
    Rotated origin (rotateWhileDue nowNtp fuel random keyring) := by
  induction fuel generalizing random keyring with
  | zero => exact rotated
  | succ fuel ih =>
      rw [Model.rotateWhileDue]
      split
      · exact ih _ (rotated.rotateOnce validated _)
      · exact rotated

theorem Rotated.find {origin keyring : Keyring} (rotated : Rotated origin keyring)
    {slot : CookieKey} (before : slot ∈ slots origin) (mem : slot ∈ slots keyring)
    (valid : slot.valid ≠ 0) : findCookieMasterKey keyring slot.keyId = some slot := by
  have activeValid := rotated.activeValid
  have nextValid := rotated.nextValid
  have activeNext := rotated.activeNext
  rcases mem_slots.mp mem with rfl | rfl | rfl
  · simp [findCookieMasterKey, valid]
  · by_cases empty : keyring.previous.valid = 0
    · simp [findCookieMasterKey, empty, valid]
    · simp [findCookieMasterKey, rotated.previousActive empty, valid]
  · by_cases empty : keyring.previous.valid = 0
    · simp [findCookieMasterKey, empty, activeNext, valid]
    · by_cases same : keyring.previous.keyId = keyring.next.keyId
      · have slot := rotated.previousNext empty same before
        simp [findCookieMasterKey, slot, valid]
      · simp [findCookieMasterKey, same, activeNext, valid]

theorem maintain_ok {keyring after : Keyring} {env : StorageEnv}
    (maintained : ntsStorageMaintainCookieKeyring (some keyring) env = (.ok, some after)) :
    validateCookieKeyring keyring = .ok ∧ ∃ nowNtp, env.clock = some nowNtp ∧
      after = rotateWhileDue nowNtp (nowNtp + 1) env.random keyring := by
  unfold ntsStorageMaintainCookieKeyring loadCookieKeyring at maintained
  cases fails : env.loadFails with
  | true => simp [fails] at maintained
  | false =>
      simp only [fails, Bool.false_eq_true, if_false, maintainLoaded] at maintained
      by_cases validates : validateCookieKeyring keyring = .ok
      · refine ⟨validates, ?_⟩
        simp only [validates, ne_eq, not_true_eq_false, if_false] at maintained
        cases clock : env.clock with
        | none => simp [clock] at maintained
        | some nowNtp =>
            refine ⟨nowNtp, rfl, ?_⟩
            simp only [clock] at maintained
            by_cases due : nowNtp ≥ keyring.active.notAfterNtp
            · simp only [due, decide_true, if_true] at maintained
              cases save : env.save with
              | saved => simpa [save, saveCookieKeyring] using maintained.symm
              | failed written => simp [save, saveCookieKeyring] at maintained
            · simp only [due, decide_false, Bool.false_eq_true, if_false, Prod.mk.injEq,
                Option.some.injEq, true_and] at maintained
              rw [rotateWhileDue, if_neg due, maintained]
      · simp [validates] at maintained

/-! ## What unpacking accepts -/

variable {aead : Aead}

theorem trafficKeyAt_bytes {bytes : Bytes} {offset : Nat} (within : offset + 32 ≤ bytes.length) :
    (trafficKeyAt bytes offset).bytes = (bytes.drop offset).take 32 := by
  refine List.take_append_of_le_length ?_
  rw [List.length_drop]
  omega

theorem cookiePlaintext_of_fields {plaintext : Bytes} {master : CookieKey} {keys : CookieKeys}
    (length : plaintext.length = 92) (magic : readBe32 plaintext 0 = ntsCookieMagic)
    (version : readBe16 plaintext 4 = ntsCookieVersion) (reserved : readBe16 plaintext 6 = 0)
    (id : readBe32 plaintext 8 = master.keyId)
    (issued : readBe64 plaintext 12 = keys.issuedNtpSeconds)
    (expires : readBe64 plaintext 20 = keys.expiresNtpSeconds)
    (c2s : trafficKeyAt plaintext 28 = keys.c2sKey) (s2c : trafficKeyAt plaintext 60 = keys.s2cKey) :
    plaintext = cookiePlaintext master keys := by
  have last : (plaintext.drop 60).take 32 = plaintext.drop 60 :=
    List.take_of_length_le (by rw [List.length_drop]; omega)
  have keyBytes : plaintext.drop 28 = keys.c2sKey.bytes ++ keys.s2cKey.bytes := by
    rw [← c2s, ← s2c, trafficKeyAt_bytes (by omega), trafficKeyAt_bytes (by omega), last,
      show 60 = 28 + 32 from rfl, ← List.drop_drop, List.take_append_drop]
  have word (count offset : Nat) (within : offset + count ≤ 92) : plaintext.drop offset =
      beBytes count (readBe count plaintext offset) ++ plaintext.drop (offset + count) :=
    drop_eq_word_append (by omega)
  calc plaintext
    _ = beBytes 4 (readBe32 plaintext 0) ++ (beBytes 2 (readBe16 plaintext 4) ++
        (beBytes 2 (readBe16 plaintext 6) ++ (beBytes 4 (readBe32 plaintext 8) ++
          (beBytes 8 (readBe64 plaintext 12) ++ (beBytes 8 (readBe64 plaintext 20) ++
            plaintext.drop 28))))) := by
      rw [← word 8 20 (by decide), ← word 8 12 (by decide), ← word 4 8 (by decide),
        ← word 2 6 (by decide), ← word 2 4 (by decide), ← word 4 0 (by decide), List.drop_zero]
    _ = cookiePlaintext master keys := by
      rw [keyBytes, magic, version, reserved, id, issued, expires, cookiePlaintext]

theorem readCookiePlaintext_ok {plaintext : Bytes} {master : CookieKey} {clock : Option Nat}
    {keys : CookieKeys} (read : readCookiePlaintext plaintext master.keyId clock = .ok keys) :
    plaintext = cookiePlaintext master keys ∧ keys.masterKeyId = master.keyId ∧
      ∃ now, clock = some now ∧ keys.issuedNtpSeconds ≤ now ∧ now < keys.expiresNtpSeconds := by
  unfold readCookiePlaintext at read
  split at read
  · cases read
  rename_i length
  split at read
  · cases read
  rename_i header
  simp only [ne_eq, not_or, not_not] at length header
  obtain ⟨magic, version, reserved, id⟩ := header
  cases clock with
  | none => cases read
  | some now =>
      dsimp only at read
      split at read
      · cases read
      rename_i fresh
      cases read
      exact ⟨cookiePlaintext_of_fields length magic version reserved id rfl rfl rfl rfl, rfl, now, rfl,
        by dsimp only; omega, by dsimp only; omega⟩

theorem findCookieMasterKey_some {keyring : Keyring} {keyId : Nat} {slot : CookieKey}
    (found : findCookieMasterKey keyring keyId = some slot) :
    slot ∈ slots keyring ∧ slot.valid ≠ 0 ∧ slot.keyId = keyId := by
  have matched := List.find?_some found
  simp only [Bool.and_eq_true, bne_iff_ne, beq_iff_eq] at matched
  exact ⟨List.mem_of_find?_eq_some found, matched⟩

theorem unpackLoaded_ok (genuine : aead.Genuine) {keyring : Keyring} {cookie : Bytes}
    (length : cookie.length = ntsCookieLen) {clock : Option Nat} {keys : CookieKeys}
    (unpacked : unpackLoaded aead keyring cookie clock = .ok keys) :
    ∃ master nonce, findCookieMasterKey keyring (readBe32 cookie 0) = some master ∧
      keys.masterKeyId = master.keyId ∧ sealCookie aead master keys nonce = .ok cookie ∧
      ∃ now, clock = some now ∧ keys.issuedNtpSeconds ≤ now ∧ now < keys.expiresNtpSeconds := by
  have size : cookie.length = 128 := length
  unfold unpackLoaded at unpacked
  dsimp only at unpacked
  split at unpacked
  · cases unpacked
  rename_i master found
  split at unpacked
  · cases unpacked
  rename_i plaintext opened
  obtain ⟨-, -, id⟩ := findCookieMasterKey_some found
  rw [← id] at unpacked
  obtain ⟨plain, masterKeyId, fresh⟩ := readCookiePlaintext_ok unpacked
  let nonce : CookieNonce := ⟨(cookie.drop 4).take ntsCookieNonceLen, by
    rw [List.length_take, List.length_drop, size]
    rfl⟩
  have header : beBytes 4 master.keyId = cookie.take 4 := by
    rw [id]
    exact beBytes_readBe (by omega)
  have whole : cookie = cookie.take 4 ++ (nonce.bytes ++ cookie.drop ntsCookieWirePrefixLen) := calc
    cookie
    _ = cookie.take 4 ++ cookie.drop 4 := (List.take_append_drop 4 cookie).symm
    _ = cookie.take 4 ++ (nonce.bytes ++ (cookie.drop 4).drop ntsCookieNonceLen) :=
      congrArg _ (List.take_append_drop _ _).symm
    _ = _ := by rw [List.drop_drop]; rfl
  refine ⟨master, nonce, found, masterKeyId, ?_, fresh⟩
  have sealed := genuine _ _ _ _ _ opened
  rw [plain, ← header] at sealed
  rw [sealCookie, sealed, header]
  exact congrArg Except.ok whole.symm

structure StillHolds (slot : CookieKey) (later after : Keyring) (env : StorageEnv) : Prop where
  ids : ∀ slot ∈ slots later, slot.keyId < 2 ^ 32
  before : slot ∈ slots later
  maintained : ntsStorageMaintainCookieKeyring (some later) env = (.ok, some after)
  after : slot ∈ slots after

theorem StillHolds.find {slot : CookieKey} {later after : Keyring} {env : StorageEnv}
    (holds : StillHolds slot later after env) (valid : slot.valid ≠ 0) :
    findCookieMasterKey after slot.keyId = some slot := by
  obtain ⟨validates, nowNtp, -, rfl⟩ := maintain_ok holds.maintained
  have validated := validated_of_ok validates
  exact ((validated.rotated holds.ids).rotateWhileDue validated nowNtp _ env.random).find
    holds.before holds.after valid

theorem ntsCookieUnpack_created (roundTrip : aead.RoundTrip) {slot : CookieKey}
    (valid : slot.valid ≠ 0) {keys : CookieKeys} (fit : TimesFit keys) {nonce : CookieNonce}
    {cookie : Bytes} (sealed : sealCookie aead slot keys nonce = .ok cookie) {later after : Keyring}
    {env : CookieEnv} (holds : StillHolds slot later after env.maintain)
    (loads : env.loadFails = false) {now : Nat} (reads : env.clock = some now)
    (issued : keys.issuedNtpSeconds ≤ now) (unexpired : now < keys.expiresNtpSeconds) :
    ntsCookieUnpack aead (some later) env cookie =
      (.ok { keys with masterKeyId := slot.keyId }, some after) := by
  have unpacked := unpackLoaded_found roundTrip (holds.find valid) (holds.ids slot holds.before) fit
    sealed issued unexpired
  rw [ntsCookieUnpack, if_neg (not_not.mpr (sealCookie_length sealed)), withMaintainedKeyring,
    holds.maintained]
  simp [loadCookieKeyring, loads, reads, unpacked]

theorem ntsCookieUnpack_ok (genuine : aead.Genuine) {store store' : Option Keyring}
    {env : CookieEnv} {cookie : Bytes} {keys : CookieKeys}
    (unpacked : ntsCookieUnpack aead store env cookie = (.ok keys, store')) :
    ∃ ring master nonce, store' = some ring ∧
      findCookieMasterKey ring (readBe32 cookie 0) = some master ∧
      keys.masterKeyId = master.keyId ∧ sealCookie aead master keys nonce = .ok cookie ∧
      ∃ now, env.clock = some now ∧ keys.issuedNtpSeconds ≤ now ∧ now < keys.expiresNtpSeconds := by
  unfold ntsCookieUnpack at unpacked
  split at unpacked
  · cases unpacked
  rename_i length
  obtain ⟨ring, stored, opened⟩ := withMaintainedKeyring_ok unpacked
  obtain ⟨master, nonce, rest⟩ := unpackLoaded_ok genuine (not_not.mp length) opened
  exact ⟨ring, master, nonce, stored, rest⟩

theorem cookie_round_trip (roundTrip : aead.RoundTrip) (genuine : aead.Genuine) :
    (∀ (store store' : Option Keyring) (env : CookieEnv) (keys : CookieKeys) (cookieLen : Nat)
      (cookie : Bytes), TimesFit keys →
      ntsCookieCreate aead store env keys cookieLen = (.ok cookie, store') →
      ∃ ring, store' = some ring ∧ cookie.length = 128 ∧
        ∀ (later after : Keyring) (env' : CookieEnv) (now : Nat),
          StillHolds ring.active later after env'.maintain → env'.loadFails = false →
          env'.clock = some now → keys.issuedNtpSeconds ≤ now → now < keys.expiresNtpSeconds →
          ntsCookieUnpack aead (some later) env' cookie =
            (.ok { keys with masterKeyId := ring.active.keyId }, some after)) ∧
    (∀ (store store' : Option Keyring) (env : CookieEnv) (cookie : Bytes) (keys : CookieKeys),
      ntsCookieUnpack aead store env cookie = (.ok keys, store') →
      ∃ ring master nonce, store' = some ring ∧ master ∈ slots ring ∧ master.valid ≠ 0 ∧
        master.keyId = readBe32 cookie 0 ∧ keys.masterKeyId = master.keyId ∧
        sealCookie aead master keys nonce = .ok cookie) := by
  refine ⟨?_, ?_⟩
  · intro store store' env keys cookieLen cookie fit created
    obtain ⟨ring, stored, valid, sealed⟩ := ntsCookieCreate_ok created
    refine ⟨ring, stored, sealCookie_length sealed, ?_⟩
    intro later after env' now holds loads reads issued unexpired
    exact ntsCookieUnpack_created roundTrip valid fit sealed holds loads reads issued unexpired
  · intro store store' env cookie keys unpacked
    obtain ⟨ring, master, nonce, stored, found, masterKeyId, sealed, -⟩ :=
      ntsCookieUnpack_ok genuine unpacked
    obtain ⟨mem, valid, id⟩ := findCookieMasterKey_some found
    exact ⟨ring, master, nonce, stored, mem, valid, id, masterKeyId, sealed⟩

/-! ## A ring that rotates between the two calls -/

def gappedRing : Keyring where
  previous := emptySlot
  active := ⟨7, 1000, 2000, randomBytes 1 0, 1⟩
  next := ⟨9, 2000, 3000, randomBytes 2 0, 1⟩

def gappedKeys : CookieKeys := ⟨fixedKey, ⟨List.replicate 32 8, by simp⟩, 7, 1500, 4000⟩

def cookieEnvAt (now : Nat) : CookieEnv :=
  ⟨⟨false, some now, randomBytes 6, .saved⟩, false, some now, fixedNonce, (fixedKey, fixedKey)⟩

def rotatedRing : Keyring := rotateOnce gappedRing (randomBytes 6 0)

def gappedCookie : Bytes :=
  match ntsCookieCreate keyedAead (some gappedRing) (cookieEnvAt 1500) gappedKeys ntsCookieMaxLen with
  | (.ok cookie, _) => cookie
  | _ => []

theorem gappedCookie_created : ntsCookieCreate keyedAead (some gappedRing) (cookieEnvAt 1500) gappedKeys
    ntsCookieMaxLen = (.ok gappedCookie, some gappedRing) := by decide +kernel

theorem gappedRing_stillHolds : StillHolds gappedRing.active gappedRing rotatedRing
    (cookieEnvAt 2500).maintain where
  ids := by decide
  before := by decide
  maintained := by decide +kernel
  after := by decide

theorem gappedCookie_round_trip :
    ntsCookieUnpack keyedAead (some gappedRing) (cookieEnvAt 2500) gappedCookie =
        (.ok gappedKeys, some rotatedRing) ∧
      ∃ master nonce, master ∈ slots rotatedRing ∧ master.keyId = 7 ∧
        sealCookie keyedAead master gappedKeys nonce = .ok gappedCookie := by
  have roundTrip := cookie_round_trip (idealAead_roundTrip keyedCrypto) (idealAead_genuine keyedCrypto)
  obtain ⟨ring, stored, -, unpacks⟩ := roundTrip.1 _ _ _ _ _ _ ⟨by decide, by decide⟩ gappedCookie_created
  cases stored
  have unpacked := unpacks gappedRing rotatedRing (cookieEnvAt 2500) 2500 gappedRing_stillHolds rfl rfl
    (by decide) (by decide)
  obtain ⟨ring, master, nonce, stored, mem, -, id, -, sealed⟩ := roundTrip.2 _ _ _ _ _ unpacked
  cases stored
  have named : readBe32 gappedCookie 0 = 7 := by decide +kernel
  exact ⟨unpacked, master, nonce, mem, id.trans named, sealed⟩

end NtsTimeServer.Proof
