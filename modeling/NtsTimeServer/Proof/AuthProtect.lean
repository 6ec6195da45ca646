import NtsTimeServer.Proof.AuthVerify

namespace NtsTimeServer.Proof
open Model Lib

theorem run_bind_ok {ε σ α β : Type} {m : ExceptT ε (StateM σ) α} {f : α → ExceptT ε (StateM σ) β}
    {s s' : σ} {a : α} (returned : m.run.run s = (.ok a, s')) :
    (m >>= f).run.run s = (f a).run.run s' := by
  rw [ExceptT.run_bind, StateT.run_bind, returned]
  rfl

theorem run_lift_ok {ε σ α : Type} {result : Except ε α} {a : α} (returned : result = .ok a) (s : σ) :
    (liftM result : ExceptT ε (StateM σ) α).run.run s = (.ok a, s) := by
  subst returned
  rfl

theorem run_bind_inv {ε σ α β : Type} {m : ExceptT ε (StateM σ) α} {f : α → ExceptT ε (StateM σ) β}
    {s s'' : σ} {b : β} (returned : (m >>= f).run.run s = (.ok b, s'')) :
    ∃ a s', m.run.run s = (.ok a, s') ∧ (f a).run.run s' = (.ok b, s'') := by
  rw [ExceptT.run_bind, StateT.run_bind] at returned
  cases first : m.run.run s with
  | mk result s' =>
      rw [first] at returned
      cases result with
      | error err => cases returned
      | ok a => exact ⟨a, s', rfl, returned⟩

theorem run_bind_error {ε σ α β : Type} {m : ExceptT ε (StateM σ) α} {f : α → ExceptT ε (StateM σ) β}
    {s s' : σ} {err : ε} (returned : m.run.run s = (.error err, s')) :
    (m >>= f).run.run s = (.error err, s') := by
  rw [ExceptT.run_bind, StateT.run_bind, returned]
  rfl

theorem run_lift_inv {ε σ α : Type} {result : Except ε α} {a : α} {s s' : σ}
    (returned : (liftM result : ExceptT ε (StateM σ) α).run.run s = (.ok a, s')) : result = .ok a := by
  cases result with
  | error err => cases returned
  | ok b =>
      cases returned
      rfl

theorem run_lift_error {ε σ α : Type} {result : Except ε α} {err : ε} (returned : result = .error err)
    (s : σ) : (liftM result : ExceptT ε (StateM σ) α).run.run s = (.error err, s) := by
  subst returned
  rfl

theorem subSize_eq {a b : Nat} (le : b ≤ a) (fits : a < 2 ^ 32) : subSize a b = a - b := by
  rw [subSize, show a + 2 ^ 32 - b = a - b + 2 ^ 32 by omega, u32, Nat.add_mod_right]
  exact Nat.mod_eq_of_lt (by omega)

theorem appendExtension_ok {packet : Bytes} {capacity offset type : Nat} {body : Bytes}
    {bodyLen : Nat} (reads : bodyLen ≤ body.length) (aligned : bodyLen % 4 = 0)
    (room : offset + (4 + bodyLen) ≤ capacity) (within : capacity ≤ packet.length)
    (small : capacity ≤ ntsNtpMaxPacketSize) :
    appendExtension packet capacity offset type body bodyLen =
      .ok (writeAt packet offset (Field.encode ⟨type, body.take bodyLen⟩), offset + (4 + bodyLen)) := by
  have length : (body.take bodyLen).length = bodyLen := by rw [List.length_take, min_eq_left reads]
  have typeLength : (beBytes 2 type).length = 2 := beBytes_length 2 type
  have lengthLength : (beBytes 2 (4 + bodyLen)).length = 2 := beBytes_length 2 (4 + bodyLen)
  simp only [ntsNtpMaxPacketSize] at small
  have rest : subSize capacity offset = capacity - offset := subSize_eq (by omega) (by omega)
  have first : (writeAt packet offset (beBytes 2 type)).length = packet.length :=
    writeAt_length (by omega)
  have second : (writeAt (writeAt packet offset (beBytes 2 type)) (offset + 2)
      (beBytes 2 (4 + bodyLen))).length = packet.length :=
    (writeAt_length (by omega)).trans first
  have joined : writeAt (writeAt (writeAt packet offset (beBytes 2 type)) (offset + 2)
      (beBytes 2 (4 + bodyLen))) (offset + 4) (body.take bodyLen) =
      writeAt packet offset (Field.encode ⟨type, body.take bodyLen⟩) := by
    rw [writeAt_writeAt (by omega) (by omega), writeAt_writeAt (by omega) (by omega), Field.encode,
      length]
  unfold appendExtension
  rw [if_neg (by omega)]
  dsimp only
  rw [memcpy_all typeLength (by omega), ok_bind, memcpy_all lengthLength (by omega), ok_bind,
    memcpy_ok reads (by omega), ok_bind, joined]
  rfl

theorem appendExtension_full {packet : Bytes} {capacity offset type : Nat} {body : Bytes}
    {bodyLen : Nat} (inside : offset ≤ capacity) (small : capacity ≤ ntsNtpMaxPacketSize)
    (full : capacity < offset + (4 + bodyLen)) :
    appendExtension packet capacity offset type body bodyLen = .error (.error .invalidSize) := by
  simp only [ntsNtpMaxPacketSize] at small
  have rest : subSize capacity offset = capacity - offset := subSize_eq inside (by omega)
  unfold appendExtension
  rw [if_pos (by omega)]
  rfl

theorem appendExtension_inv {packet : Bytes} {capacity offset type : Nat} {body : Bytes}
    {bodyLen : Nat} {result : Bytes × Nat} (inside : offset ≤ capacity)
    (within : capacity ≤ packet.length) (small : capacity ≤ ntsNtpMaxPacketSize)
    (appended : appendExtension packet capacity offset type body bodyLen = .ok result) :
    bodyLen ≤ body.length ∧ bodyLen % 4 = 0 ∧ offset + (4 + bodyLen) ≤ capacity := by
  have size := small
  simp only [ntsNtpMaxPacketSize] at size
  have rest : subSize capacity offset = capacity - offset := subSize_eq inside (by omega)
  unfold appendExtension at appended
  dsimp only at appended
  split at appended
  · cases appended
  rename_i framing
  refine ⟨?_, by omega, by omega⟩
  by_contra short
  have typeLength : (beBytes 2 type).length = 2 := beBytes_length 2 type
  have lengthLength : (beBytes 2 (4 + bodyLen)).length = 2 := beBytes_length 2 (4 + bodyLen)
  have first : (writeAt packet offset (beBytes 2 type)).length = packet.length :=
    writeAt_length (by omega)
  rw [memcpy_all typeLength (by omega), ok_bind, memcpy_all lengthLength (by omega), ok_bind, memcpy,
    if_pos (by omega)] at appended
  cases appended

theorem encryptWithin_ok {aead : Aead} {capacity : Nat}
    {key associatedData nonce plaintext ciphertext : Bytes}
    (room : ntsAesSivTagLen + plaintext.length ≤ capacity)
    (encrypted : aead.encrypt key associatedData nonce plaintext = .ok ciphertext) :
    encryptWithin aead capacity key associatedData nonce plaintext = .ok ciphertext := by
  rw [encryptWithin, if_neg (not_lt.mpr room), encrypted]
  rfl

def authBytes (nonce ciphertext : Bytes) : Bytes :=
  beBytes 2 ntsAesSivNonceLen ++ (beBytes 2 ciphertext.length ++ (nonce ++ ciphertext))

theorem authBytes_length {nonce ciphertext : Bytes} (length : nonce.length = ntsAesSivNonceLen) :
    (authBytes nonce ciphertext).length = 20 + ciphertext.length := by
  simp only [authBytes, List.length_append, beBytes_length, length, ntsAesSivNonceLen]
  omega

theorem roundUp4_eq {value : Nat} (aligned : value % 4 = 0) : roundUp4 value = value := by
  unfold roundUp4
  omega

theorem authBytes_reads {nonce ciphertext : Bytes} (length : nonce.length = ntsAesSivNonceLen)
    (fits : ciphertext.length < 65536) :
    readBe16 (authBytes nonce ciphertext) 0 = 16 ∧
      readBe16 (authBytes nonce ciphertext) 2 = ciphertext.length ∧
      ((authBytes nonce ciphertext).drop 4).take 16 = nonce ∧
      (authBytes nonce ciphertext).drop 20 = ciphertext := by
  have word : (beBytes 2 ntsAesSivNonceLen ++ beBytes 2 ciphertext.length).length = 4 := by
    simp only [List.length_append, beBytes_length]
  have body : (authBytes nonce ciphertext).drop 4 = nonce ++ ciphertext := by
    rw [authBytes, ← List.append_assoc]
    exact List.drop_left' word
  refine ⟨readBe_beBytes_append (by decide) _, ?_, ?_, ?_⟩
  · rw [authBytes, readBe16, readBe_skip 2 le_rfl, Nat.sub_self]
    exact readBe_beBytes_append fits _
  · rw [body]
    exact List.take_left' length
  · rw [show 20 = 4 + ntsAesSivNonceLen from rfl, ← List.drop_drop, body]
    exact List.drop_left' length

theorem authenticatorParts_authBytes {nonce ciphertext : Bytes}
    (length : nonce.length = ntsAesSivNonceLen) (tagged : ntsAesSivTagLen ≤ ciphertext.length)
    (aligned : ciphertext.length % 4 = 0) (fits : ciphertext.length < 65536) :
    authenticatorParts (authBytes nonce ciphertext) = .ok (nonce, ciphertext) := by
  obtain ⟨nonceLen, ciphertextLen, nonceBytes, rest⟩ := authBytes_reads length fits
  have size : (authBytes nonce ciphertext).length = 20 + ciphertext.length := authBytes_length length
  have padded : roundUp4 16 = 16 := rfl
  have nonceSize : ntsAesSivNonceLen = 16 := rfl
  unfold authenticatorParts
  dsimp only
  rw [nonceLen, ciphertextLen, padded, roundUp4_eq aligned, if_neg (by omega), if_neg (by omega),
    nonceBytes, rest, List.take_length]

theorem authenticatorBody_ok {nonce ciphertext : Bytes} (length : nonce.length = ntsAesSivNonceLen)
    (aligned : ciphertext.length % 4 = 0)
    (room : 20 + ciphertext.length ≤ ntsNtpMaxPacketSize) :
    ∃ buffer, authenticatorBody nonce ciphertext = .ok (buffer, 20 + ciphertext.length) ∧
      buffer.length = ntsNtpMaxPacketSize ∧
      buffer.take (20 + ciphertext.length) = authBytes nonce ciphertext := by
  have zeros : (List.replicate ntsNtpMaxPacketSize (0 : UInt8)).length = ntsNtpMaxPacketSize :=
    List.length_replicate
  have nonceWord : (beBytes 2 ntsAesSivNonceLen).length = 2 := beBytes_length _ _
  have lengthWord : (beBytes 2 ciphertext.length).length = 2 := beBytes_length _ _
  have nonceLength : nonce.length = 16 := length
  have paddedNonce : roundUp4 ntsAesSivNonceLen = 16 := rfl
  let cleared := zeroFirst (List.replicate ntsNtpMaxPacketSize 0) (20 + ciphertext.length)
  let first := writeAt cleared 0 (beBytes 2 ntsAesSivNonceLen)
  let second := writeAt first 2 (beBytes 2 ciphertext.length)
  let third := writeAt second 4 nonce
  have clearedLength : cleared.length = ntsNtpMaxPacketSize := by
    refine (writeAt_length ?_).trans zeros
    rw [List.length_replicate]
    omega
  have firstLength : first.length = ntsNtpMaxPacketSize := (writeAt_length (by omega)).trans clearedLength
  have secondLength : second.length = ntsNtpMaxPacketSize := (writeAt_length (by omega)).trans firstLength
  have thirdLength : third.length = ntsNtpMaxPacketSize := (writeAt_length (by omega)).trans secondLength
  have clear : memsetZero (List.replicate ntsNtpMaxPacketSize 0) (20 + ciphertext.length) =
      (.ok cleared : Except (Halt EspErr) Bytes) := memsetZero_ok (by omega)
  have writeNonceLen : memcpy cleared 0 (beBytes 2 ntsAesSivNonceLen) 2 =
      (.ok first : Except (Halt EspErr) Bytes) := memcpy_all nonceWord (by omega)
  have writeLen : memcpy first 2 (beBytes 2 ciphertext.length) 2 =
      (.ok second : Except (Halt EspErr) Bytes) := memcpy_all lengthWord (by omega)
  have writeNonce : memcpy second 4 nonce ntsAesSivNonceLen =
      (.ok third : Except (Halt EspErr) Bytes) := memcpy_all length (by omega)
  have writeCiphertext : memcpy third (4 + roundUp4 ntsAesSivNonceLen) ciphertext ciphertext.length =
      (.ok (writeAt third 20 ciphertext) : Except (Halt EspErr) Bytes) := memcpy_all rfl (by omega)
  have joined : writeAt third 20 ciphertext = writeAt cleared 0 (authBytes nonce ciphertext) := calc
    writeAt third 20 ciphertext
    _ = writeAt second 4 (nonce ++ ciphertext) := writeAt_writeAt (by omega) (by omega)
    _ = writeAt first 2 (beBytes 2 ciphertext.length ++ (nonce ++ ciphertext)) :=
      writeAt_writeAt (by omega) (by omega)
    _ = writeAt cleared 0 (authBytes nonce ciphertext) := writeAt_writeAt (by omega) (by omega)
  have size : 4 + roundUp4 ntsAesSivNonceLen + roundUp4 ciphertext.length = 20 + ciphertext.length := by
    rw [roundUp4_eq aligned]
    rfl
  refine ⟨writeAt cleared 0 (authBytes nonce ciphertext), ?_, ?_, ?_⟩
  · unfold authenticatorBody
    dsimp only
    rw [size, if_neg (not_lt.mpr room)]
    rw [clear, ok_bind, writeNonceLen, ok_bind, writeLen, ok_bind, writeNonce, ok_bind,
      writeCiphertext, ok_bind, joined]
    rfl
  · exact (writeAt_length (by rw [authBytes_length length]; omega)).trans clearedLength
  · rw [← authBytes_length length]
    exact take_writeAt_zero cleared _

/-! ## The cookies of a response -/

variable {aead : Aead}

inductive Creates (aead : Aead) (keys : CookieKeys) :
    (Nat → CookieEnv) → Option Keyring → List Bytes → Option Keyring → Prop
  | none (envs : Nat → CookieEnv) (store : Option Keyring) : Creates aead keys envs store [] store
  | next {envs : Nat → CookieEnv} {store mid store' : Option Keyring} {cookie : Bytes}
      {cookies : List Bytes} :
      ntsCookieCreate aead store (envs 0) keys ntsCookieMaxLen = (.ok cookie, mid) →
      Creates aead keys (fun turn => envs (turn + 1)) mid cookies store' →
      Creates aead keys envs store (cookie :: cookies) store'

def cookieField (cookie : Bytes) : Field := ⟨ntsEfCookie, cookie⟩

theorem ntsCookieCreate_length {store store' : Option Keyring} {env : CookieEnv} {keys : CookieKeys}
    {cookieLen : Nat} {cookie : Bytes}
    (created : ntsCookieCreate aead store env keys cookieLen = (.ok cookie, store')) :
    cookie.length = ntsCookieLen := by
  obtain ⟨ring, -, -, sealed⟩ := ntsCookieCreate_ok created
  exact sealCookie_length sealed

theorem Creates.cookie_length {keys : CookieKeys} {envs : Nat → CookieEnv}
    {store store' : Option Keyring} {cookies : List Bytes}
    (creates : Creates aead keys envs store cookies store') :
    ∀ cookie ∈ cookies, cookie.length = ntsCookieLen := by
  induction creates with
  | none => simp
  | next created _ ih => exact List.forall_mem_cons.mpr ⟨ntsCookieCreate_length created, ih⟩

theorem encodeFields_cookies_length {cookies : List Bytes}
    (lengths : ∀ cookie ∈ cookies, cookie.length = ntsCookieLen) :
    (encodeFields (cookies.map cookieField)).length = 132 * cookies.length := by
  induction cookies with
  | nil => rfl
  | cons cookie rest ih =>
      obtain ⟨length, lengths⟩ := List.forall_mem_cons.mp lengths
      have cookieLen : cookie.length = 128 := length
      simp only [List.map_cons, encodeFields_cons, List.length_append, Field.encode_length, cookieField,
        cookieLen, ih lengths, List.length_cons]
      omega

inductive CreatesWith {σ : Type} : (Nat → ExceptT (Halt EspErr) (StateM σ) Bytes) → σ → List Bytes →
    σ → Prop
  | none (create : Nat → ExceptT (Halt EspErr) (StateM σ) Bytes) (s : σ) : CreatesWith create s [] s
  | next {create : Nat → ExceptT (Halt EspErr) (StateM σ) Bytes} {s mid s' : σ} {cookie : Bytes}
      {cookies : List Bytes} : (create 0).run.run s = (.ok cookie, mid) →
      CreatesWith (fun turn => create (turn + 1)) mid cookies s' →
      CreatesWith create s (cookie :: cookies) s'

def CreatesWhole {σ : Type} (create : Nat → ExceptT (Halt EspErr) (StateM σ) Bytes) : Prop :=
  ∀ turn s, (∃ cookie s', (create turn).run.run s = (.ok cookie, s') ∧ cookie.length = ntsCookieLen) ∨
    ∃ err s', (create turn).run.run s = (.error (.error err), s')

theorem createCookie_run {store : Option Keyring} {env : CookieEnv} {keys : CookieKeys} :
    (createCookie aead env keys).run.run store =
      ((ntsCookieCreate aead store env keys ntsCookieMaxLen).1.mapError .error,
        (ntsCookieCreate aead store env keys ntsCookieMaxLen).2) := rfl

theorem createCookie_whole (envs : Nat → CookieEnv) (keys : CookieKeys) :
    CreatesWhole fun turn => createCookie aead (envs turn) keys := by
  intro turn store
  rw [createCookie_run]
  cases created : ntsCookieCreate aead store (envs turn) keys ntsCookieMaxLen with
  | mk result store' =>
      cases result with
      | ok cookie => exact Or.inl ⟨cookie, store', rfl, ntsCookieCreate_length created⟩
      | error err => exact Or.inr ⟨err, store', rfl⟩

theorem Creates.with {keys : CookieKeys} {envs : Nat → CookieEnv} {store store' : Option Keyring}
    {cookies : List Bytes} (creates : Creates aead keys envs store cookies store') :
    CreatesWith (fun turn => createCookie aead (envs turn) keys) store cookies store' := by
  induction creates with
  | none envs store => exact .none _ _
  | next created _ ih =>
      refine .next ?_ ih
      rw [createCookie_run, created]
      rfl

section

variable {σ : Type} {create : Nat → ExceptT (Halt EspErr) (StateM σ) Bytes} {s s' : σ}

theorem CreatesWhole.shift (whole : CreatesWhole create) :
    CreatesWhole fun turn => create (turn + 1) := fun turn => whole (turn + 1)

theorem CreatesWith.cookie_length (whole : CreatesWhole create) {cookies : List Bytes}
    (creates : CreatesWith create s cookies s') :
    ∀ cookie ∈ cookies, cookie.length = ntsCookieLen := by
  induction creates with
  | none => simp
  | @next create s mid s' cookie cookies created _ ih =>
      refine List.forall_mem_cons.mpr ⟨?_, ih whole.shift⟩
      rcases whole 0 s with ⟨cookie', s'', created', length⟩ | ⟨err, s'', failed⟩
      · cases created.symm.trans created'
        exact length
      · cases created.symm.trans failed

theorem appendCookie_ok {buffer past cookie : Bytes} (size : buffer.length = ntsNtpMaxPacketSize)
    (length : cookie.length = ntsCookieLen) (room : past.length + 132 ≤ ntsNtpMaxPacketSize) :
    appendExtension (writeAt buffer 0 past) ntsNtpMaxPacketSize past.length ntsEfCookie cookie
        cookie.length =
      .ok (writeAt buffer 0 (past ++ (cookieField cookie).encode),
        (past ++ (cookieField cookie).encode).length) := by
  have cookieLen : cookie.length = 128 := length
  have written : (writeAt buffer 0 past).length = ntsNtpMaxPacketSize :=
    (writeAt_length (by omega)).trans size
  rw [appendExtension_ok le_rfl (by omega) (by omega) written.ge le_rfl, List.take_length,
    writeAt_writeAt (by omega) (by omega), List.length_append, Field.encode_length]
  rfl

theorem appendCookiesWith_ok (whole : CreatesWhole create) {cookies : List Bytes}
    (creates : CreatesWith create s cookies s') {past : Bytes}
    (room : past.length + 132 * cookies.length ≤ ntsNtpMaxPacketSize) {buffer : Bytes}
    (size : buffer.length = ntsNtpMaxPacketSize) :
    (appendCookiesWith create cookies.length (writeAt buffer 0 past) past.length).run.run s =
      (.ok (writeAt buffer 0 (past ++ encodeFields (cookies.map cookieField)),
        past.length + 132 * cookies.length), s') := by
  have lengths := creates.cookie_length whole
  induction creates generalizing past with
  | none create s =>
      rw [List.map_nil, encodeFields_nil, List.append_nil]
      rfl
  | @next create s mid s' cookie cookies created creates ih =>
      obtain ⟨length, lengths⟩ := List.forall_mem_cons.mp lengths
      have cookieLen : cookie.length = 128 := length
      rw [List.length_cons] at room ⊢
      have append := appendCookie_ok size length (show past.length + 132 ≤ _ by omega)
      have fieldLen : (past ++ (cookieField cookie).encode).length = past.length + 132 := by
        simp only [List.length_append, Field.encode_length, cookieField, cookieLen]
      have later := ih whole.shift
        (show (past ++ (cookieField cookie).encode).length + 132 * cookies.length ≤ _ by omega) lengths
      rw [appendCookiesWith, run_bind_ok created, run_bind_ok (run_lift_ok append mid)]
      dsimp only
      rw [later, List.map_cons, encodeFields_cons, List.append_assoc, fieldLen, Nat.add_assoc,
        Nat.mul_succ, Nat.add_comm 132]

theorem appendCookiesWith_cases (whole : CreatesWhole create) (s : σ) {count : Nat} {past : Bytes}
    (room : past.length + 132 * count ≤ ntsNtpMaxPacketSize) {buffer : Bytes}
    (size : buffer.length = ntsNtpMaxPacketSize) :
    (∃ cookies s', cookies.length = count ∧ CreatesWith create s cookies s') ∨
      ∃ err s', (appendCookiesWith create count (writeAt buffer 0 past) past.length).run.run s =
        (.error (.error err), s') := by
  induction count generalizing create s past with
  | zero => exact Or.inl ⟨[], s, rfl, .none create s⟩
  | succ count ih =>
      rcases whole 0 s with ⟨cookie, mid, created, length⟩ | ⟨err, s', failed⟩
      · have cookieLen : cookie.length = 128 := length
        have append := appendCookie_ok size length (show past.length + 132 ≤ _ by omega)
        have fieldLen : (past ++ (cookieField cookie).encode).length = past.length + 132 := by
          simp only [List.length_append, Field.encode_length, cookieField, cookieLen]
        rcases ih whole.shift mid (show (past ++ (cookieField cookie).encode).length + _ ≤ _ by omega)
          with ⟨cookies, s', counted, creates⟩ | ⟨err, s', failed⟩
        · exact Or.inl ⟨cookie :: cookies, s', by rw [List.length_cons, counted], .next created creates⟩
        · refine Or.inr ⟨err, s', ?_⟩
          rw [appendCookiesWith, run_bind_ok created, run_bind_ok (run_lift_ok append mid)]
          exact failed
      · exact Or.inr ⟨err, s', run_bind_error failed⟩

end

def fieldsLength (type : Nat) (fields : List Field) : Nat :=
  ((bodies type fields).map fun body => 4 + body.length).sum

theorem fieldsLength_cons (type : Nat) (field : Field) (fields : List Field) :
    fieldsLength type (field :: fields) =
      (if field.type = type then field.encode.length else 0) + fieldsLength type fields := by
  by_cases same : field.type = type <;> simp [fieldsLength, bodies, same]

theorem fieldsLength_le (fields : List Field) :
    fieldsLength ntsEfUniqueIdentifier fields + fieldsLength ntsEfCookie fields +
      fieldsLength ntsEfCookiePlaceholder fields ≤ (encodeFields fields).length := by
  induction fields with
  | nil => exact le_rfl
  | cons field rest ih =>
      rw [fieldsLength_cons, fieldsLength_cons, fieldsLength_cons, encodeFields_cons, List.length_append]
      simp only [ntsEfUniqueIdentifier, ntsEfCookie, ntsEfCookiePlaceholder] at ih ⊢
      grind

theorem count_le_fieldsLength (type length limit : Nat) (fields : List Field) :
    (4 + length) * (((bodies type fields).map List.length).take limit).count length ≤
      fieldsLength type fields := by
  refine (Nat.mul_le_mul_left _ ((List.take_sublist _ _).count_le _)).trans ?_
  unfold fieldsLength
  induction bodies type fields with
  | nil => simp
  | cons body rest ih =>
      rw [List.map_cons, List.map_cons, List.sum_cons, List.count_cons, Nat.mul_add]
      by_cases same : body.length = length
      · simp only [same, beq_self_eq_true, if_true]
        omega
      · simp only [beq_iff_eq, same, if_false]
        omega

theorem authenticatorParts_length {authBody nonce ciphertext : Bytes}
    (parts : authenticatorParts authBody = .ok (nonce, ciphertext)) : 36 ≤ authBody.length := by
  unfold authenticatorParts at parts
  split at parts
  · cases parts
  dsimp only at parts
  split at parts
  · cases parts
  rename_i lengths
  simp only [ntsAesSivNonceLen, ntsAesSivTagLen, roundUp4] at lengths
  omega

theorem ntsCookieUnpack_length {store : Option Keyring} {env : CookieEnv} {cookie : Bytes}
    {keys : CookieKeys} (unpacked : (ntsCookieUnpack aead store env cookie).1 = .ok keys) :
    cookie.length = ntsCookieLen := by
  unfold ntsCookieUnpack at unpacked
  split at unpacked
  · cases unpacked
  · rename_i length
    exact not_not.mp length

theorem Layout.Authenticates.length {store : Option Keyring} {env : CookieEnv} {layout : Layout}
    {context : NtsNtpAuthContext} (authenticates : layout.Authenticates aead store env context) :
    48 + (4 + context.uniqueIdLen) + 132 * (1 + context.validPlaceholders) + 40 ≤ layout.packet.length := by
  obtain ⟨uid, uidBodies, -, -, -, uidLen⟩ := authenticates.uniqueId
  obtain ⟨cookie, cookieBodies, unpacked, placeholders⟩ := authenticates.cookie
  obtain ⟨nonce, ciphertext, parts, -⟩ := authenticates.decrypts
  have cookieLen : cookie.length = 128 := ntsCookieUnpack_length unpacked
  have authBody := authenticatorParts_length parts
  have fields := fieldsLength_le layout.before
  have counted := count_le_fieldsLength ntsEfCookiePlaceholder cookie.length ntsNtpMaxPlaceholders
    layout.before
  have header : layout.header.length = 48 := authenticates.wellFormed.header
  rw [← placeholders, cookieLen] at counted
  simp only [fieldsLength, uidBodies, cookieBodies, List.map_cons, List.map_nil, List.sum_cons,
    List.sum_nil, cookieLen] at fields counted
  simp only [Layout.packet, Layout.associatedData, List.length_append, Field.encode_length]
  omega

/-! ## The response -/

structure Answerable (context : NtsNtpAuthContext) : Prop where
  authenticated : context.authenticated = true
  uid : context.uniqueIdLen ≤ 256 ∧ context.uniqueIdLen % 4 = 0
  placeholders : context.validPlaceholders ≤ ntsNtpMaxPlaceholders
  length : 48 + (4 + context.uniqueIdLen) + 132 * (1 + context.validPlaceholders) + 40 ≤
    context.requestLength
  fits : context.requestLength ≤ ntsNtpMaxPacketSize

def uniqueIdField (context : NtsNtpAuthContext) : Field :=
  ⟨ntsEfUniqueIdentifier, context.uniqueId.bytes.take context.uniqueIdLen⟩

def authenticatorField (nonce : CookieNonce) (ciphertext : Bytes) : Field :=
  ⟨ntsEfAuthenticator, authBytes nonce.bytes ciphertext⟩

theorem uniqueIdField_length {context : NtsNtpAuthContext} (uid : context.uniqueIdLen ≤ 256) :
    (uniqueIdField context).encode.length = 4 + context.uniqueIdLen := by
  rw [Field.encode_length, uniqueIdField, List.length_take, context.uniqueId.length, min_eq_left uid]

def cookieCount (context : NtsNtpAuthContext) : Nat :=
  min (u16 (1 + context.validPlaceholders)) (1 + ntsNtpMaxPlaceholders)

theorem cookieCount_le (context : NtsNtpAuthContext) : cookieCount context ≤ 8 := min_le_right _ _

theorem cookieCount_eq {context : NtsNtpAuthContext} (answerable : Answerable context) :
    cookieCount context = 1 + context.validPlaceholders := by
  have placeholders := answerable.placeholders
  simp only [cookieCount, ntsNtpMaxPlaceholders] at placeholders ⊢
  rw [u16_eq (by omega), min_eq_left (by omega)]

theorem ciphertext_length {key associatedData nonce ciphertext : Bytes} {cookies : List Bytes}
    (lengths : ∀ cookie ∈ cookies, cookie.length = ntsCookieLen)
    (encrypted : aead.encrypt key associatedData nonce (encodeFields (cookies.map cookieField)) =
      .ok ciphertext) : ciphertext.length = 16 + 132 * cookies.length := by
  rw [aead.encrypt_length encrypted, encodeFields_cookies_length lengths]
  rfl

theorem writeAt_protected {packet : Bytes} {context : NtsNtpAuthContext} {capacity : Nat}
    (uid : context.uniqueIdLen ≤ 256) (within : capacity ≤ packet.length)
    (room : 48 + (4 + context.uniqueIdLen) ≤ capacity) (field : Bytes) :
    writeAt (writeAt packet 48 (uniqueIdField context).encode) (48 + (4 + context.uniqueIdLen)) field =
      writeAt packet 48 ((uniqueIdField context).encode ++ field) :=
  writeAt_writeAt (by omega) (by rw [uniqueIdField_length uid])

section

variable {σ : Type} {create : Nat → ExceptT (Halt EspErr) (StateM σ) Bytes} {context : NtsNtpAuthContext}
  {packet : Bytes} {capacity : Nat} {nonce : CookieNonce}

def protectFrom (aead : Aead) (create : Nat → ExceptT (Halt EspErr) (StateM σ) Bytes)
    (nonce : CookieNonce) (context : NtsNtpAuthContext) (packet : Bytes) (capacity : Nat) :
    ExceptT (Halt EspErr) (StateM σ) (Bytes × Nat) := do
  let offset := 48 + (4 + context.uniqueIdLen)
  let (plaintext, plaintextLen) ← appendCookiesWith create (cookieCount context)
    (List.replicate ntsNtpMaxPacketSize 0) 0
  let ciphertext ← encryptWithin aead ntsNtpMaxPacketSize context.keys.s2cKey.bytes
    (packet.take offset) nonce.bytes (plaintext.take plaintextLen)
  let (authBody, authBodyLen) ← authenticatorBody nonce.bytes ciphertext
  let (packet, offset) ← appendExtension packet capacity offset ntsEfAuthenticator authBody authBodyLen
  if offset > context.requestLength then throw (.error .invalidSize)
  return (packet, offset)

theorem protectResponseWith_from (authenticated : context.authenticated = true)
    (uid : context.uniqueIdLen ≤ 256 ∧ context.uniqueIdLen % 4 = 0) (within : capacity ≤ packet.length)
    (small : capacity ≤ ntsNtpMaxPacketSize) (room : 48 + (4 + context.uniqueIdLen) ≤ capacity) (s : σ) :
    (protectResponseWith aead create nonce context packet ntpHeaderLen capacity).run.run s =
      (protectFrom aead create nonce context (writeAt packet 48 (uniqueIdField context).encode)
        capacity).run.run s := by
  have appendUid : appendExtension packet capacity ntpHeaderLen ntsEfUniqueIdentifier
      context.uniqueId.bytes context.uniqueIdLen =
      .ok (writeAt packet 48 (uniqueIdField context).encode, 48 + (4 + context.uniqueIdLen)) :=
    appendExtension_ok (by rw [context.uniqueId.length]; exact uid.1) uid.2
      (by simp only [ntpHeaderLen]; omega) within small
  have guard : ¬(¬context.authenticated = true ∨ ntpHeaderLen ≠ ntpHeaderLen ∨
      capacity < ntpHeaderLen ∨ capacity > ntsNtpMaxPacketSize) := by
    simp only [authenticated, not_true_eq_false, ne_eq, false_or, ntpHeaderLen]
    omega
  unfold protectResponseWith
  dsimp only
  rw [if_neg guard, run_bind_ok (run_lift_ok appendUid s)]
  rfl

theorem take_uniqueId (uid : context.uniqueIdLen ≤ 256) (base : 48 ≤ packet.length) :
    (writeAt packet 48 (uniqueIdField context).encode).take (48 + (4 + context.uniqueIdLen)) =
      packet.take 48 ++ (uniqueIdField context).encode := by
  rw [← uniqueIdField_length uid]
  exact take_writeAt base

theorem protectResponseWith_run (whole : CreatesWhole create)
    (authenticated : context.authenticated = true)
    (uid : context.uniqueIdLen ≤ 256 ∧ context.uniqueIdLen % 4 = 0) (within : capacity ≤ packet.length)
    (small : capacity ≤ ntsNtpMaxPacketSize) (room : 48 + (4 + context.uniqueIdLen) ≤ capacity) {s s' : σ}
    {cookies : List Bytes} (count : cookies.length = cookieCount context)
    (creates : CreatesWith create s cookies s') {ciphertext : Bytes}
    (encrypted : aead.encrypt context.keys.s2cKey.bytes
      (packet.take 48 ++ (uniqueIdField context).encode) nonce.bytes
      (encodeFields (cookies.map cookieField)) = .ok ciphertext) :
    (protectResponseWith aead create nonce context packet ntpHeaderLen capacity).run.run s =
      if 48 + (4 + context.uniqueIdLen) + 40 + 132 * cookies.length ≤ min capacity context.requestLength
      then (.ok (writeAt packet 48 ((uniqueIdField context).encode ++
        (authenticatorField nonce ciphertext).encode),
        48 + (4 + context.uniqueIdLen) + 40 + 132 * cookies.length), s')
      else (.error (.error .invalidSize), s') := by
  have maxSize : ntsNtpMaxPacketSize = 1280 := rfl
  have few := cookieCount_le context
  have lengths := creates.cookie_length whole
  have uidEncoded := uniqueIdField_length uid.1
  have plaintextLen := encodeFields_cookies_length lengths
  have ciphertextLen := ciphertext_length lengths encrypted
  let first := writeAt packet 48 (uniqueIdField context).encode
  have firstSize : first.length = packet.length := writeAt_length (by omega)
  have cookiesAppended := appendCookiesWith_ok whole creates
    (show ([] : Bytes).length + 132 * cookies.length ≤ ntsNtpMaxPacketSize by
      rw [List.length_nil]; omega) (List.length_replicate (a := (0 : UInt8)))
  rw [writeAt_nil, List.nil_append, List.length_nil, Nat.zero_add, ← plaintextLen] at cookiesAppended
  have encryption := encryptWithin_ok (show ntsAesSivTagLen +
    (encodeFields (cookies.map cookieField)).length ≤ ntsNtpMaxPacketSize by
      simp only [ntsAesSivTagLen]; omega) encrypted
  obtain ⟨authBody, authenticator, authSize, authTaken⟩ := authenticatorBody_ok nonce.length
    (show ciphertext.length % 4 = 0 by omega) (show 20 + ciphertext.length ≤ ntsNtpMaxPacketSize by omega)
  rw [protectResponseWith_from authenticated uid within small room, protectFrom]
  dsimp only
  rw [← count, run_bind_ok cookiesAppended]
  dsimp only
  rw [take_writeAt_zero, take_uniqueId uid.1 (by omega), run_bind_ok (run_lift_ok encryption s'),
    run_bind_ok (run_lift_ok authenticator s')]
  dsimp only
  by_cases full : capacity < 48 + (4 + context.uniqueIdLen) + (4 + (20 + ciphertext.length))
  · have refused : appendExtension first capacity (48 + (4 + context.uniqueIdLen)) ntsEfAuthenticator
        authBody (20 + ciphertext.length) = .error (.error .invalidSize) :=
      appendExtension_full room small full
    rw [run_bind_error (run_lift_error refused s'), if_neg (by omega)]
  · have appendAuth : appendExtension first capacity (48 + (4 + context.uniqueIdLen))
        ntsEfAuthenticator authBody (20 + ciphertext.length) =
        .ok (writeAt packet 48 ((uniqueIdField context).encode ++
          (authenticatorField nonce ciphertext).encode),
          48 + (4 + context.uniqueIdLen) + 40 + 132 * cookies.length) := by
      rw [appendExtension_ok (by omega) (by omega) (by omega) (by omega) small, authTaken,
        writeAt_protected uid.1 within room]
      congr 2
      omega
    rw [run_bind_ok (run_lift_ok appendAuth s')]
    dsimp only
    by_cases fits : 48 + (4 + context.uniqueIdLen) + 40 + 132 * cookies.length > context.requestLength
    · rw [if_pos fits, if_neg (by omega)]
      rfl
    · rw [if_neg fits, if_pos (by omega)]
      rfl

end

theorem ntsNtpAuthProtectResponse_ok {context : NtsNtpAuthContext} (answerable : Answerable context)
    {packet : Bytes} (size : packet.length = ntsNtpMaxPacketSize) {envs : Nat → CookieEnv}
    {nonce : CookieNonce} {store store' : Option Keyring} {cookies : List Bytes}
    (count : cookies.length = 1 + context.validPlaceholders)
    (creates : Creates aead context.keys envs store cookies store') {ciphertext : Bytes}
    (encrypted : aead.encrypt context.keys.s2cKey.bytes
      (packet.take 48 ++ (uniqueIdField context).encode) nonce.bytes
      (encodeFields (cookies.map cookieField)) = .ok ciphertext) :
    (ntsNtpAuthProtectResponse aead envs nonce context packet ntpHeaderLen
        ntsNtpMaxPacketSize).run.run store =
      (.ok (writeAt packet 48 ((uniqueIdField context).encode ++
        (authenticatorField nonce ciphertext).encode),
        48 + (4 + context.uniqueIdLen) + 40 + 132 * (1 + context.validPlaceholders)), store') := by
  have length := answerable.length
  have fits := answerable.fits
  have maxSize : ntsNtpMaxPacketSize = 1280 := rfl
  rw [ntsNtpAuthProtectResponse_eq, protectResponseWith_run (createCookie_whole envs context.keys)
    answerable.authenticated answerable.uid size.ge le_rfl (by omega)
    (count.trans (cookieCount_eq answerable).symm) creates.with encrypted, count, if_pos (by omega)]

theorem Layout.Authenticates.answerable {store : Option Keyring} {env : CookieEnv} {layout : Layout}
    {context : NtsNtpAuthContext} (authenticates : layout.Authenticates aead store env context)
    (authenticated : context.authenticated = true)
    (length : context.requestLength = layout.packet.length)
    (fits : layout.packet.length ≤ ntsNtpMaxPacketSize) : Answerable context := by
  obtain ⟨uid, uidBodies, -, most, -, uidLen⟩ := authenticates.uniqueId
  obtain ⟨cookie, -, -, placeholders⟩ := authenticates.cookie
  have aligned : uid.length % 4 = 0 := by
    obtain ⟨field, mem, -, rfl⟩ := mem_bodies.mp (uidBodies ▸ List.mem_singleton_self uid)
    exact (authenticates.wellFormed.before field mem).1.aligned
  refine ⟨authenticated, ⟨uidLen ▸ most, uidLen ▸ aligned⟩, ?_, length ▸ authenticates.length,
    length ▸ fits⟩
  rw [placeholders]
  exact List.count_le_length.trans (List.length_take_le _ _)

structure Protects (aead : Aead) (context : NtsNtpAuthContext) (uid : Bytes) (nonce : CookieNonce)
    (cookies : List Bytes) (packet packet' : Bytes) (packetLen : Nat) : Prop where
  length : packetLen ≤ context.requestLength
  aligned : packetLen % 4 = 0
  size : packet'.length = packet.length
  count : cookies.length = 1 + context.validPlaceholders
  header : packet'.take 48 = packet.take 48
  rest : packet'.drop packetLen = packet.drop packetLen
  fields : ∃ ciphertext, packet'.take packetLen = packet.take 48 ++
      (Field.encode ⟨ntsEfUniqueIdentifier, uid⟩ ++ (authenticatorField nonce ciphertext).encode) ∧
    aead.encrypt context.keys.s2cKey.bytes
      (packet.take 48 ++ Field.encode ⟨ntsEfUniqueIdentifier, uid⟩) nonce.bytes
      (encodeFields (cookies.map cookieField)) = .ok ciphertext

theorem protected_response_fits {requestStore requestStore' : Option Keyring} {env : CookieEnv}
    {request : Bytes} {context : NtsNtpAuthContext}
    (verified : ntsNtpAuthVerifyRequest aead requestStore env request = (.ok context, requestStore'))
    {packet : Bytes} (size : packet.length = ntsNtpMaxPacketSize) {envs : Nat → CookieEnv}
    {nonce : CookieNonce} {store store' : Option Keyring} {cookies : List Bytes}
    (count : cookies.length = 1 + context.validPlaceholders)
    (creates : Creates aead context.keys envs store cookies store') {ciphertext : Bytes}
    (encrypted : aead.encrypt context.keys.s2cKey.bytes
      (packet.take 48 ++ (uniqueIdField context).encode) nonce.bytes
      (encodeFields (cookies.map cookieField)) = .ok ciphertext) :
    ∃ (layout : Layout) (uid packet' : Bytes) (packetLen : Nat),
      layout.packet = request ∧ layout.WellFormed ∧
      bodies ntsEfUniqueIdentifier layout.before = [uid] ∧
      (ntsNtpAuthProtectResponse aead envs nonce context packet ntpHeaderLen
        ntsNtpMaxPacketSize).run.run store = (.ok (packet', packetLen), store') ∧
      Protects aead context uid nonce cookies packet packet' packetLen := by
  obtain ⟨locals, accepts⟩ := accepts_of_verified verified
  obtain ⟨layout, rfl, found⟩ := accepts.layout
  have authenticates := accepts.authenticates found
  have answerable := authenticates.answerable (by rw [accepts.context]) (by rw [accepts.context])
    accepts.most
  obtain ⟨uid, uidBodies, -, most, uniqueId, uidLen⟩ := authenticates.uniqueId
  have field : uniqueIdField context = ⟨ntsEfUniqueIdentifier, uid⟩ := by
    rw [uniqueIdField, uniqueId, uidLen, uniqueIdOf_take most]
  refine ⟨layout, uid, _, _, rfl, found.wellFormed, uidBodies,
    ntsNtpAuthProtectResponse_ok answerable size count creates encrypted, ?_⟩
  have uidEncoded := uniqueIdField_length answerable.uid.1
  have ciphertextLen := ciphertext_length creates.cookie_length encrypted
  have written : 48 + (4 + context.uniqueIdLen) + 40 + 132 * (1 + context.validPlaceholders) =
      48 + ((uniqueIdField context).encode ++ (authenticatorField nonce ciphertext).encode).length := by
    rw [List.length_append, uidEncoded, Field.encode_length, authenticatorField,
      authBytes_length nonce.length]
    omega
  have maxSize : ntsNtpMaxPacketSize = 1280 := rfl
  have length := answerable.length
  have fits := answerable.fits
  have aligned := answerable.uid.2
  refine ⟨by omega, by omega, writeAt_length (by omega), count, take_writeAt_before _ (by omega), ?_,
    ciphertext, ?_, field ▸ encrypted⟩
  · rw [written]
    exact drop_writeAt (by omega)
  · rw [written, take_writeAt (by omega), field]

def sampleBuffer : Bytes := List.replicate 1280 5

theorem sampleCookie_created : ntsCookieCreate keyedAead (some sampleRing) sampleEnv sampleKeys
    ntsCookieMaxLen = (.ok sampleCookie, some sampleRing) := by decide +kernel

theorem sampleCookies_created : Creates keyedAead sampleContext.keys (fun _ => sampleEnv)
    (some sampleRing) [sampleCookie, sampleCookie] (some sampleRing) :=
  .next sampleCookie_created (.next sampleCookie_created (.none _ _))

theorem sampleRequest_answered : ∃ (layout : Layout) (uid packet' : Bytes) (packetLen : Nat),
    layout.packet = sampleRequest ∧ layout.WellFormed ∧
    bodies ntsEfUniqueIdentifier layout.before = [uid] ∧
    (ntsNtpAuthProtectResponse keyedAead (fun _ => sampleEnv) fixedNonce sampleContext sampleBuffer
      ntpHeaderLen ntsNtpMaxPacketSize).run.run (some sampleRing) =
        (.ok (packet', packetLen), some sampleRing) ∧
    Protects keyedAead sampleContext uid fixedNonce [sampleCookie, sampleCookie] sampleBuffer packet'
      packetLen :=
  have ⟨_, encrypted⟩ := idealAead_encrypts keyedCrypto fixedKey.bytes
    (sampleBuffer.take 48 ++ (uniqueIdField sampleContext).encode) fixedNonce.bytes
    (encodeFields ([sampleCookie, sampleCookie].map cookieField))
  protected_response_fits sampleRequest_verified List.length_replicate rfl sampleCookies_created
    encrypted

end NtsTimeServer.Proof
