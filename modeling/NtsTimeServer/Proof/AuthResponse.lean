import NtsTimeServer.Proof.AuthProtect

namespace NtsTimeServer.Proof
open Model Lib

structure ProtectedBy (aead : Aead) (context : NtsNtpAuthContext) (nonce : CookieNonce)
    (cookies : List Bytes) (ciphertext packet packet' : Bytes) (capacity packetLen : Nat) : Prop where
  uid : context.uniqueIdLen ≤ 256 ∧ context.uniqueIdLen % 4 = 0
  count : cookies.length = cookieCount context
  whole : ∀ cookie ∈ cookies, cookie.length = ntsCookieLen
  encrypted : aead.encrypt context.keys.s2cKey.bytes
    (packet.take 48 ++ (uniqueIdField context).encode) nonce.bytes
    (encodeFields (cookies.map cookieField)) = .ok ciphertext
  written : packet' = writeAt packet 48 ((uniqueIdField context).encode ++
    (authenticatorField nonce ciphertext).encode)
  length : packetLen = 48 + (4 + context.uniqueIdLen) + 40 + 132 * cookies.length
  fits : packetLen ≤ capacity ∧ packetLen ≤ context.requestLength

variable {aead : Aead} {σ : Type} {create : Nat → ExceptT (Halt EspErr) (StateM σ) Bytes}
  {nonce : CookieNonce} {context : NtsNtpAuthContext} {packet : Bytes}

theorem protectResponseWith_cases (whole : CreatesWhole create)
    (authenticated : context.authenticated = true)
    (uid : context.uniqueIdLen ≤ 256 ∧ context.uniqueIdLen % 4 = 0) {capacity : Nat}
    (within : capacity ≤ packet.length) (small : capacity ≤ ntsNtpMaxPacketSize)
    (room : 48 + (4 + context.uniqueIdLen) ≤ capacity) (s : σ) :
    (∃ err s', (protectResponseWith aead create nonce context packet ntpHeaderLen capacity).run.run s =
      (.error (.error err), s')) ∨
    ∃ cookies ciphertext packet' packetLen s', CreatesWith create s cookies s' ∧
      ProtectedBy aead context nonce cookies ciphertext packet packet' capacity packetLen ∧
      (protectResponseWith aead create nonce context packet ntpHeaderLen capacity).run.run s =
        (.ok (packet', packetLen), s') := by
  have maxSize : ntsNtpMaxPacketSize = 1280 := rfl
  have few := cookieCount_le context
  have zeros : (List.replicate ntsNtpMaxPacketSize (0 : UInt8)).length = ntsNtpMaxPacketSize :=
    List.length_replicate
  have noCookies : ([] : Bytes).length + 132 * cookieCount context ≤ ntsNtpMaxPacketSize := by
    rw [List.length_nil]
    omega
  have starts : (protectResponseWith aead create nonce context packet ntpHeaderLen capacity).run.run s =
      (protectFrom aead create nonce context (writeAt packet 48 (uniqueIdField context).encode)
        capacity).run.run s := protectResponseWith_from authenticated uid within small room s
  rcases appendCookiesWith_cases whole s noCookies zeros with ⟨cookies, s', count, creates⟩ |
    ⟨err, s', failed⟩
  · have lengths := creates.cookie_length whole
    have plaintextLen := encodeFields_cookies_length lengths
    cases encrypted : aead.encrypt context.keys.s2cKey.bytes
        (packet.take 48 ++ (uniqueIdField context).encode) nonce.bytes
        (encodeFields (cookies.map cookieField)) with
    | ok ciphertext =>
        have run := protectResponseWith_run whole authenticated uid within small room count creates
          encrypted
        split at run
        · rename_i fits
          exact Or.inr ⟨cookies, ciphertext, _, _, s', creates, ⟨uid, count, lengths, encrypted, rfl, rfl,
            by omega, by omega⟩, run⟩
        · exact Or.inl ⟨_, s', run⟩
    | error err =>
        have appended := appendCookiesWith_ok whole creates (count ▸ noCookies) zeros
        rw [writeAt_nil, List.nil_append, List.length_nil, Nat.zero_add, ← plaintextLen, count] at appended
        have refused : encryptWithin aead ntsNtpMaxPacketSize context.keys.s2cKey.bytes
            (packet.take 48 ++ (uniqueIdField context).encode) nonce.bytes
            (encodeFields (cookies.map cookieField)) = .error (.error err) := by
          rw [encryptWithin, if_neg (by simp only [ntsAesSivTagLen]; omega), encrypted]
          rfl
        refine Or.inl ⟨err, s', ?_⟩
        rw [starts, protectFrom]
        dsimp only
        rw [run_bind_ok appended]
        dsimp only
        rw [take_writeAt_zero, take_uniqueId uid.1 (by omega), run_bind_error (run_lift_error refused s')]
  · rw [writeAt_nil, List.length_nil] at failed
    refine Or.inl ⟨err, s', ?_⟩
    rw [starts, protectFrom]
    dsimp only
    rw [run_bind_error failed]

theorem protectResponseWith_sizes {basePacketLen capacity packetLen : Nat} {packet' : Bytes} {s s' : σ}
    (returned : (protectResponseWith aead create nonce context packet basePacketLen capacity).run.run s =
      (.ok (packet', packetLen), s')) :
    context.authenticated = true ∧ basePacketLen = ntpHeaderLen ∧ ntpHeaderLen ≤ capacity ∧
      capacity ≤ ntsNtpMaxPacketSize := by
  unfold protectResponseWith at returned
  dsimp only at returned
  split at returned
  · cases returned
  · rename_i guard
    simp only [ne_eq, not_or, not_not, not_lt] at guard
    obtain ⟨authenticated, rfl, inside, small⟩ := guard
    exact ⟨authenticated, rfl, inside, small⟩

theorem protectResponseWith_inv (whole : CreatesWhole create) {basePacketLen capacity : Nat}
    (within : capacity ≤ packet.length) {packet' : Bytes} {packetLen : Nat} {s s' : σ}
    (returned : (protectResponseWith aead create nonce context packet basePacketLen capacity).run.run s =
      (.ok (packet', packetLen), s')) :
    ∃ cookies ciphertext, CreatesWith create s cookies s' ∧
      ProtectedBy aead context nonce cookies ciphertext packet packet' capacity packetLen := by
  have result := returned
  obtain ⟨authenticated, rfl, inside, small⟩ := protectResponseWith_sizes returned
  unfold protectResponseWith at returned
  dsimp only at returned
  rw [if_neg (by simp only [authenticated, ne_eq, not_true_eq_false, false_or]; omega)] at returned
  obtain ⟨_, _, appended, _⟩ := run_bind_inv returned
  obtain ⟨reads, aligned, room⟩ := appendExtension_inv inside within small (run_lift_inv appended)
  rw [context.uniqueId.length] at reads
  rcases protectResponseWith_cases whole authenticated ⟨reads, aligned⟩ within small room s with
    ⟨err, s'', failed⟩ | ⟨cookies, ciphertext, packet'', packetLen', s'', creates, protects, run⟩
  · cases failed.symm.trans result
  · cases run.symm.trans result
    exact ⟨cookies, ciphertext, creates, protects⟩

section

variable {envs : Nat → CookieEnv} {store : Option Keyring}

theorem ntsNtpAuthProtectResponse_cases (answerable : Answerable context)
    (size : packet.length = ntsNtpMaxPacketSize) :
    (∃ err store', (ntsNtpAuthProtectResponse aead envs nonce context packet ntpHeaderLen
        ntsNtpMaxPacketSize).run.run store = (.error (.error err), store')) ∨
      ∃ packet' packetLen store', (ntsNtpAuthProtectResponse aead envs nonce context packet
        ntpHeaderLen ntsNtpMaxPacketSize).run.run store = (.ok (packet', packetLen), store') := by
  have length := answerable.length
  have fits := answerable.fits
  rw [ntsNtpAuthProtectResponse_eq]
  exact (protectResponseWith_cases (createCookie_whole envs context.keys) answerable.authenticated
    answerable.uid size.ge le_rfl (by omega) store).imp_right
      fun ⟨_, _, packet', packetLen, store', _, _, run⟩ => ⟨packet', packetLen, store', run⟩

theorem ntsNtpAuthProtectResponse_inv (size : packet.length = ntsNtpMaxPacketSize) {packet' : Bytes}
    {packetLen : Nat} {store' : Option Keyring}
    (returned : (ntsNtpAuthProtectResponse aead envs nonce context packet ntpHeaderLen
      ntsNtpMaxPacketSize).run.run store = (.ok (packet', packetLen), store')) :
    ∃ cookies ciphertext, ProtectedBy aead context nonce cookies ciphertext packet packet'
      ntsNtpMaxPacketSize packetLen := by
  rw [ntsNtpAuthProtectResponse_eq] at returned
  obtain ⟨cookies, ciphertext, _, protects⟩ := protectResponseWith_inv
    (createCookie_whole envs context.keys) size.ge returned
  exact ⟨cookies, ciphertext, protects⟩

end

/-! ## The bytes of a protected response -/

section

variable {cookies : List Bytes} {ciphertext packet' : Bytes} {capacity packetLen : Nat}

theorem ProtectedBy.sent (protects : ProtectedBy aead context nonce cookies ciphertext packet packet'
    capacity packetLen) (base : 48 ≤ packet.length) :
    packet'.take packetLen = packet.take 48 ++ ((uniqueIdField context).encode ++
      (authenticatorField nonce ciphertext).encode) := by
  have ciphertextLen := ciphertext_length protects.whole protects.encrypted
  have written : packetLen = 48 + ((uniqueIdField context).encode ++
      (authenticatorField nonce ciphertext).encode).length := by
    rw [protects.length, List.length_append, uniqueIdField_length protects.uid.1, Field.encode_length,
      authenticatorField, authBytes_length nonce.length]
    omega
  rw [protects.written, written]
  exact take_writeAt base

theorem ProtectedBy.sent_length (protects : ProtectedBy aead context nonce cookies ciphertext packet
    packet' capacity packetLen) (base : 48 ≤ packet.length) :
    (packet'.take packetLen).length = packetLen := by
  have ciphertextLen := ciphertext_length protects.whole protects.encrypted
  rw [protects.sent base, protects.length, List.length_append, List.length_append, List.length_take,
    uniqueIdField_length protects.uid.1, Field.encode_length, authenticatorField,
    authBytes_length nonce.length]
  omega

end

end NtsTimeServer.Proof
