import NtsTimeServer.Proof.LateStamp
import NtsTimeServer.Proof.NtpServer

namespace NtsTimeServer.Proof
open Model Lib

structure VlanTag where
  type : Nat
  control : Nat
  isTag : isVlanTag type = true

def VlanTag.encode (tag : VlanTag) : Bytes := beBytes 2 tag.type ++ beBytes 2 tag.control

/-- All that a frame adds to a UDP payload. The IPv4 header may have any contents, as long as the
header length in it is its own. -/
structure Encapsulation where
  addresses : Bytes
  tags : List VlanTag
  ipHeader : Bytes
  sourcePort : Nat
  destinationPort : Nat
  checksum : Nat
  trailer : Bytes
  addresses_length : addresses.length = 12
  tags_length : tags.length ≤ 2
  ipHeader_length : ipHeader.length = byteAt ipHeader 0 % 16 * 4
  ipHeader_nonempty : ipHeader ≠ []
  sourcePort_lt : sourcePort < 2 ^ 16

namespace Encapsulation

def udpHeader (encapsulation : Encapsulation) (payload : Bytes) : Bytes :=
  beBytes 2 encapsulation.sourcePort ++ (beBytes 2 encapsulation.destinationPort ++
    (beBytes 2 (8 + payload.length) ++ beBytes 2 encapsulation.checksum))

def datagram (encapsulation : Encapsulation) (payload : Bytes) : Bytes :=
  encapsulation.udpHeader payload ++ (payload ++ encapsulation.trailer)

def frame (encapsulation : Encapsulation) (payload : Bytes) : Bytes :=
  encapsulation.addresses ++ (encapsulation.tags.flatMap VlanTag.encode ++
    (beBytes 2 ethertypeIpv4 ++ (encapsulation.ipHeader ++ encapsulation.datagram payload)))

def l3Offset (encapsulation : Encapsulation) : Nat := 14 + 4 * encapsulation.tags.length

def udpOffset (encapsulation : Encapsulation) : Nat :=
  encapsulation.l3Offset + encapsulation.ipHeader.length

end Encapsulation

@[simp] theorem VlanTag.encode_length (tag : VlanTag) : tag.encode.length = 4 := by
  simp [VlanTag.encode]

theorem isVlanTag_lt {type : Nat} (tag : isVlanTag type = true) : type < 256 ^ 2 := by
  simp only [isVlanTag, Bool.or_eq_true, beq_iff_eq, ethertypeVlan, ethertypeQinq] at tag
  omega

theorem encodeTags_length (tags : List VlanTag) : (tags.flatMap VlanTag.encode).length = 4 * tags.length := by
  induction tags with
  | nil => rfl
  | cons tag tags ih =>
      rw [List.flatMap_cons, List.length_append, ih, VlanTag.encode_length, List.length_cons]
      omega

theorem ethSkipVlanTags_tags {buffer rest : Bytes} {tags : List VlanTag} {fuel offset : Nat}
    (enough : tags.length ≤ fuel)
    (at' : buffer.drop offset = tags.flatMap VlanTag.encode ++ (beBytes 2 ethertypeIpv4 ++ rest)) :
    ethSkipVlanTags buffer fuel (readBe16 buffer offset) (offset + 2) =
      some (ethertypeIpv4, offset + 2 + 4 * tags.length) := by
  induction tags generalizing fuel offset with
  | nil =>
      have type : readBe16 buffer offset = ethertypeIpv4 := by
        have read := readBe16_drop buffer offset 0
        rw [at'] at read
        exact read.symm.trans (readBe_beBytes_append (by decide) rest)
      rw [type]
      cases fuel <;> rfl
  | cons tag tags ih =>
      obtain ⟨fuel, rfl⟩ : ∃ less, fuel = less + 1 :=
        Nat.exists_eq_succ_of_ne_zero (Nat.ne_of_gt ((Nat.succ_pos _).trans_le enough))
      rw [List.flatMap_cons, List.append_assoc] at at'
      have type : readBe16 buffer offset = tag.type := by
        have read := readBe16_drop buffer offset 0
        rw [at', VlanTag.encode, List.append_assoc] at read
        exact read.symm.trans (readBe_beBytes_append (isVlanTag_lt tag.isTag) _)
      have size : buffer.length - offset = 4 + (4 * tags.length + (2 + rest.length)) := by
        rw [← List.length_drop, at']
        simp only [List.length_append, VlanTag.encode_length, encodeTags_length, beBytes_length]
      have next : buffer.drop (offset + 4) =
          tags.flatMap VlanTag.encode ++ (beBytes 2 ethertypeIpv4 ++ rest) := by
        rw [← List.drop_drop, at']
        exact List.drop_left' tag.encode_length
      have walked := ih (Nat.le_of_succ_le_succ enough) next
      rw [type, ethSkipVlanTags, if_pos tag.isTag, if_neg (by omega),
        show offset + 2 + 2 = offset + 4 from rfl, show offset + 2 + 4 = offset + 4 + 2 by omega, walked,
        List.length_cons]
      congr 2
      omega

namespace Encapsulation

variable (encapsulation : Encapsulation) (payload : Bytes)

theorem walked : ethSkipVlanTags (encapsulation.frame payload) 2
    (readBe16 (encapsulation.frame payload) 12) 14 = some (ethertypeIpv4, encapsulation.l3Offset) :=
  ethSkipVlanTags_tags encapsulation.tags_length
    (List.drop_left' encapsulation.addresses_length)

theorem drop_l3Offset : (encapsulation.frame payload).drop encapsulation.l3Offset =
    encapsulation.ipHeader ++ encapsulation.datagram payload := by
  have front : encapsulation.l3Offset =
      12 + ((encapsulation.tags.flatMap VlanTag.encode).length + 2) := by
    rw [l3Offset, encodeTags_length]
    omega
  rw [front, ← List.drop_drop, ← List.drop_drop, frame, List.drop_left' encapsulation.addresses_length,
    List.drop_left, List.drop_left' (beBytes_length 2 _)]

theorem ipHeaderLen_frame : ipHeaderLen (encapsulation.frame payload) encapsulation.l3Offset =
    encapsulation.ipHeader.length := by
  have first : byteAt (encapsulation.frame payload) encapsulation.l3Offset =
      byteAt encapsulation.ipHeader 0 := by
    have dropped := encapsulation.drop_l3Offset payload
    have nonempty := List.length_pos_iff.mpr encapsulation.ipHeader_nonempty
    rw [byteAt, byteAt, List.getD_eq_getElem?_getD, List.getD_eq_getElem?_getD,
      ← Nat.add_zero encapsulation.l3Offset, ← List.getElem?_drop, dropped,
      List.getElem?_append_left nonempty]
  rw [ipHeaderLen, first, ← encapsulation.ipHeader_length]

theorem drop_udpOffset : (encapsulation.frame payload).drop encapsulation.udpOffset =
    encapsulation.datagram payload := by
  rw [udpOffset, ← List.drop_drop, drop_l3Offset, List.drop_left]

theorem drop_payload : (encapsulation.frame payload).drop (encapsulation.udpOffset + 8) =
    payload ++ encapsulation.trailer := by
  rw [← List.drop_drop, drop_udpOffset, datagram]
  exact List.drop_left' (by simp [udpHeader])

theorem window_payload : window (encapsulation.frame payload) (encapsulation.udpOffset + 8)
    payload.length = payload := by
  rw [window, drop_payload, List.take_left]

theorem sourcePort_read : readBe16 (encapsulation.frame payload) encapsulation.udpOffset =
    encapsulation.sourcePort := by
  have read := readBe16_drop (encapsulation.frame payload) encapsulation.udpOffset 0
  rw [drop_udpOffset, datagram, udpHeader, List.append_assoc] at read
  exact read.symm.trans (readBe_beBytes_append encapsulation.sourcePort_lt _)

theorem udpLength_read {payload : Bytes} (fits : 8 + payload.length < 2 ^ 16) :
    readBe16 (encapsulation.frame payload) (encapsulation.udpOffset + 4) = 8 + payload.length := by
  have read := readBe16_drop (encapsulation.frame payload) encapsulation.udpOffset 4
  rw [drop_udpOffset, datagram, udpHeader, List.append_assoc, readBe16, readBe_skip 2 (by decide),
    List.append_assoc, readBe_skip 2 (by decide), List.append_assoc] at read
  exact read.symm.trans (readBe_beBytes_append fits _)

theorem byteAt_payload {offset : Nat} (within : offset < payload.length) :
    byteAt (encapsulation.frame payload) (encapsulation.udpOffset + 8 + offset) =
      byteAt payload offset := by
  rw [byteAt, byteAt, List.getD_eq_getElem?_getD, List.getD_eq_getElem?_getD, ← List.getElem?_drop,
    drop_payload, List.getElem?_append_left within]

theorem udpOffset_eq {udpOffset : Nat}
    (located : ethFrameUdpOffset (encapsulation.frame payload) = some udpOffset) :
    udpOffset = encapsulation.udpOffset := by
  obtain ⟨l3Offset, walked, rfl, -⟩ := ethFrameUdpOffset_some located
  cases walked.symm.trans (encapsulation.walked payload)
  rw [ipHeaderLen_frame]
  rfl

end Encapsulation

/-! ## What the transmit hook leaves alone -/

theorem not_response_unchanged {frame : Bytes} (clock : Option NtpTimestamp)
    (other : ∀ udpOffset, ethFrameUdpOffset frame = some udpOffset →
      readBe16 frame udpOffset ≠ ntpUdpPort) : ethNtpTxProbeTransmit frame clock = frame := by
  refine if_pos fun response => ?_
  obtain ⟨udpOffset, located, source⟩ := ethFrameIsIpv4UdpNtpResponse_iff.mp response
  exact other udpOffset located source

theorem unprepared_unchanged {frame : Bytes} (clock : Option NtpTimestamp)
    (refused : ethFramePrepareNtpLateStamp frame = none) : ethNtpTxProbeTransmit frame clock = frame := by
  unfold ethNtpTxProbeTransmit
  split
  · rfl
  · rw [refused]

theorem unprepared_of_not {frame : Bytes} (refused : ∀ l3Offset ctx, ¬Prepared frame l3Offset ctx) :
    ethFramePrepareNtpLateStamp frame = none := by
  cases accepted : ethFramePrepareNtpLateStamp frame with
  | none => rfl
  | some ctx =>
      obtain ⟨l3Offset, prepared⟩ := prepared_of_some accepted
      exact absurd prepared (refused l3Offset ctx)

section

variable (encapsulation : Encapsulation) {payload : Bytes}

theorem other_length_unprepared (other : payload.length ≠ 48) (fits : 8 + payload.length < 2 ^ 16) :
    ethFramePrepareNtpLateStamp (encapsulation.frame payload) = none := by
  apply unprepared_of_not
  intro l3Offset ctx prepared
  have length := prepared.udpLength
  rw [encapsulation.udpOffset_eq payload prepared.located, encapsulation.udpLength_read fits] at length
  exact absurd (by omega) other

theorem kod_unprepared (size : 2 ≤ payload.length) (kod : byteAt payload 1 = ntpStratumKod) :
    ethFramePrepareNtpLateStamp (encapsulation.frame payload) = none := by
  apply unprepared_of_not
  intro l3Offset ctx prepared
  refine absurd ?_ prepared.stratum
  rw [prepared.ntpOffset, encapsulation.udpOffset_eq payload prepared.located,
    encapsulation.byteAt_payload payload size, kod]
  rfl

end

theorem protected_length {packet' : Bytes} {aead : Aead} {context : NtsNtpAuthContext}
    {nonce : CookieNonce} {cookies : List Bytes} {ciphertext packet : Bytes} {capacity packetLen : Nat}
    (protects : ProtectedBy aead context nonce cookies ciphertext packet packet' capacity packetLen)
    (base : 48 ≤ packet.length) (small : capacity ≤ ntsNtpMaxPacketSize) :
    (packet'.take packetLen).length ≠ 48 ∧ 8 + (packet'.take packetLen).length < 2 ^ 16 := by
  have fits := protects.fits.1.trans small
  rw [protects.sent_length base]
  refine ⟨?_, ?_⟩
  · rw [protects.length]
    omega
  · simp only [ntsNtpMaxPacketSize] at fits
    omega

/-- The transmit hook changes no protected response, no RATE kiss-of-death and no frame from another
port, so the authenticator of a protected response still verifies. -/
theorem late_stamp_spares_authenticated {F : Type} [Double F] {aead : Aead}
    (roundTrip : aead.RoundTrip) (encapsulation : Encapsulation) (clock : Option NtpTimestamp) :
    (∀ envs nonce context packet basePacketLen capacity packet' packetLen store store',
      capacity ≤ packet.length →
      (ntsNtpAuthProtectResponse aead envs nonce context packet basePacketLen capacity).run.run store =
        (.ok (packet', packetLen), store') →
      let frame := encapsulation.frame (packet'.take packetLen)
      ethNtpTxProbeTransmit frame clock = frame ∧
        ∃ (cookies : List Bytes) (ciphertext : Bytes),
          window (ethNtpTxProbeTransmit frame clock) (encapsulation.udpOffset + 8) packetLen =
            packet.take 48 ++ ((uniqueIdField context).encode ++
              (authenticatorField nonce ciphertext).encode) ∧
          aead.decrypt context.keys.s2cKey.bytes (packet.take 48 ++ (uniqueIdField context).encode)
            nonce.bytes ciphertext = .ok (encodeFields (cookies.map cookieField))) ∧
    (∀ request out (reading : ClockReading F),
      let frame := encapsulation.frame ((buildRateKod request out reading).take ntpPacketSize)
      ethNtpTxProbeTransmit frame clock = frame) ∧
    (encapsulation.sourcePort ≠ ntpUdpPort → ∀ payload,
      ethNtpTxProbeTransmit (encapsulation.frame payload) clock = encapsulation.frame payload) ∧
    ∀ frame, (∀ udpOffset, ethFrameUdpOffset frame = some udpOffset →
      readBe16 frame udpOffset ≠ ntpUdpPort) → ethNtpTxProbeTransmit frame clock = frame := by
  refine ⟨?_, ?_, ?_, fun frame other => not_response_unchanged clock other⟩
  · intro envs nonce context packet basePacketLen capacity packet' packetLen store store' within returned
    rw [ntsNtpAuthProtectResponse_eq] at returned
    obtain ⟨-, -, base, small⟩ := protectResponseWith_sizes returned
    obtain ⟨cookies, ciphertext, -, protects⟩ := protectResponseWith_inv
      (createCookie_whole envs context.keys) within returned
    obtain ⟨other, fits⟩ := protected_length protects (base.trans within) small
    have unchanged := unprepared_unchanged clock
      (other_length_unprepared encapsulation other fits)
    refine ⟨unchanged, cookies, ciphertext, ?_, roundTrip _ _ _ _ _ protects.encrypted⟩
    have received := encapsulation.window_payload (packet'.take packetLen)
    rw [protects.sent_length (base.trans within)] at received
    rw [unchanged, received, protects.sent (base.trans within)]
  · intro request out reading
    obtain ⟨packet, built, -, kod⟩ := buildRateKod_eq request out reading
    have bytes : (buildRateKod request out reading).take ntpPacketSize = ntpPacketBytes packet := by
      rw [built]
      exact ntpPacketBuild_take out packet
    have carries : Carries (ntpPacketBytes packet) packet :=
      List.take_of_length_le (ntpPacketBytes_length packet).le
    refine unprepared_unchanged clock (kod_unprepared encapsulation ?_ ?_)
    · rw [bytes, ntpPacketBytes_length]
      decide
    · rw [bytes, carries.stratum (by rw [kod]; decide), kod]
  · intro other payload
    refine not_response_unchanged clock fun udpOffset located => ?_
    rw [encapsulation.udpOffset_eq payload located, encapsulation.sourcePort_read]
    exact other

def taggedEncapsulation : Encapsulation where
  addresses := List.replicate 12 2
  tags := [⟨ethertypeVlan, 5, by decide⟩]
  ipHeader := [0x45, 0, 1, 164, 0, 0, 0x40, 0, 64, 17] ++ List.replicate 10 7
  sourcePort := 123
  destinationPort := 40000
  checksum := 0x1234
  trailer := []
  addresses_length := rfl
  tags_length := by decide
  ipHeader_length := by decide
  ipHeader_nonempty := by decide
  sourcePort_lt := by decide

theorem sampleContext_answerable : Answerable sampleContext :=
  ⟨rfl, by decide, by decide, by decide, by decide⟩

theorem taggedResponse_spared : ∃ packet packetLen,
    (ntsNtpAuthProtectResponse keyedAead (fun _ => sampleEnv) fixedNonce sampleContext sampleBuffer
      ntpHeaderLen ntsNtpMaxPacketSize).run.run (some sampleRing) =
        (.ok (packet, packetLen), some sampleRing) ∧
    ethNtpTxProbeTransmit (taggedEncapsulation.frame (packet.take packetLen)) (some ⟨3908988800, 0⟩) =
      taggedEncapsulation.frame (packet.take packetLen) :=
  have ⟨_, encrypted⟩ := idealAead_encrypts keyedCrypto fixedKey.bytes
    (sampleBuffer.take 48 ++ (uniqueIdField sampleContext).encode) fixedNonce.bytes
    (encodeFields ([sampleCookie, sampleCookie].map cookieField))
  have returned := ntsNtpAuthProtectResponse_ok sampleContext_answerable List.length_replicate rfl
    sampleCookies_created encrypted
  ⟨_, _, returned, ((late_stamp_spares_authenticated (F := ℚ) (idealAead_roundTrip keyedCrypto)
    taggedEncapsulation (some ⟨3908988800, 0⟩)).1 _ _ _ _ _ _ _ _ _ _ List.length_replicate.ge returned).1⟩

end NtsTimeServer.Proof
