import NtsTimeServer.Model.FrameWalk
import NtsTimeServer.Proof.LateStamp

namespace NtsTimeServer.Proof
open Model Lib

def walkOf {α : Type} : Option α → FrameWalk α
  | some a => .ok a
  | none => refuse

def ipOffset (buffer : Bytes) : Nat := ethL3Offset buffer 2 (readBe16 buffer 12) 14

def frameOffsets (buffer : Bytes) : FrameOffsets :=
  ⟨ipOffset buffer, ipOffset buffer + ipHeaderLen buffer (ipOffset buffer)⟩

theorem walkVlanTags_eq (buffer : Bytes) (tags etherType offset : Nat) :
    walkVlanTags buffer tags etherType offset = walkOf (ethSkipVlanTags buffer tags etherType offset) := by
  induction tags generalizing etherType offset with
  | zero => rfl
  | succ tags ih =>
      rw [walkVlanTags, ethSkipVlanTags]
      split
      · split
        · rfl
        next long =>
          rw [loadBe_ok (by omega), ok_bind]
          exact ih _ _
      · rfl

theorem walkVlanTagsUnchecked_eq {buffer : Bytes} {tags etherType offset etherType' l3Offset : Nat}
    (walked : ethSkipVlanTags buffer tags etherType offset = some (etherType', l3Offset)) :
    walkVlanTagsUnchecked buffer tags etherType offset = .ok l3Offset ∧
      ethL3Offset buffer tags etherType offset = l3Offset := by
  induction tags generalizing etherType offset with
  | zero =>
      cases walked
      exact ⟨rfl, rfl⟩
  | succ tags ih =>
      rw [ethSkipVlanTags] at walked
      rw [walkVlanTagsUnchecked, ethL3Offset]
      split at walked
      next tagged =>
        split at walked
        · cases walked
        next long =>
          rw [if_pos tagged, if_pos tagged, loadBe_ok (by omega), ok_bind]
          exact ih walked
      next untagged =>
        cases walked
        rw [if_neg untagged, if_neg untagged]
        exact ⟨rfl, rfl⟩

theorem walkUdpHeader_eq (buffer : Bytes) :
    walkUdpHeader buffer = walkOf ((ethFrameUdpOffset buffer).map (⟨ipOffset buffer, ·⟩)) := by
  unfold walkUdpHeader ethFrameUdpOffset
  by_cases short : buffer.length < 14
  · rw [if_pos short, if_pos short]
    rfl
  rw [if_neg short, if_neg short, loadBe_ok (by omega), ok_bind, walkVlanTags_eq]
  cases walked : ethSkipVlanTags buffer 2 (readBe16 buffer 12) 14 with
  | none => rfl
  | some found =>
      obtain ⟨etherType, l3Offset⟩ := found
      have offset : ipOffset buffer = l3Offset := (walkVlanTagsUnchecked_eq walked).2
      simp only [walkOf, ok_bind, offset]
      by_cases other : etherType ≠ ethertypeIpv4 ∨ buffer.length < l3Offset + 20
      · rw [if_pos other, if_pos other]
        rfl
      obtain ⟨-, ip⟩ := not_or.mp other
      rw [if_neg other, if_neg other, loadByte_ok (by omega), ok_bind]
      by_cases version : byteAt buffer l3Offset / 16 ≠ 4
      · rw [if_pos version, if_pos version]
        rfl
      rw [if_neg version, if_neg version]
      have size : byteAt buffer l3Offset % 16 * 4 = ipHeaderLen buffer l3Offset := rfl
      simp only [size]
      by_cases header : ipHeaderLen buffer l3Offset < 20 ∨
          buffer.length < l3Offset + ipHeaderLen buffer l3Offset + 8
      · rw [if_pos header, if_pos header]
        rfl
      rw [if_neg header, if_neg header, loadByte_ok (by omega), ok_bind]
      by_cases protocol : byteAt buffer (l3Offset + 9) ≠ ipProtocolUdp
      · rw [if_pos protocol, if_pos protocol]
        rfl
      rw [if_neg protocol, if_neg protocol, loadBe_ok (by omega), ok_bind]
      by_cases fragment : readBe16 buffer (l3Offset + 6) % 0x2000 ≠ 0
      · rw [if_pos fragment, if_pos fragment]
        rfl
      · rw [if_neg fragment, if_neg fragment]
        rfl

theorem located_offsets {buffer : Bytes} {udpOffset : Nat}
    (located : ethFrameUdpOffset buffer = some udpOffset) :
    ethSkipVlanTags buffer 2 (readBe16 buffer 12) 14 = some (ethertypeIpv4, ipOffset buffer) ∧
      udpOffset = ipOffset buffer + ipHeaderLen buffer (ipOffset buffer) ∧
      ipOffset buffer + 20 ≤ udpOffset ∧ udpOffset + 8 ≤ buffer.length := by
  obtain ⟨l3Offset, walked, rfl, header, within⟩ := ethFrameUdpOffset_some located
  obtain rfl : ipOffset buffer = l3Offset := (walkVlanTagsUnchecked_eq walked).2
  exact ⟨walked, rfl, by omega, within⟩

/-! ## The five walks -/

theorem walkPort_eq (buffer : Bytes) {shift : Nat} (inside : shift ≤ 6) :
    (do
      let offsets ← walkUdpHeader buffer
      let port ← loadBe 2 buffer (offsets.udpOffset + shift)
      if port ≠ ntpUdpPort then refuse else return offsets) =
    walkOf (match ethFrameUdpOffset buffer with
      | none => none
      | some udpOffset =>
          if readBe16 buffer (udpOffset + shift) = ntpUdpPort then some (frameOffsets buffer) else none) := by
  rw [walkUdpHeader_eq]
  cases located : ethFrameUdpOffset buffer with
  | none => rfl
  | some udpOffset =>
      obtain ⟨-, rfl, -, within⟩ := located_offsets located
      simp only [Option.map_some, walkOf, ok_bind]
      rw [loadBe_ok (by omega), ok_bind, ite_not]
      split <;> rfl

theorem walkIsIpv4UdpNtp_eq (buffer : Bytes) : walkIsIpv4UdpNtp buffer =
    walkOf (if ethFrameIsIpv4UdpNtp buffer then some (frameOffsets buffer) else none) := by
  refine (walkPort_eq buffer (show 2 ≤ 6 by decide)).trans ?_
  unfold ethFrameIsIpv4UdpNtp
  cases ethFrameUdpOffset buffer <;> simp

theorem walkIsIpv4UdpNtpResponse_eq (buffer : Bytes) : walkIsIpv4UdpNtpResponse buffer =
    walkOf (if ethFrameIsIpv4UdpNtpResponse buffer then some (frameOffsets buffer) else none) := by
  refine (walkPort_eq buffer (show 0 ≤ 6 by decide)).trans ?_
  unfold ethFrameIsIpv4UdpNtpResponse
  cases ethFrameUdpOffset buffer <;> simp

theorem ethFrameIsIpv4UdpNtp_located {buffer : Bytes} (request : ethFrameIsIpv4UdpNtp buffer = true) :
    ∃ udpOffset, ethFrameUdpOffset buffer = some udpOffset := by
  unfold ethFrameIsIpv4UdpNtp at request
  cases located : ethFrameUdpOffset buffer with
  | none => simp [located] at request
  | some udpOffset => exact ⟨udpOffset, rfl⟩

theorem readLe32_copied {buffer : Bytes} {offset : Nat} (within : offset + 4 ≤ buffer.length) :
    readLe32 (writeAt (List.replicate 4 0) 0 ((buffer.drop offset).take 4)) 0 = readLe32 buffer offset := by
  have copied (i : Nat) (low : i < 4) :
      byteAt (writeAt (List.replicate 4 0) 0 ((buffer.drop offset).take 4)) i = byteAt buffer (offset + i) := by
    have inside : i < ((buffer.drop offset).take 4).length := by
      simp only [List.length_take, List.length_drop]
      omega
    rw [byteAt, byteAt, writeAt_zero, List.getD_eq_getElem?_getD, List.getElem?_append_left inside,
      List.getElem?_take_of_lt low, List.getElem?_drop, ← List.getD_eq_getElem?_getD]
  rw [readLe32, readLe32, copied 0 (by decide), copied (0 + 1) (by decide), copied (0 + 2) (by decide),
    copied (0 + 3) (by decide)]
  rfl

theorem walkGetNtpClient_eq (buffer : Bytes) : walkGetNtpClient buffer =
    walkOf ((ethFrameGetNtpClient buffer).map fun client => (frameOffsets buffer, client)) := by
  unfold walkGetNtpClient ethFrameGetNtpClient
  rw [walkIsIpv4UdpNtp_eq]
  by_cases request : ethFrameIsIpv4UdpNtp buffer = true
  · obtain ⟨udpOffset, located⟩ := ethFrameIsIpv4UdpNtp_located request
    obtain ⟨walked, rfl, header, within⟩ := located_offsets located
    have source : 4 ≤ (buffer.drop (ipOffset buffer + 12)).length := by
      rw [List.length_drop]
      omega
    have size : byteAt buffer (ipOffset buffer) % 16 * 4 = ipHeaderLen buffer (ipOffset buffer) := rfl
    rw [if_pos request, if_neg (not_not.mpr request)]
    simp only [walkOf, ok_bind]
    rw [loadBe_ok (by omega), ok_bind, (walkVlanTagsUnchecked_eq walked).1, ok_bind,
      loadByte_ok (by omega), ok_bind, memcpy_ok source (by simp), ok_bind, size, loadBe_ok (by omega),
      ok_bind, readLe32_copied (by omega)]
    rfl
  · rw [if_neg request, if_pos request]
    rfl

theorem walkGetNtpResponseXmt_eq (buffer : Bytes) : walkGetNtpResponseXmt buffer =
    walkOf ((ethFrameGetNtpResponseXmt buffer).map fun timestamp => (frameOffsets buffer, timestamp)) := by
  unfold walkGetNtpResponseXmt ethFrameGetNtpResponseXmt
  rw [walkIsIpv4UdpNtpResponse_eq]
  by_cases response : ethFrameIsIpv4UdpNtpResponse buffer = true
  · obtain ⟨udpOffset, located, -⟩ := ethFrameIsIpv4UdpNtpResponse_iff.mp response
    obtain ⟨walked, rfl, header, within⟩ := located_offsets located
    have size : byteAt buffer (ipOffset buffer) % 16 * 4 = ipHeaderLen buffer (ipOffset buffer) := rfl
    have offset : ethL3Offset buffer 2 (readBe16 buffer 12) 14 = ipOffset buffer := rfl
    rw [if_pos response, if_neg (not_not.mpr response)]
    simp only [walkOf, ok_bind, offset]
    rw [loadBe_ok (by omega), ok_bind, (walkVlanTagsUnchecked_eq walked).1, ok_bind,
      loadByte_ok (by omega), ok_bind, size]
    by_cases short : buffer.length < ipOffset buffer + ipHeaderLen buffer (ipOffset buffer) + 8 + 48
    · rw [if_pos short, if_pos short]
      rfl
    · rw [if_neg short, if_neg short, loadBe_ok (by omega), ok_bind, loadBe_ok (by omega), ok_bind]
      rfl
  · rw [if_neg response, if_pos response]
    rfl

theorem walkPrepareDatagram_eq {buffer : Bytes} (header : ipOffset buffer + 20 ≤ buffer.length) :
    walkPrepareDatagram buffer (ipOffset buffer) =
      walkOf ((prepareDatagram buffer (ipOffset buffer)).map fun ctx => (frameOffsets buffer, ctx)) := by
  have size : byteAt buffer (ipOffset buffer) % 16 * 4 = ipHeaderLen buffer (ipOffset buffer) := rfl
  unfold walkPrepareDatagram prepareDatagram
  rw [loadByte_ok (by omega), ok_bind, size]
  dsimp only
  by_cases short : ipHeaderLen buffer (ipOffset buffer) < 20 ∨
      buffer.length < ipOffset buffer + ipHeaderLen buffer (ipOffset buffer) + 8
  · rw [if_pos short, if_pos short]
    rfl
  rw [if_neg short, if_neg short, loadBe_ok (by omega), ok_bind]
  by_cases fragment : readBe16 buffer (ipOffset buffer + 6) % 0x4000 ≠ 0
  · rw [if_pos fragment, if_pos fragment]
    rfl
  rw [if_neg fragment, if_neg fragment, loadBe_ok (by omega), ok_bind, loadBe_ok (by omega), ok_bind]
  by_cases lengths : readBe16 buffer (ipOffset buffer + ipHeaderLen buffer (ipOffset buffer) + 4) ≠ 56 ∨
      readBe16 buffer (ipOffset buffer + 2) ≠ ipHeaderLen buffer (ipOffset buffer) +
        readBe16 buffer (ipOffset buffer + ipHeaderLen buffer (ipOffset buffer) + 4) ∨
      buffer.length < ipOffset buffer + ipHeaderLen buffer (ipOffset buffer) +
        readBe16 buffer (ipOffset buffer + ipHeaderLen buffer (ipOffset buffer) + 4)
  · rw [if_pos lengths, if_pos lengths]
    rfl
  obtain ⟨whole, -, within⟩ : _ ∧ _ ∧ _ := by simpa only [not_or, not_not, not_lt] using lengths
  rw [whole] at within
  rw [if_neg lengths, if_neg lengths, loadByte_ok (by omega), ok_bind, loadByte_ok (by omega), ok_bind]
  by_cases mode : byteAt buffer (ipOffset buffer + ipHeaderLen buffer (ipOffset buffer) + 8) % 8 ≠ 4 ∨
      byteAt buffer (ipOffset buffer + ipHeaderLen buffer (ipOffset buffer) + 8 + 1) = 0
  · rw [if_pos mode, if_pos mode]
    rfl
  rw [if_neg mode, if_neg mode, loadBe_ok (by omega), ok_bind]
  by_cases unsummed : readBe16 buffer (ipOffset buffer + ipHeaderLen buffer (ipOffset buffer) + 6) = 0
  · rw [if_pos unsummed, if_pos unsummed]
    rfl
  rw [if_neg unsummed, if_neg unsummed]
  simp only [List.mapM_cons, List.mapM_nil]
  rw [loadBe_ok (by omega), ok_bind, loadBe_ok (by omega), ok_bind, loadBe_ok (by omega), ok_bind,
    loadBe_ok (by omega), ok_bind]
  rfl

theorem walkPrepareNtpLateStamp_eq (buffer : Bytes) : walkPrepareNtpLateStamp buffer =
    walkOf ((ethFramePrepareNtpLateStamp buffer).map fun ctx => (frameOffsets buffer, ctx)) := by
  unfold walkPrepareNtpLateStamp ethFramePrepareNtpLateStamp
  rw [walkIsIpv4UdpNtpResponse_eq]
  by_cases response : ethFrameIsIpv4UdpNtpResponse buffer = true
  · obtain ⟨udpOffset, located, -⟩ := ethFrameIsIpv4UdpNtpResponse_iff.mp response
    obtain ⟨walked, rfl, header, within⟩ := located_offsets located
    have ipv4 : ¬(ethertypeIpv4 ≠ ethertypeIpv4 ∨ buffer.length < ipOffset buffer + 20) := by
      simp only [ne_eq, not_true_eq_false, false_or, not_lt]
      omega
    rw [if_pos response, if_neg (not_not.mpr response), walked]
    simp only [walkOf, ok_bind]
    rw [loadBe_ok (by omega), ok_bind, walkVlanTags_eq, walked]
    simp only [walkOf, ok_bind]
    rw [if_neg ipv4, if_neg ipv4]
    exact walkPrepareDatagram_eq (by omega)
  · rw [if_neg response, if_pos response]
    rfl

theorem walkApplyNtpLateStamp_eq {buffer : Bytes} {ctx : LateStampCtx}
    (accepted : ethFramePrepareNtpLateStamp buffer = some ctx) (timestamp : NtpTimestamp) :
    walkApplyNtpLateStamp buffer ctx timestamp = .ok (ethFrameApplyNtpLateStamp buffer ctx timestamp) := by
  obtain ⟨l3Offset, prepared⟩ := prepared_of_some accepted
  have within := prepared.within
  have ntpOffset := prepared.ntpOffset
  have first : (writeAt buffer (ctx.ntpOffset + 40) (beBytes 4 timestamp.seconds)).length =
      buffer.length := writeAt_length (by rw [beBytes_length]; omega)
  have second : (writeAt (writeAt buffer (ctx.ntpOffset + 40) (beBytes 4 timestamp.seconds))
      (ctx.ntpOffset + 44) (beBytes 4 timestamp.fraction)).length = buffer.length := by
    rw [writeAt_length (by rw [beBytes_length]; omega), first]
  rw [walkApplyNtpLateStamp, memcpy_all (beBytes_length _ _) (by omega), ok_bind,
    memcpy_all (beBytes_length _ _) (by omega), ok_bind, memcpy_all (beBytes_length _ _) (by omega)]
  rfl

def Uses {α : Type} (walk : FrameWalk α) (used : α → FrameOffsets) (offsets : FrameOffsets) : Prop :=
  walk ≠ .error .fault ∧ ∀ a, walk = .ok a → used a = offsets

structure WalksAgree (buffer : Bytes) (offsets : FrameOffsets) : Prop where
  request : Uses (walkIsIpv4UdpNtp buffer) id offsets
  response : Uses (walkIsIpv4UdpNtpResponse buffer) id offsets
  client : Uses (walkGetNtpClient buffer) Prod.fst offsets
  xmt : Uses (walkGetNtpResponseXmt buffer) Prod.fst offsets
  prepare : Uses (walkPrepareNtpLateStamp buffer) Prod.fst offsets
  apply : ∀ used ctx, walkPrepareNtpLateStamp buffer = .ok (used, ctx) →
    ctx.udpOffset = offsets.udpOffset ∧ ctx.ntpOffset = offsets.udpOffset + 8 ∧
      ∀ timestamp, walkApplyNtpLateStamp buffer ctx timestamp ≠ .error .fault

theorem uses_walkOf {α : Type} {walk : FrameWalk α} {found : Option α} {used : α → FrameOffsets}
    {offsets : FrameOffsets} (same : walk = walkOf found) (agree : ∀ a ∈ found, used a = offsets) :
    Uses walk used offsets := by
  subst same
  cases found with
  | none => exact ⟨by simp [walkOf, refuse], by simp [walkOf, refuse]⟩
  | some a => exact ⟨by simp [walkOf], by simpa [walkOf] using agree⟩

theorem fst_of_map {α : Type} {found : Option α} {offsets : FrameOffsets} :
    ∀ a ∈ found.map fun result => (offsets, result), a.1 = offsets := by
  intro a member
  obtain ⟨result, -, rfl⟩ := Option.map_eq_some_iff.mp member
  rfl

theorem frame_walks_agree (buffer : Bytes) : WalksAgree buffer (frameOffsets buffer) where
  request := uses_walkOf (walkIsIpv4UdpNtp_eq buffer) (by simp)
  response := uses_walkOf (walkIsIpv4UdpNtpResponse_eq buffer) (by simp)
  client := uses_walkOf (walkGetNtpClient_eq buffer) fst_of_map
  xmt := uses_walkOf (walkGetNtpResponseXmt_eq buffer) fst_of_map
  prepare := uses_walkOf (walkPrepareNtpLateStamp_eq buffer) fst_of_map
  apply used ctx succeeded := by
    rw [walkPrepareNtpLateStamp_eq] at succeeded
    cases accepted : ethFramePrepareNtpLateStamp buffer with
    | none => simp [accepted, walkOf, refuse] at succeeded
    | some prepared =>
        simp only [accepted, Option.map_some, walkOf, Except.ok.injEq, Prod.mk.injEq] at succeeded
        obtain ⟨-, rfl⟩ := succeeded
        obtain ⟨l3Offset, fields⟩ := prepared_of_some accepted
        obtain ⟨-, offset, -⟩ := located_offsets fields.located
        refine ⟨offset, fields.ntpOffset.trans (congrArg (· + 8) offset), fun timestamp => ?_⟩
        simp [walkApplyNtpLateStamp_eq accepted]

end NtsTimeServer.Proof
