import NtsTimeServer.Lib.Memory
import NtsTimeServer.Model.LateStamp
import NtsTimeServer.Model.NtpPacket

namespace NtsTimeServer.Proof
open Model Lib

structure Prepared (buffer : Bytes) (l3Offset : Nat) (ctx : LateStampCtx) : Prop where
  walked : ethSkipVlanTags buffer 2 (readBe16 buffer 12) 14 = some (ethertypeIpv4, l3Offset)
  header : 20 ≤ ipHeaderLen buffer l3Offset
  udpOffset : ctx.udpOffset = l3Offset + ipHeaderLen buffer l3Offset
  ntpOffset : ctx.ntpOffset = ctx.udpOffset + 8
  located : ethFrameUdpOffset buffer = some ctx.udpOffset
  source : readBe16 buffer ctx.udpOffset = ntpUdpPort
  udpLength : readBe16 buffer (ctx.udpOffset + 4) = 56
  within : ctx.udpOffset + 56 ≤ buffer.length
  stratum : byteAt buffer (ctx.ntpOffset + 1) ≠ 0
  checksum : ctx.udpChecksum = readBe16 buffer (ctx.udpOffset + 6)
  words : ctx.oldXmtWords = [readBe16 buffer (ctx.ntpOffset + 40), readBe16 buffer (ctx.ntpOffset + 42),
    readBe16 buffer (ctx.ntpOffset + 44), readBe16 buffer (ctx.ntpOffset + 46)]

theorem ethFrameUdpOffset_some {buffer : Bytes} {udpOffset : Nat}
    (located : ethFrameUdpOffset buffer = some udpOffset) :
    ∃ l3Offset, ethSkipVlanTags buffer 2 (readBe16 buffer 12) 14 = some (ethertypeIpv4, l3Offset) ∧
      udpOffset = l3Offset + ipHeaderLen buffer l3Offset ∧ 20 ≤ ipHeaderLen buffer l3Offset ∧
      udpOffset + 8 ≤ buffer.length := by
  unfold ethFrameUdpOffset at located
  split at located
  · cases located
  split at located
  · cases located
  rename_i etherType l3Offset walked
  split at located
  · cases located
  rename_i ipv4
  simp only [ne_eq, not_or, not_not] at ipv4
  obtain ⟨rfl, -⟩ := ipv4
  split at located
  · cases located
  dsimp only at located
  split at located
  · cases located
  rename_i header
  split at located
  · cases located
  split at located <;> cases located
  simp only [not_or, not_lt] at header
  exact ⟨l3Offset, walked, rfl, header.1, header.2⟩

theorem ethFrameIsIpv4UdpNtpResponse_iff {buffer : Bytes} :
    ethFrameIsIpv4UdpNtpResponse buffer = true ↔
      ∃ udpOffset, ethFrameUdpOffset buffer = some udpOffset ∧ readBe16 buffer udpOffset = ntpUdpPort := by
  unfold ethFrameIsIpv4UdpNtpResponse
  cases ethFrameUdpOffset buffer <;> simp

theorem prepared_of_some {buffer : Bytes} {ctx : LateStampCtx}
    (accepted : ethFramePrepareNtpLateStamp buffer = some ctx) :
    ∃ l3Offset, Prepared buffer l3Offset ctx := by
  unfold ethFramePrepareNtpLateStamp at accepted
  split at accepted
  · cases accepted
  rename_i response
  obtain ⟨udpOffset, located, source⟩ := ethFrameIsIpv4UdpNtpResponse_iff.mp (not_not.mp response)
  obtain ⟨l3Offset, walked, rfl, -⟩ := ethFrameUdpOffset_some located
  simp only [walked, prepareDatagram] at accepted
  split at accepted
  · cases accepted
  split at accepted
  · cases accepted
  rename_i header
  split at accepted
  · cases accepted
  split at accepted
  · cases accepted
  rename_i lengths
  split at accepted
  · cases accepted
  rename_i mode
  split at accepted <;> cases accepted
  simp only [not_or, not_not, not_lt] at header lengths mode
  obtain ⟨udpLength, -, within⟩ := lengths
  exact ⟨l3Offset, walked, header.1, rfl, rfl, located, source, udpLength, udpLength ▸ within, mode.2,
    rfl, rfl⟩

/-! ## The checksum -/

/-- The sum that a receiver takes: the pseudo-header and the whole datagram. -/
def udpSum (buffer : Bytes) (l3Offset : Nat) : Nat :=
  let udpOffset := l3Offset + ipHeaderLen buffer l3Offset
  let udpLength := readBe16 buffer (udpOffset + 4)
  wordSum (window buffer (l3Offset + 12) 8) + ipProtocolUdp + udpLength +
    wordSum (window buffer udpOffset udpLength)

def UdpChecksumVerifies (buffer : Bytes) : Prop :=
  ∃ etherType l3Offset, ethSkipVlanTags buffer 2 (readBe16 buffer 12) 14 = some (etherType, l3Offset) ∧
    foldCarries (udpSum buffer l3Offset) = 0xFFFF

theorem checksumReplaceWord_eq : checksumReplaceWord = replaceWord := rfl

theorem lateStampChecksum_spec {ctx : LateStampCtx} (fits : ctx.udpChecksum ≤ 65535)
    (oldFits : ∀ word ∈ ctx.oldXmtWords, word ≤ 65535) (four : ctx.oldXmtWords.length = 4)
    (timestamp : NtpTimestamp) : lateStampChecksum ctx timestamp ≠ 0 ∧
      lateStampChecksum ctx timestamp ≤ 65535 ∧
      (lateStampChecksum ctx timestamp + (newXmtWords timestamp).sum) % 65535 =
        (ctx.udpChecksum + ctx.oldXmtWords.sum) % 65535 := by
  have lengths : ctx.oldXmtWords.length = (newXmtWords timestamp).length := four
  have zipFits : ∀ word ∈ ctx.oldXmtWords.zip (newXmtWords timestamp), word.1 ≤ 65535 :=
    fun word mem => oldFits _ (List.of_mem_zip mem).1
  obtain ⟨le, mod⟩ := replaceWords_spec zipFits fits
  rw [List.map_snd_zip lengths.ge, List.map_fst_zip lengths.le] at mod
  have looped : lateStampChecksum ctx timestamp =
      if replaceWords ctx.udpChecksum (ctx.oldXmtWords.zip (newXmtWords timestamp)) = 0 then 0xFFFF
      else replaceWords ctx.udpChecksum (ctx.oldXmtWords.zip (newXmtWords timestamp)) := by
    rw [lateStampChecksum, checksumReplaceWord_eq]
    rfl
  rw [looped]
  split
  · rename_i zero
    rw [zero] at mod
    exact ⟨by decide, by decide, by omega⟩
  · rename_i nonzero
    exact ⟨nonzero, le, mod⟩

theorem timestampBytes_sum (timestamp : NtpTimestamp) :
    wordSum (timestampBytes timestamp) = (newXmtWords timestamp).sum := by
  rw [timestampBytes, wordSum_append (by rw [beBytes_length]), wordSum_beBytes_double,
    wordSum_beBytes_double]
  simp [newXmtWords, u16, Nat.add_assoc]

theorem datagram_sum {buffer : Bytes} {udpOffset : Nat} (within : udpOffset + 56 ≤ buffer.length) :
    wordSum (window buffer udpOffset 56) = wordSum (window buffer udpOffset 6) +
      readBe16 buffer (udpOffset + 6) + wordSum (window buffer (udpOffset + 8) 40) +
        wordSum (window buffer (udpOffset + 48) 8) := by
  rw [wordSum_window_add (show 48 % 2 = 0 by decide) (by omega) 8,
    wordSum_window_add (show 8 % 2 = 0 by decide) (by omega) 40,
    wordSum_window_add (show 6 % 2 = 0 by decide) (by omega) 2, wordSum_window (by omega)]

theorem xmtWords_sum {buffer : Bytes} {offset : Nat} (within : offset + 8 ≤ buffer.length) :
    wordSum (window buffer offset 8) = [readBe16 buffer offset, readBe16 buffer (offset + 2),
      readBe16 buffer (offset + 4), readBe16 buffer (offset + 6)].sum := by
  rw [wordSum_window_add (show 6 % 2 = 0 by decide) (by omega) 2,
    wordSum_window_add (show 4 % 2 = 0 by decide) (by omega) 2,
    wordSum_window_add (show 2 % 2 = 0 by decide) (by omega) 2, wordSum_window (by omega),
    wordSum_window (by omega), wordSum_window (by omega), wordSum_window (by omega)]
  simp [Nat.add_assoc]

/-! ## The frame after the stamp -/

theorem ethSkipVlanTags_le {buffer : Bytes} {tags etherType offset etherType' l3Offset : Nat}
    (walked : ethSkipVlanTags buffer tags etherType offset = some (etherType', l3Offset)) :
    offset ≤ l3Offset := by
  induction tags generalizing etherType offset with
  | zero =>
      cases walked
      exact le_rfl
  | succ tags ih =>
      rw [ethSkipVlanTags] at walked
      split at walked
      · split at walked
        · cases walked
        · have := ih walked
          omega
      · cases walked
        exact le_rfl

theorem ethSkipVlanTags_congr {buffer buffer' : Bytes} (length : buffer'.length = buffer.length)
    {tags etherType offset etherType' l3Offset : Nat}
    (same : ∀ position, position + 2 ≤ l3Offset →
      readBe16 buffer' position = readBe16 buffer position)
    (walked : ethSkipVlanTags buffer tags etherType offset = some (etherType', l3Offset)) :
    ethSkipVlanTags buffer' tags etherType offset = some (etherType', l3Offset) := by
  induction tags generalizing etherType offset with
  | zero => exact walked
  | succ tags ih =>
      rw [ethSkipVlanTags] at walked ⊢
      split at walked
      · rename_i tag
        rw [if_pos tag, length]
        split at walked
        · cases walked
        · rename_i within
          have le := ethSkipVlanTags_le walked
          rw [if_neg within, same _ (by omega)]
          exact ih walked
      · rename_i untagged
        rw [if_neg untagged]
        exact walked

theorem ethFrameApplyNtpLateStamp_eq {buffer : Bytes} {l3Offset : Nat} {ctx : LateStampCtx}
    (prepared : Prepared buffer l3Offset ctx) (timestamp : NtpTimestamp) :
    ethFrameApplyNtpLateStamp buffer ctx timestamp =
      writeAt (writeAt buffer (ctx.ntpOffset + 40) (timestampBytes timestamp)) (ctx.udpOffset + 6)
        (beBytes 2 (lateStampChecksum ctx timestamp)) := by
  have ntpOffset := prepared.ntpOffset
  have within := prepared.within
  have joined : writeAt (writeAt buffer (ctx.ntpOffset + 40) (beBytes 4 timestamp.seconds))
      (ctx.ntpOffset + 44) (beBytes 4 timestamp.fraction) =
      writeAt buffer (ctx.ntpOffset + 40) (timestampBytes timestamp) :=
    writeAt_writeAt (by omega) (by rw [beBytes_length])
  rw [ethFrameApplyNtpLateStamp, joined]

structure Stamped (buffer stamped : Bytes) (udpOffset checksum : Nat) (timestamp : NtpTimestamp) :
    Prop where
  length : stamped.length = buffer.length
  unchanged : ∀ start count, start + count ≤ udpOffset + 6 ∨ udpOffset + 8 ≤ start →
    start + count ≤ udpOffset + 48 ∨ udpOffset + 56 ≤ start →
    window stamped start count = window buffer start count
  xmt : window stamped (udpOffset + 48) 8 = timestampBytes timestamp
  checksum : window stamped (udpOffset + 6) 2 = beBytes 2 checksum

theorem stamped_of_prepared {buffer : Bytes} {l3Offset : Nat} {ctx : LateStampCtx}
    (prepared : Prepared buffer l3Offset ctx) (timestamp : NtpTimestamp) :
    Stamped buffer (ethFrameApplyNtpLateStamp buffer ctx timestamp) ctx.udpOffset
      (lateStampChecksum ctx timestamp) timestamp := by
  have within := prepared.within
  have stampLength : (timestampBytes timestamp).length = 8 := by
    rw [timestampBytes, List.length_append, beBytes_length, beBytes_length]
  have checksumLength := beBytes_length 2 (lateStampChecksum ctx timestamp)
  rw [ethFrameApplyNtpLateStamp_eq prepared, prepared.ntpOffset]
  have firstLength : (writeAt buffer (ctx.udpOffset + 8 + 40) (timestampBytes timestamp)).length =
      buffer.length := writeAt_length (by omega)
  refine ⟨(writeAt_length (by omega)).trans firstLength, fun start count before after => ?_, ?_, ?_⟩
  · rw [window_writeAt (by omega) (by omega), window_writeAt (by omega) (by omega)]
  · rw [window_writeAt (by omega) (by omega), ← stampLength]
    exact window_written (timestampBytes timestamp) (by omega)
  · rw [← checksumLength]
    exact window_written (beBytes 2 (lateStampChecksum ctx timestamp)) (by omega)

section

variable {buffer stamped : Bytes} {udpOffset checksum : Nat} {timestamp : NtpTimestamp}

theorem Stamped.getElem? (stamp : Stamped buffer stamped udpOffset checksum timestamp) {index : Nat}
    (before : index < udpOffset + 6 ∨ udpOffset + 8 ≤ index)
    (after : index < udpOffset + 48 ∨ udpOffset + 56 ≤ index) : stamped[index]? = buffer[index]? := by
  have same := congrArg (fun bytes : Bytes => bytes[0]?) (stamp.unchanged index 1 (by omega) (by omega))
  simpa [getElem?_window] using same

theorem Stamped.readBe (stamp : Stamped buffer stamped udpOffset checksum timestamp)
    {count offset : Nat} (before : offset + count ≤ udpOffset + 6) :
    Lib.readBe count stamped offset = Lib.readBe count buffer offset :=
  congrArg beValue (stamp.unchanged offset count (by omega) (by omega))

theorem Stamped.ipHeaderLen (stamp : Stamped buffer stamped udpOffset checksum timestamp)
    {l3Offset : Nat} (before : l3Offset ≤ udpOffset) :
    Model.ipHeaderLen stamped l3Offset = Model.ipHeaderLen buffer l3Offset := by
  have same : stamped[l3Offset]? = buffer[l3Offset]? := stamp.getElem? (by omega) (by omega)
  simp only [Model.ipHeaderLen, byteAt, List.getD_eq_getElem?_getD, same]

theorem Stamped.checksum_read (stamp : Stamped buffer stamped udpOffset checksum timestamp)
    (fits : checksum ≤ 65535) : readBe16 stamped (udpOffset + 6) = checksum := by
  have read := congrArg beValue stamp.checksum
  rw [beValue_beBytes, Nat.mod_eq_of_lt (by omega)] at read
  exact read

end

theorem Prepared.datagram {buffer : Bytes} {l3Offset : Nat} {ctx : LateStampCtx}
    (prepared : Prepared buffer l3Offset ctx) : udpSum buffer l3Offset =
      wordSum (window buffer (l3Offset + 12) 8) + ipProtocolUdp + 56 +
        (wordSum (window buffer ctx.udpOffset 6) + ctx.udpChecksum +
          wordSum (window buffer (ctx.udpOffset + 8) 40) + ctx.oldXmtWords.sum) := by
  have within := prepared.within
  simp only [udpSum, ← prepared.udpOffset, prepared.udpLength]
  rw [datagram_sum within, xmtWords_sum (show ctx.udpOffset + 48 + 8 ≤ buffer.length by omega),
    prepared.checksum, prepared.words, prepared.ntpOffset]

theorem Stamped.datagram {buffer stamped : Bytes} {l3Offset checksum : Nat} {ctx : LateStampCtx}
    {timestamp : NtpTimestamp} (prepared : Prepared buffer l3Offset ctx)
    (stamp : Stamped buffer stamped ctx.udpOffset checksum timestamp) (fits : checksum ≤ 65535) :
    udpSum stamped l3Offset = wordSum (window buffer (l3Offset + 12) 8) + ipProtocolUdp + 56 +
      (wordSum (window buffer ctx.udpOffset 6) + checksum +
        wordSum (window buffer (ctx.udpOffset + 8) 40) + (newXmtWords timestamp).sum) := by
  have within := prepared.within
  have header := prepared.header
  have udpOffset := prepared.udpOffset
  have length := stamp.length
  have udpLength : readBe16 stamped (ctx.udpOffset + 4) = 56 :=
    (stamp.readBe (by omega)).trans prepared.udpLength
  simp only [udpSum, stamp.ipHeaderLen (show l3Offset ≤ ctx.udpOffset by omega), ← udpOffset, udpLength]
  rw [datagram_sum (by omega), stamp.checksum_read fits, stamp.xmt, timestampBytes_sum,
    stamp.unchanged _ _ (by omega) (by omega), stamp.unchanged _ _ (by omega) (by omega),
    stamp.unchanged _ _ (by omega) (by omega)]

theorem Prepared.checksum_fits {buffer : Bytes} {l3Offset : Nat} {ctx : LateStampCtx}
    (prepared : Prepared buffer l3Offset ctx) (timestamp : NtpTimestamp) :
    lateStampChecksum ctx timestamp ≠ 0 ∧ lateStampChecksum ctx timestamp ≤ 65535 ∧
      (lateStampChecksum ctx timestamp + (newXmtWords timestamp).sum) % 65535 =
        (ctx.udpChecksum + ctx.oldXmtWords.sum) % 65535 := by
  have word (offset : Nat) : readBe16 buffer offset ≤ 65535 :=
    Nat.le_of_lt_succ (readBe_lt 2 buffer offset)
  refine lateStampChecksum_spec (prepared.checksum ▸ word _) ?_ (by rw [prepared.words]; rfl) timestamp
  simp [prepared.words, word]

theorem late_stamp_keeps_checksum {buffer : Bytes} {ctx : LateStampCtx}
    (accepted : ethFramePrepareNtpLateStamp buffer = some ctx) (verifies : UdpChecksumVerifies buffer)
    (timestamp : NtpTimestamp) :
    let stamped := ethFrameApplyNtpLateStamp buffer ctx timestamp
    ethFrameUdpOffset buffer = some ctx.udpOffset ∧ UdpChecksumVerifies stamped ∧
      readBe16 stamped (ctx.udpOffset + 6) ≠ 0 ∧
      window stamped (ctx.udpOffset + 48) 8 =
        beBytes 4 timestamp.seconds ++ beBytes 4 timestamp.fraction ∧
      stamped.length = buffer.length ∧
      ∀ index, index ≠ ctx.udpOffset + 6 → index ≠ ctx.udpOffset + 7 →
        index < ctx.udpOffset + 48 ∨ ctx.udpOffset + 56 ≤ index → stamped[index]? = buffer[index]? := by
  intro stamped
  obtain ⟨l3Offset, prepared⟩ := prepared_of_some accepted
  have stamp : Stamped buffer stamped ctx.udpOffset (lateStampChecksum ctx timestamp) timestamp :=
    stamped_of_prepared prepared timestamp
  obtain ⟨nonzero, fits, mod⟩ := prepared.checksum_fits timestamp
  have header := prepared.header
  have udpOffset := prepared.udpOffset
  refine ⟨prepared.located, ?_, ?_, stamp.xmt, stamp.length, ?_⟩
  · obtain ⟨etherType, l3Offset', walked, sum⟩ := verifies
    cases walked.symm.trans prepared.walked
    have le := ethSkipVlanTags_le prepared.walked
    refine ⟨ethertypeIpv4, l3Offset, ?_, ?_⟩
    · rw [show readBe16 stamped 12 = readBe16 buffer 12 from stamp.readBe (by omega)]
      exact ethSkipVlanTags_congr stamp.length (fun position before => stamp.readBe (by omega))
        prepared.walked
    · rw [foldCarries_eq_ones_iff, prepared.datagram] at sum
      rw [foldCarries_eq_ones_iff, stamp.datagram prepared fits]
      omega
  · rw [stamp.checksum_read fits]
    exact nonzero
  · intro index notHigh notLow outside
    exact stamp.getElem? (by omega) outside

def sampleFrame : Bytes :=
  List.replicate 12 2 ++ beBytes 4 0x81000005 ++ beBytes 2 ethertypeIpv4 ++
    ([0x45, 0] ++ beBytes 2 76 ++ beBytes 4 0x4000 ++ [64, 17] ++ beBytes 2 0 ++ beBytes 4 0xC0A80001 ++
      beBytes 4 0xC0A80002) ++
    (beBytes 2 123 ++ beBytes 2 40000 ++ beBytes 2 56 ++ beBytes 2 0x1BCC) ++
    ([0x24, 1] ++ List.replicate 46 7)

def sampleCtx : LateStampCtx := ⟨38, 46, 0x1BCC, [0x0707, 0x0707, 0x0707, 0x0707]⟩

theorem sampleFrame_prepared : ethFramePrepareNtpLateStamp sampleFrame = some sampleCtx := by
  decide +kernel

theorem sampleFrame_verifies : UdpChecksumVerifies sampleFrame :=
  ⟨ethertypeIpv4, 18, by decide +kernel, foldCarries_eq_ones_iff.mpr (by decide +kernel)⟩

theorem sampleFrame_stamped :
    let stamped := ethFrameApplyNtpLateStamp sampleFrame sampleCtx ⟨3908988800, 2147483648⟩
    ethFrameUdpOffset sampleFrame = some 38 ∧ UdpChecksumVerifies stamped ∧
      readBe16 stamped 44 ≠ 0 ∧ window stamped 86 8 = beBytes 4 3908988800 ++ beBytes 4 2147483648 ∧
      stamped.length = sampleFrame.length ∧
      ∀ index, index ≠ 44 → index ≠ 45 → index < 86 ∨ 94 ≤ index →
        stamped[index]? = sampleFrame[index]? :=
  late_stamp_keeps_checksum sampleFrame_prepared sampleFrame_verifies _

end NtsTimeServer.Proof
