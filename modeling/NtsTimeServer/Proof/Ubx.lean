import NtsTimeServer.Lib.Transducer
import NtsTimeServer.Model.Ubx

namespace NtsTimeServer.Proof
open Model Lib

def ubxFrameBytes (frame : UbxFrame) : Bytes :=
  let header := ubxHeader frame.messageClass frame.messageId frame.payload.length
  let checksum := ubxChecksum (header.drop 2 ++ frame.payload)
  header ++ frame.payload ++ [checksum.1, checksum.2]

inductive Carved : Bytes → List UbxFrame → Prop
  | nothing : Carved [] []
  | skip {stream : Bytes} {frames : List UbxFrame} (garbage : Bytes) : Carved stream frames →
      Carved (stream ++ garbage) frames
  | frame {stream : Bytes} {frames : List UbxFrame} {frame : UbxFrame} : Carved stream frames →
      frame.payload.length ≤ ubxMonVerMaxPayloadLength →
      Carved (stream ++ ubxFrameBytes frame) (frames ++ [frame])

def dispatchedFrame : UbxOutput → Option UbxFrame
  | .dispatched frame => some frame
  | .invalidLength | .invalidChecksum => none

theorem ubxWriteFrame_sent {messageClass messageId : UInt8} {payload : Bytes} {uart : UartOutcome}
    (header : uart.header = true) (body : uart.payload = true) (checksum : uart.checksum = true) :
    (ubxWriteFrame messageClass messageId payload uart).2 =
      ubxFrameBytes ⟨messageClass, messageId, payload⟩ := by
  simp [ubxWriteFrame, ubxFrameBytes, header, body, checksum]

theorem ubxChecksum_append_singleton (bytes : Bytes) (byte : UInt8) :
    ubxChecksum (bytes ++ [byte]) = ((ubxChecksum bytes).1 + byte,
      (ubxChecksum bytes).2 + ((ubxChecksum bytes).1 + byte)) := by
  rw [ubxChecksum, List.foldl_append]
  rfl

theorem ubxLength_eq (low high : UInt8) :
    low.toNat ||| high.toNat <<< 8 = high.toNat * 256 + low.toNat := by
  have small := low.toNat_lt
  rw [Nat.or_comm, ← Nat.shiftLeft_add_eq_or_of_lt small, Nat.shiftLeft_eq]

theorem ubxLength_of_bytes {length : Nat} (fits : length < 65536) :
    (UInt8.ofNat (length &&& 0xFF)).toNat ||| (UInt8.ofNat (length >>> 8 &&& 0xFF)).toNat <<< 8 =
      length := by
  rw [ubxLength_eq, UInt8.toNat_ofNat', UInt8.toNat_ofNat', Nat.and_two_pow_sub_one_eq_mod _ 8,
    Nat.and_two_pow_sub_one_eq_mod _ 8, Nat.shiftRight_eq_div_pow]
  omega

theorem ubxHeader_of_length (messageClass messageId low high : UInt8) :
    ubxHeader messageClass messageId (low.toNat ||| high.toNat <<< 8) =
      [ubxSync1, ubxSync2, messageClass, messageId, low, high] := by
  have lowFits := low.toNat_lt
  have highFits := high.toNat_lt
  have lowByte : UInt8.ofNat ((high.toNat * 256 + low.toNat) &&& 0xFF) = low := by
    apply UInt8.toNat_inj.mp
    rw [UInt8.toNat_ofNat', Nat.and_two_pow_sub_one_eq_mod _ 8]
    omega
  have highByte : UInt8.ofNat ((high.toNat * 256 + low.toNat) >>> 8 &&& 0xFF) = high := by
    apply UInt8.toNat_inj.mp
    rw [UInt8.toNat_ofNat', Nat.and_two_pow_sub_one_eq_mod _ 8, Nat.shiftRight_eq_div_pow]
    omega
  rw [ubxLength_eq, ubxHeader, lowByte, highByte]

def headerParser (state : UbxParseState) (messageClass messageId : UInt8) (length : Nat)
    (summed : Bytes) : UbxParser :=
  { ubxParserReset with
    state := state
    messageClass := messageClass
    messageId := messageId
    payloadLength := length
    ckA := (ubxChecksum summed).1
    ckB := (ubxChecksum summed).2 }

def bodyParser (state : UbxParseState) (messageClass messageId : UInt8) (length : Nat)
    (stored : Bytes) : UbxParser :=
  { headerParser state messageClass messageId length
      ((ubxHeader messageClass messageId length).drop 2 ++ stored) with
    payloadIndex := stored.length
    payload := stored ++ List.replicate (ubxMonVerMaxPayloadLength - stored.length) 0 }

inductive Reading : UbxParser → Bytes → Prop
  | idle : Reading ubxParserReset []
  | sync1 : Reading { ubxParserReset with state := .waitSync2 } [ubxSync1]
  | sync2 : Reading { ubxParserReset with state := .waitClass } [ubxSync1, ubxSync2]
  | messageClass (messageClass : UInt8) :
      Reading (headerParser .waitId messageClass 0 0 [messageClass])
        [ubxSync1, ubxSync2, messageClass]
  | messageId (messageClass messageId : UInt8) :
      Reading (headerParser .waitLength1 messageClass messageId 0 [messageClass, messageId])
        [ubxSync1, ubxSync2, messageClass, messageId]
  | length1 (messageClass messageId low : UInt8) :
      Reading (headerParser .waitLength2 messageClass messageId low.toNat
          [messageClass, messageId, low])
        [ubxSync1, ubxSync2, messageClass, messageId, low]
  | payload (messageClass messageId : UInt8) {length : Nat} {stored : Bytes} :
      stored.length < length → length ≤ ubxMonVerMaxPayloadLength →
      Reading (bodyParser .waitPayload messageClass messageId length stored)
        (ubxHeader messageClass messageId length ++ stored)
  | complete (messageClass messageId : UInt8) {stored : Bytes} :
      stored.length ≤ ubxMonVerMaxPayloadLength →
      Reading (bodyParser .waitCkA messageClass messageId stored.length stored)
        (ubxHeader messageClass messageId stored.length ++ stored)
  | checksum (messageClass messageId receivedCkA : UInt8) {stored : Bytes} :
      stored.length ≤ ubxMonVerMaxPayloadLength →
      Reading { bodyParser .waitCkB messageClass messageId stored.length stored with
          receivedCkA := receivedCkA }
        (ubxHeader messageClass messageId stored.length ++ stored ++ [receivedCkA])

theorem bodyParser_nil (state : UbxParseState) (messageClass messageId low high : UInt8) :
    bodyParser state messageClass messageId (low.toNat ||| high.toNat <<< 8) [] =
      headerParser state messageClass messageId (low.toNat ||| high.toNat <<< 8)
        [messageClass, messageId, low, high] := by
  unfold bodyParser
  rw [ubxHeader_of_length]
  rfl

theorem consume_length2 (messageClass messageId low high : UInt8) :
    ubxParserConsume (headerParser .waitLength2 messageClass messageId low.toNat
        [messageClass, messageId, low]) high =
      if low.toNat ||| high.toNat <<< 8 > ubxMonVerMaxPayloadLength then
        some (ubxParserReset, some .invalidLength)
      else some (bodyParser (if low.toNat ||| high.toNat <<< 8 = 0 then .waitCkA else .waitPayload)
        messageClass messageId (low.toNat ||| high.toNat <<< 8) [], none) := by
  rw [bodyParser_nil]
  rfl

theorem set_zeros {stored : Bytes} (room : stored.length < ubxMonVerMaxPayloadLength) (byte : UInt8) :
    (stored ++ List.replicate (ubxMonVerMaxPayloadLength - stored.length) 0).set stored.length byte =
      stored ++ [byte] ++
        List.replicate (ubxMonVerMaxPayloadLength - (stored ++ [byte]).length) 0 := by
  obtain ⟨left, size⟩ := Nat.exists_eq_add_of_lt room
  have before : ubxMonVerMaxPayloadLength - stored.length = left + 1 := by omega
  have after : ubxMonVerMaxPayloadLength - (stored ++ [byte]).length = left := by
    rw [List.length_append, List.length_singleton]
    omega
  rw [before, after, List.set_append_right _ _ le_rfl, Nat.sub_self, List.replicate_succ,
    List.set_cons_zero, List.append_assoc, List.singleton_append]

theorem bodyParser_store (messageClass messageId byte : UInt8) {length : Nat} {stored : Bytes}
    (room : stored.length < ubxMonVerMaxPayloadLength) :
    ((bodyParser .waitPayload messageClass messageId length stored).store byte).checksumAdd byte =
      bodyParser .waitPayload messageClass messageId length (stored ++ [byte]) := by
  have small : stored.length < 512 := room
  have index : u16 (stored.length + 1) = (stored ++ [byte]).length := by
    rw [u16_eq (by omega), List.length_append, List.length_singleton]
  have summed := ubxChecksum_append_singleton
    ((ubxHeader messageClass messageId length).drop 2 ++ stored) byte
  unfold bodyParser headerParser
  rw [← List.append_assoc, summed, ← set_zeros room, ← index]
  rfl

theorem consume_payload (messageClass messageId byte : UInt8) (length : Nat) {stored : Bytes}
    (room : stored.length < ubxMonVerMaxPayloadLength) :
    ubxParserConsume (bodyParser .waitPayload messageClass messageId length stored) byte =
      some (if stored.length + 1 ≥ length then
        bodyParser .waitCkA messageClass messageId length (stored ++ [byte])
      else bodyParser .waitPayload messageClass messageId length (stored ++ [byte]), none) := by
  have inside : (bodyParser .waitPayload messageClass messageId length stored).payloadIndex <
      (bodyParser .waitPayload messageClass messageId length stored).payload.length := by
    simp only [bodyParser, List.length_append, List.length_replicate]
    omega
  have consumed : ubxParserConsume (bodyParser .waitPayload messageClass messageId length stored)
      byte = some (
        let parser := ((bodyParser .waitPayload messageClass messageId length stored).store
          byte).checksumAdd byte
        if parser.payloadIndex ≥ parser.payloadLength then { parser with state := .waitCkA }
        else parser, none) := if_pos inside
  have index : (stored ++ [byte]).length = stored.length + 1 := List.length_append
  rw [consumed, bodyParser_store _ _ _ room, ← index]
  rfl

theorem consume_ckB (messageClass messageId receivedCkA receivedCkB : UInt8) (stored : Bytes) :
    ubxParserConsume { bodyParser .waitCkB messageClass messageId stored.length stored with
        receivedCkA := receivedCkA } receivedCkB =
      some (ubxParserReset, some (
        if receivedCkA =
              (ubxChecksum ((ubxHeader messageClass messageId stored.length).drop 2 ++ stored)).1 ∧
            receivedCkB =
              (ubxChecksum ((ubxHeader messageClass messageId stored.length).drop 2 ++ stored)).2 then
          .dispatched ⟨messageClass, messageId, stored⟩
        else .invalidChecksum)) := by
  let payload := stored ++ List.replicate (ubxMonVerMaxPayloadLength - stored.length) 0
  have consumed : ubxParserConsume
      { bodyParser .waitCkB messageClass messageId stored.length stored with
        receivedCkA := receivedCkA } receivedCkB =
      some (ubxParserReset, some (
        if receivedCkA =
              (ubxChecksum ((ubxHeader messageClass messageId stored.length).drop 2 ++ stored)).1 ∧
            receivedCkB =
              (ubxChecksum ((ubxHeader messageClass messageId stored.length).drop 2 ++ stored)).2 then
          .dispatched ⟨messageClass, messageId, payload.take stored.length⟩
        else .invalidChecksum)) := rfl
  have kept : payload.take stored.length = stored := List.take_left
  rw [consumed, kept]

/-! ## Any stream -/

/-- What one byte makes of what has been read: `dropped` is done with, `kept` may start a frame. -/
structure Consumed (parser : UbxParser) (recent : Bytes) (byte : UInt8) (next : UbxParser)
    (output : Option UbxOutput) (dropped kept : Bytes) : Prop where
  consumed : ubxParserConsume parser byte = some (next, output)
  split : recent ++ [byte] = dropped ++ kept
  reading : Reading next kept
  dispatched : ∀ frame, output.bind dispatchedFrame = some frame →
    frame.payload.length ≤ ubxMonVerMaxPayloadLength ∧ kept = [] ∧ dropped = ubxFrameBytes frame

theorem Consumed.quiet {parser next : UbxParser} {recent : Bytes} {byte : UInt8}
    (consumed : ubxParserConsume parser byte = some (next, none))
    (reading : Reading next (recent ++ [byte])) :
    Consumed parser recent byte next none [] (recent ++ [byte]) :=
  ⟨consumed, rfl, reading, nofun⟩

theorem reading_consumed {parser : UbxParser} {recent : Bytes} (reading : Reading parser recent)
    (byte : UInt8) :
    ∃ next output dropped kept, Consumed parser recent byte next output dropped kept := by
  cases reading with
  | idle =>
      by_cases sync : byte = ubxSync1
      · subst sync
        exact ⟨_, _, _, _, Consumed.quiet rfl .sync1⟩
      · refine ⟨ubxParserReset, none, [byte], [], ?_, rfl, .idle, nofun⟩
        simp [ubxParserConsume, ubxParserReset, sync]
  | sync1 =>
      by_cases sync2 : byte = ubxSync2
      · subst sync2
        exact ⟨_, _, _, _, Consumed.quiet rfl .sync2⟩
      by_cases sync1 : byte = ubxSync1
      · subst sync1
        exact ⟨_, none, [ubxSync1], [ubxSync1], rfl, rfl, .sync1, nofun⟩
      · refine ⟨ubxParserReset, none, [ubxSync1, byte], [], ?_, rfl, .idle, nofun⟩
        simp [ubxParserConsume, ubxParserReset, sync1, sync2]
  | sync2 => exact ⟨_, _, _, _, Consumed.quiet rfl (.messageClass byte)⟩
  | messageClass messageClass => exact ⟨_, _, _, _, Consumed.quiet rfl (.messageId messageClass byte)⟩
  | messageId messageClass messageId =>
      exact ⟨_, _, _, _, Consumed.quiet rfl (.length1 messageClass messageId byte)⟩
  | length1 messageClass messageId low =>
      have consumed := consume_length2 messageClass messageId low byte
      have header := ubxHeader_of_length messageClass messageId low byte
      generalize low.toNat ||| byte.toNat <<< 8 = length at consumed header
      split at consumed
      · exact ⟨_, _, _, [], consumed, (List.append_nil _).symm, .idle, nofun⟩
      rename_i fits
      refine ⟨_, _, _, _, Consumed.quiet consumed ?_⟩
      change Reading _ [ubxSync1, ubxSync2, messageClass, messageId, low, byte]
      rw [← header]
      by_cases empty : length = 0
      · subst empty
        have none : ([] : Bytes).length ≤ ubxMonVerMaxPayloadLength := Nat.zero_le _
        exact Reading.complete messageClass messageId none
      · rw [if_neg empty, ← List.append_nil (ubxHeader messageClass messageId length)]
        exact .payload messageClass messageId (Nat.pos_of_ne_zero empty) (not_lt.mp fits)
  | @payload messageClass messageId length stored more fits =>
      have consumed := consume_payload messageClass messageId byte length (more.trans_le fits)
      refine ⟨_, _, _, _, Consumed.quiet consumed ?_⟩
      rw [List.append_assoc]
      have stored_length : (stored ++ [byte]).length = stored.length + 1 := List.length_append
      split
      · rename_i last
        have full : length = (stored ++ [byte]).length := by omega
        subst full
        exact .complete messageClass messageId fits
      · exact .payload messageClass messageId (by omega) fits
  | complete messageClass messageId fits =>
      exact ⟨_, _, _, _, Consumed.quiet rfl (.checksum messageClass messageId byte fits)⟩
  | @checksum messageClass messageId receivedCkA stored fits =>
      have consumed := consume_ckB messageClass messageId receivedCkA byte stored
      refine ⟨_, _, _, [], consumed, (List.append_nil _).symm, .idle, ?_⟩
      intro frame dispatched
      split at dispatched
      · rename_i matching
        obtain ⟨rfl, rfl⟩ := matching
        obtain rfl := Option.some.inj dispatched
        exact ⟨fits, rfl, by simp [ubxFrameBytes]⟩
      · cases dispatched

structure StreamParsed (stream : Bytes) (parser : UbxParser) (outputs : List UbxOutput) : Prop where
  idle : parser.state = .waitSync1 → parser = ubxParserReset
  zeroed : parser.state = .waitClass → parser.ckA = 0 ∧ parser.ckB = 0
  stores : parser.state = .waitPayload → parser.payloadIndex < ubxMonVerMaxPayloadLength
  carved : Carved stream (outputs.filterMap dispatchedFrame)
  dispatches : ∀ byte next frame, ubxParserConsume parser byte = some (next, some (.dispatched frame)) →
    frame.payload.length ≤ ubxMonVerMaxPayloadLength ∧
      ∃ earlier, stream ++ [byte] = earlier ++ ubxFrameBytes frame ∧ Carved earlier
        (outputs.filterMap dispatchedFrame)

/-- The parser has read `stream`, all of it before `recent` being done with. -/
def Parsed (stream : Bytes) (parser : UbxParser) (outputs : List UbxOutput) : Prop :=
  ∃ earlier recent, stream = earlier ++ recent ∧ Reading parser recent ∧
    Carved earlier (outputs.filterMap dispatchedFrame)

theorem parsed_consumed {stream : Bytes} {parser : UbxParser} {outputs : List UbxOutput}
    (parsed : Parsed stream parser outputs) (byte : UInt8) :
    ∃ next output, ubxParserConsume parser byte = some (next, output) ∧
      Parsed (stream ++ [byte]) next (outputs ++ output.toList) := by
  obtain ⟨earlier, recent, rfl, reading, carved⟩ := parsed
  obtain ⟨next, output, dropped, kept, consumed, split, reading', dispatched⟩ :=
    reading_consumed reading byte
  refine ⟨next, output, consumed, earlier ++ dropped, kept, ?_, reading', ?_⟩
  · rw [List.append_assoc, split, List.append_assoc]
  rw [List.filterMap_append]
  cases found : output.bind dispatchedFrame with
  | none =>
      have silent : output.toList.filterMap dispatchedFrame = [] := by
        cases output with
        | none => rfl
        | some output => simpa using found
      rw [silent, List.append_nil]
      exact carved.skip dropped
  | some frame =>
      obtain ⟨fits, -, rfl⟩ := dispatched frame found
      have single : output.toList.filterMap dispatchedFrame = [frame] := by
        cases output with
        | none => cases found
        | some output =>
            have found : dispatchedFrame output = some frame := found
            simp [found]
      rw [single]
      exact carved.frame fits

theorem reading_idle {parser : UbxParser} {recent : Bytes} (reading : Reading parser recent)
    (idle : parser.state = .waitSync1) : parser = ubxParserReset := by
  cases reading with
  | idle => rfl
  | _ => cases idle

theorem streamParsed_of_parsed {stream : Bytes} {parser : UbxParser} {outputs : List UbxOutput}
    (parsed : Parsed stream parser outputs) : StreamParsed stream parser outputs := by
  obtain ⟨earlier, recent, rfl, reading, carved⟩ := parsed
  refine ⟨reading_idle reading, ?_, ?_, ?_, ?_⟩
  · intro start
    cases reading with
    | sync2 => exact ⟨rfl, rfl⟩
    | _ => cases start
  · intro storing
    cases reading with
    | payload _ _ more fits => exact more.trans_le fits
    | _ => cases storing
  · exact carved.skip recent
  · intro byte next frame consumed
    obtain ⟨next', output, dropped, kept, consumed', split, -, dispatched⟩ :=
      reading_consumed reading byte
    rw [consumed] at consumed'
    obtain ⟨rfl, rfl⟩ := Prod.mk.inj (Option.some.inj consumed')
    obtain ⟨fits, rfl, rfl⟩ := dispatched frame rfl
    exact ⟨fits, earlier, by rw [List.append_assoc, split, List.append_nil], carved⟩

theorem ubx_stream_parsed (stream : Bytes) :
    ∃ parser outputs, feed ubxParserConsume ubxParserReset stream = some (parser, outputs) ∧
      StreamParsed stream parser outputs := by
  obtain ⟨parser, outputs, fed, parsed⟩ := feed_rule Parsed ⟨[], [], rfl, .idle, .nothing⟩
    (fun _ _ _ byte parsed => parsed_consumed parsed byte) stream
  exact ⟨parser, outputs, fed, streamParsed_of_parsed parsed⟩

/-! ## The round trip -/

theorem feed_payload (messageClass messageId : UInt8) {length : Nat} (stored : Bytes) {rest : Bytes}
    (more : rest ≠ []) (whole : (stored ++ rest).length = length)
    (fits : length ≤ ubxMonVerMaxPayloadLength) :
    feed ubxParserConsume (bodyParser .waitPayload messageClass messageId length stored) rest =
      some (bodyParser .waitCkA messageClass messageId length (stored ++ rest), []) := by
  induction rest generalizing stored with
  | nil => exact absurd rfl more
  | cons byte rest ih =>
      rw [List.length_append, List.length_cons] at whole
      have consumed := consume_payload messageClass messageId byte length
        (show stored.length < ubxMonVerMaxPayloadLength by omega)
      rw [List.append_cons]
      cases rest with
      | nil =>
          rw [if_pos (by rw [← whole]; rfl)] at consumed
          rw [feed_singleton consumed, List.append_nil]
          rfl
      | cons byte' rest =>
          rw [if_neg (by rw [← whole, List.length_cons]; omega)] at consumed
          have whole' : (stored ++ [byte] ++ byte' :: rest).length = length := by
            rw [← whole, List.append_assoc, List.length_append]
            rfl
          have ended := ih (stored ++ [byte]) (List.cons_ne_nil _ _) whole'
          rw [feed_cons consumed, ended]
          rfl

theorem feed_header (messageClass messageId : UInt8) {length : Nat}
    (fits : length ≤ ubxMonVerMaxPayloadLength) :
    feed ubxParserConsume ubxParserReset (ubxHeader messageClass messageId length) =
      some (bodyParser (if length = 0 then .waitCkA else .waitPayload) messageClass messageId length
        [], []) := by
  have small : length ≤ 512 := fits
  have consumed := consume_length2 messageClass messageId (UInt8.ofNat (length &&& 0xFF))
    (UInt8.ofNat (length >>> 8 &&& 0xFF))
  rw [ubxLength_of_bytes (by omega), if_neg (not_lt.mpr fits)] at consumed
  have first : feed ubxParserConsume ubxParserReset
      [ubxSync1, ubxSync2, messageClass, messageId, UInt8.ofNat (length &&& 0xFF)] =
      some (headerParser .waitLength2 messageClass messageId (UInt8.ofNat (length &&& 0xFF)).toNat
        [messageClass, messageId, UInt8.ofNat (length &&& 0xFF)], []) := rfl
  have fed := feed_append first [UInt8.ofNat (length >>> 8 &&& 0xFF)]
  rw [feed_singleton consumed] at fed
  exact fed

theorem feed_body (messageClass messageId : UInt8) {payload : Bytes}
    (fits : payload.length ≤ ubxMonVerMaxPayloadLength) :
    feed ubxParserConsume ubxParserReset (ubxHeader messageClass messageId payload.length ++ payload) =
      some (bodyParser .waitCkA messageClass messageId payload.length payload, []) := by
  rw [feed_append (feed_header messageClass messageId fits)]
  by_cases empty : payload = []
  · subst empty
    rfl
  · have whole : ([] ++ payload).length = payload.length := rfl
    rw [if_neg (by simpa using empty), feed_payload messageClass messageId [] empty whole fits]
    rfl

theorem feed_frame (frame : UbxFrame) (fits : frame.payload.length ≤ ubxMonVerMaxPayloadLength) :
    feed ubxParserConsume ubxParserReset (ubxFrameBytes frame) =
      some (ubxParserReset, [.dispatched frame]) := by
  obtain ⟨messageClass, messageId, payload⟩ := frame
  dsimp only at fits
  let checksum := ubxChecksum ((ubxHeader messageClass messageId payload.length).drop 2 ++ payload)
  have body := feed_body messageClass messageId fits
  have verified := consume_ckB messageClass messageId checksum.1 checksum.2 payload
  rw [if_pos ⟨rfl, rfl⟩] at verified
  have ended : feed ubxParserConsume (bodyParser .waitCkA messageClass messageId payload.length payload)
      [checksum.1, checksum.2] =
        some (ubxParserReset, [.dispatched ⟨messageClass, messageId, payload⟩]) := by
    have received : ubxParserConsume
        (bodyParser .waitCkA messageClass messageId payload.length payload) checksum.1 =
        some ({ bodyParser .waitCkB messageClass messageId payload.length payload with
          receivedCkA := checksum.1 }, none) := rfl
    rw [feed_cons received, feed_singleton verified]
    rfl
  change feed ubxParserConsume ubxParserReset
    (ubxHeader messageClass messageId payload.length ++ payload ++ [checksum.1, checksum.2]) = _
  rw [feed_append body, ended]
  rfl

theorem ubx_codec (stream : Bytes) (messageClass messageId : UInt8) {payload : Bytes}
    {uart : UartOutcome} (fits : payload.length ≤ ubxMonVerMaxPayloadLength)
    (sent : uart.header = true ∧ uart.payload = true ∧ uart.checksum = true) :
    ∃ parser outputs, feed ubxParserConsume ubxParserReset stream = some (parser, outputs) ∧
      StreamParsed stream parser outputs ∧ (parser.state = .waitSync1 →
        feed ubxParserConsume parser (ubxWriteFrame messageClass messageId payload uart).2 =
          some (ubxParserReset, [.dispatched ⟨messageClass, messageId, payload⟩])) := by
  obtain ⟨parser, outputs, fed, parsed⟩ := ubx_stream_parsed stream
  refine ⟨parser, outputs, fed, parsed, fun idle => ?_⟩
  rw [ubxWriteFrame_sent sent.1 sent.2.1 sent.2.2, parsed.idle idle]
  exact feed_frame ⟨messageClass, messageId, payload⟩ fits

def monVerPoll : UbxFrame := ⟨0x0A, 0x04, []⟩

def noisyStream : Bytes :=
  [0x24, 0x47, 0x50, 0xB5, 0xB5, 0x62, 0x01, 0x07, 0x01, 0x00, 0xFF, 0x00, 0x00, 0x0A]

theorem noisyStream_then_poll :
    ∃ parser outputs, feed ubxParserConsume ubxParserReset noisyStream = some (parser, outputs) ∧
      StreamParsed noisyStream parser outputs ∧ (parser.state = .waitSync1 →
        feed ubxParserConsume parser (ubxWriteFrame 0x0A 0x04 [] ⟨true, true, true, .ok⟩).2 =
          some (ubxParserReset, [.dispatched monVerPoll])) :=
  ubx_codec noisyStream 0x0A 0x04 (by decide) ⟨rfl, rfl, rfl⟩

end NtsTimeServer.Proof
