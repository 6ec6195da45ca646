import NtsTimeServer.Model.GnssStream
import NtsTimeServer.Proof.Ubx

namespace NtsTimeServer.Proof
open Model Lib

inductive GnssItem
  | frame (sent : UbxFrame)
  | line (text : Bytes) (withCarriageReturn : Bool)

def lineEnd (withCarriageReturn : Bool) : Bytes :=
  if withCarriageReturn then [carriageReturn, lineFeed] else [lineFeed]

def GnssItem.bytes : GnssItem → Bytes
  | .frame sent => ubxFrameBytes sent
  | .line text withCarriageReturn => text ++ lineEnd withCarriageReturn

def GnssItem.output : GnssItem → GnssOutput
  | .frame sent => .ubx (.dispatched sent)
  | .line text _ => .nmeaLine text

structure InLine (byte : UInt8) : Prop where
  printable : 0x20 ≤ byte ∧ byte ≤ 0x7E
  noStart : byte ≠ dollar

def GnssItem.WellFormed : GnssItem → Prop
  | .frame sent => sent.payload.length ≤ ubxMonVerMaxPayloadLength
  | .line text _ => ∃ rest, text = dollar :: rest ∧ text.length ≤ 159 ∧ ∀ byte ∈ rest, InLine byte

structure Collecting (text : Bytes) (receiver : GnssReceiver) : Prop where
  idle : receiver.ubxParser = ubxParserReset
  capacity : receiver.nmeaLine.length = gnssLineMaxLength
  length : receiver.nmeaLength = text.length
  stored : receiver.nmeaLine.take text.length = text

theorem InLine.other {byte : UInt8} (inLine : InLine byte) :
    byte ≠ ubxSync1 ∧ byte ≠ carriageReturn ∧ byte ≠ lineFeed ∧ byte ≠ 0 := by
  obtain ⟨least, most⟩ := inLine.printable
  refine ⟨?_, ?_, ?_, ?_⟩ <;> rintro rfl <;> revert least most <;> decide

theorem take_set_append {buffer : Bytes} {text : Bytes} (room : text.length < buffer.length)
    (stored : buffer.take text.length = text) (byte : UInt8) :
    (buffer.set text.length byte).take (text.length + 1) = text ++ [byte] := by
  rw [List.take_add_one, List.take_set_of_le le_rfl, stored, List.getElem?_set_self room,
    Option.toList_some]

theorem put_eq {receiver : GnssReceiver} (capacity : receiver.nmeaLine.length = gnssLineMaxLength)
    (length : receiver.nmeaLength < gnssLineMaxLength) (byte : UInt8) :
    receiver.put byte =
      some { receiver with nmeaLine := receiver.nmeaLine.set receiver.nmeaLength byte } := by
  rw [GnssReceiver.put, if_pos (by rw [capacity]; exact length)]

theorem push_eq {receiver : GnssReceiver} (capacity : receiver.nmeaLine.length = gnssLineMaxLength)
    (length : receiver.nmeaLength < gnssLineMaxLength) (byte : UInt8) :
    receiver.push byte = some { receiver with
      nmeaLine := receiver.nmeaLine.set receiver.nmeaLength byte
      nmeaLength := receiver.nmeaLength + 1 } := by
  rw [GnssReceiver.push, put_eq capacity length, Option.map_some]

theorem Collecting.push {text : Bytes} {receiver : GnssReceiver} (collecting : Collecting text receiver)
    (room : text.length < gnssLineMaxLength) (byte : UInt8) :
    ∃ next, receiver.push byte = some next ∧ Collecting (text ++ [byte]) next := by
  have length := collecting.length
  refine ⟨_, push_eq collecting.capacity (length ▸ room) byte, ?_⟩
  rw [length]
  refine ⟨collecting.idle, ?_, ?_, ?_⟩
  · rw [← collecting.capacity]
    exact List.length_set
  · rw [List.length_append]
    rfl
  · rw [List.length_append]
    exact take_set_append (by rw [collecting.capacity]; exact room) collecting.stored byte

theorem start_line {receiver : GnssReceiver} (idle : receiver.ubxParser = ubxParserReset)
    (capacity : receiver.nmeaLine.length = gnssLineMaxLength) :
    ∃ next, processReceivedByte receiver dollar = some (next, none) ∧ Collecting [dollar] next := by
  have collecting : Collecting [] { receiver with nmeaLength := 0 } := ⟨idle, capacity, rfl, rfl⟩
  obtain ⟨next, pushed, collecting⟩ := collecting.push (by decide) dollar
  refine ⟨next, ?_, collecting⟩
  rw [processReceivedByte, if_neg (by rw [idle]; decide), if_pos rfl, pushed, Option.map_some]

theorem Collecting.waiting {text : Bytes} {receiver : GnssReceiver} (collecting : Collecting text receiver)
    {byte : UInt8} (other : byte ≠ ubxSync1) :
    ¬(receiver.ubxParser.state ≠ .waitSync1 ∨ byte = ubxSync1) := by
  rw [collecting.idle]
  simpa [ubxParserReset] using other

theorem Collecting.step {text : Bytes} {receiver : GnssReceiver} (collecting : Collecting text receiver)
    (started : text ≠ []) (room : text.length < 159) {byte : UInt8} (inLine : InLine byte) :
    ∃ next, processReceivedByte receiver byte = some (next, none) ∧
      Collecting (text ++ [byte]) next := by
  obtain ⟨noSync, noReturn, noFeed, -⟩ := inLine.other
  obtain ⟨next, pushed, collected⟩ := collecting.push (by unfold gnssLineMaxLength; omega) byte
  refine ⟨next, ?_, collected⟩
  have length := collecting.length
  have under : receiver.nmeaLength ≠ 0 := by
    rw [length]
    exact fun zero => started (List.length_eq_zero_iff.mp zero)
  rw [processReceivedByte, if_neg (collecting.waiting noSync), if_neg inLine.noStart,
    if_neg under, if_neg noReturn, if_neg noFeed,
    if_pos (by rw [length]; exact room), pushed, Option.map_some]

theorem Collecting.feed_text {text more : Bytes} {receiver : GnssReceiver}
    (collecting : Collecting text receiver) (started : text ≠ [])
    (fits : (text ++ more).length ≤ 159) (inLine : ∀ byte ∈ more, InLine byte) :
    ∃ next, feed processReceivedByte receiver more = some (next, []) ∧
      Collecting (text ++ more) next := by
  induction more generalizing text receiver with
  | nil => exact ⟨receiver, rfl, by rwa [List.append_nil]⟩
  | cons byte more ih =>
      obtain ⟨first, others⟩ := List.forall_mem_cons.mp inLine
      rw [List.append_cons] at fits ⊢
      have room : text.length < 159 := by
        rw [List.length_append, List.length_append, List.length_singleton] at fits
        omega
      obtain ⟨middle, stepped, collecting⟩ := collecting.step started room first
      obtain ⟨next, fed, collecting⟩ := ih collecting (by simp) fits others
      refine ⟨next, ?_, collecting⟩
      rw [feed_cons stepped, fed]
      rfl

theorem Collecting.lineFeed {text : Bytes} {receiver : GnssReceiver}
    (collecting : Collecting text receiver) (started : text ≠ []) (fits : text.length ≤ 159)
    (noZero : 0 ∉ text) :
    ∃ next, processReceivedByte receiver lineFeed = some (next, some (.nmeaLine text)) ∧
      Collecting [] next := by
  obtain ⟨idle, capacity, length, stored⟩ := collecting
  have small : text.length < gnssLineMaxLength := by
    unfold gnssLineMaxLength
    omega
  have room : text.length < receiver.nmeaLine.length := capacity ▸ small
  have positive : 0 < text.length := List.length_pos_iff.mpr started
  have terminated : cString (receiver.nmeaLine.set text.length 0) = text := by
    have split := List.take_append_drop (text.length + 1) (receiver.nmeaLine.set text.length 0)
    rw [take_set_append room stored, List.append_assoc] at split
    rw [← split]
    exact cString_append_zero noZero _
  refine ⟨⟨receiver.ubxParser, receiver.nmeaLine.set text.length 0, 0⟩, ?_,
    ⟨idle, by rw [← capacity]; exact List.length_set, rfl, rfl⟩⟩
  have waiting : ¬(receiver.ubxParser.state ≠ .waitSync1 ∨ Model.lineFeed = ubxSync1) :=
    Collecting.waiting ⟨idle, capacity, length, stored⟩ (by decide)
  rw [processReceivedByte, if_neg waiting, if_neg (by decide), if_neg (by omega), if_neg (by decide),
    if_pos rfl, put_eq capacity (by omega), Option.map_some, length, if_pos positive, terminated]

theorem Collecting.feed_end {text : Bytes} {receiver : GnssReceiver}
    (collecting : Collecting text receiver) (started : text ≠ []) (fits : text.length ≤ 159)
    (noZero : 0 ∉ text) (withCarriageReturn : Bool) :
    ∃ next, feed processReceivedByte receiver (lineEnd withCarriageReturn) =
      some (next, [.nmeaLine text]) ∧ Collecting [] next := by
  obtain ⟨next, ended, collected⟩ := collecting.lineFeed started fits noZero
  refine ⟨next, ?_, collected⟩
  cases withCarriageReturn with
  | false => exact feed_singleton ended
  | true =>
      have under : receiver.nmeaLength ≠ 0 := by
        rw [collecting.length]
        exact fun zero => started (List.length_eq_zero_iff.mp zero)
      have ignored : processReceivedByte receiver carriageReturn = some (receiver, none) := by
        rw [processReceivedByte, if_neg (collecting.waiting (by decide)), if_neg (by decide),
          if_neg under, if_pos rfl]
      rw [lineEnd, if_pos rfl, feed_cons ignored, feed_singleton ended]
      rfl

/-! ## Frames -/

abbrev Inside (parser : UbxParser) : Prop := parser.state ≠ .waitSync1 ∧ parser.state ≠ .waitSync2

theorem consume_inside {parser next : UbxParser} {byte : UInt8} (inside : Inside parser)
    (consumed : ubxParserConsume parser byte = some (next, none)) : Inside next := by
  unfold ubxParserConsume at consumed
  cases state : parser.state <;> simp only [state] at consumed
  case waitSync1 => exact absurd state inside.1
  case waitSync2 => exact absurd state inside.2
  case waitLength2 =>
      split at consumed
      · cases consumed
      · cases consumed
        constructor <;> dsimp only <;> split <;> decide
  case waitPayload =>
      split at consumed
      · split at consumed <;> cases consumed
        · exact ⟨nofun, nofun⟩
        · simp only [Inside, UbxParser.checksumAdd, UbxParser.store, state]
          exact ⟨nofun, nofun⟩
      · cases consumed
  all_goals cases consumed
  all_goals exact ⟨nofun, nofun⟩

/-- What the UBX parser takes without putting anything out never reaches the line. -/
theorem feed_inside {receiver : GnssReceiver} {parser next : UbxParser} {bytes : Bytes}
    (between : receiver.nmeaLength = 0) (inside : Inside parser)
    (fed : feed ubxParserConsume parser bytes = some (next, [])) :
    feed processReceivedByte { receiver with ubxParser := parser } bytes =
      some ({ receiver with ubxParser := next }, []) := by
  induction bytes generalizing parser with
  | nil =>
      cases fed
      rfl
  | cons byte bytes ih =>
      rw [feed] at fed
      obtain ⟨⟨middle, output⟩, consumed, fed⟩ := Option.bind_eq_some_iff.mp fed
      obtain ⟨⟨last, outputs⟩, later, same⟩ := Option.map_eq_some_iff.mp fed
      obtain ⟨rfl, silent⟩ := Prod.mk.inj same
      obtain ⟨quiet, rfl⟩ := List.append_eq_nil_iff.mp silent
      obtain rfl : output = none := Option.toList_eq_nil_iff.mp quiet
      have stepped : processReceivedByte { receiver with ubxParser := parser } byte =
          some ({ receiver with ubxParser := middle }, none) := by
        rw [processReceivedByte, if_pos (.inl inside.1), consumed, ← between]
        rfl
      rw [feed_cons stepped, ih (consume_inside inside consumed) later]
      rfl

theorem feed_ubx {receiver : GnssReceiver} (idle : receiver.ubxParser = ubxParserReset) {frame : UbxFrame}
    (fits : frame.payload.length ≤ ubxMonVerMaxPayloadLength) :
    feed processReceivedByte receiver (ubxFrameBytes frame) =
      some ({ receiver with nmeaLength := 0 }, [.ubx (.dispatched frame)]) := by
  obtain ⟨messageClass, messageId, payload⟩ := frame
  dsimp only at fits
  let header := ubxHeader messageClass messageId payload.length
  let checksum := ubxChecksum (header.drop 2 ++ payload)
  let synced : UbxParser := { ubxParserReset with state := .waitClass }
  let inFrame (parser : UbxParser) : GnssReceiver :=
    { receiver with nmeaLength := 0, ubxParser := parser }
  have sync : feed processReceivedByte receiver [ubxSync1, ubxSync2] = some (inFrame synced, []) := by
    have first : processReceivedByte receiver ubxSync1 =
        some (inFrame { ubxParserReset with state := .waitSync2 }, none) := by
      rw [processReceivedByte, if_pos (.inr rfl), idle]
      rfl
    rw [feed_cons first]
    rfl
  have body : feed ubxParserConsume synced (header.drop 2 ++ payload) =
      some (bodyParser .waitCkA messageClass messageId payload.length payload, []) := by
    have whole := feed_body messageClass messageId fits
    have start : feed ubxParserConsume ubxParserReset [ubxSync1, ubxSync2] = some (synced, []) := rfl
    change feed ubxParserConsume ubxParserReset
      ([ubxSync1, ubxSync2] ++ (header.drop 2 ++ payload)) = _ at whole
    rw [feed_append start] at whole
    simpa using whole
  have before := @feed_inside (inFrame synced) synced _ _ rfl (by decide) body
  have verified := consume_ckB messageClass messageId checksum.1 checksum.2 payload
  rw [if_pos ⟨rfl, rfl⟩] at verified
  have received : processReceivedByte
      (inFrame (bodyParser .waitCkA messageClass messageId payload.length payload)) checksum.1 =
      some (inFrame { bodyParser .waitCkB messageClass messageId payload.length payload with
        receivedCkA := checksum.1 }, none) := rfl
  have dispatched : processReceivedByte
      (inFrame { bodyParser .waitCkB messageClass messageId payload.length payload with
        receivedCkA := checksum.1 }) checksum.2 =
      some (inFrame ubxParserReset, some (.ubx (.dispatched ⟨messageClass, messageId, payload⟩))) := by
    rw [processReceivedByte, if_pos (.inl nofun), verified]
    rfl
  have ended : feed processReceivedByte
      (inFrame (bodyParser .waitCkA messageClass messageId payload.length payload))
      [checksum.1, checksum.2] =
      some (inFrame ubxParserReset, [.ubx (.dispatched ⟨messageClass, messageId, payload⟩)]) := by
    rw [feed_cons received, feed_singleton dispatched]
    rfl
  have same : ubxFrameBytes ⟨messageClass, messageId, payload⟩ =
      [ubxSync1, ubxSync2] ++ ((header.drop 2 ++ payload) ++ [checksum.1, checksum.2]) := rfl
  rw [same, feed_append sync, feed_append before, ended, ← idle]
  rfl

/-! ## Any order of items -/

structure BetweenItems (receiver : GnssReceiver) : Prop where
  idle : receiver.ubxParser = ubxParserReset
  capacity : receiver.nmeaLine.length = gnssLineMaxLength

theorem feed_item {receiver : GnssReceiver} (between : BetweenItems receiver) {item : GnssItem}
    (wellFormed : item.WellFormed) :
    ∃ next, feed processReceivedByte receiver item.bytes = some (next, [item.output]) ∧
      BetweenItems next := by
  cases item with
  | frame sent => exact ⟨_, feed_ubx between.idle wellFormed, ⟨between.idle, between.capacity⟩⟩
  | line text withCarriageReturn =>
      obtain ⟨rest, rfl, fits, inLine⟩ := wellFormed
      obtain ⟨started, first, collecting⟩ := start_line between.idle between.capacity
      obtain ⟨collected, fed, collecting⟩ := collecting.feed_text (by simp) fits inLine
      have noZero : 0 ∉ dollar :: rest := by
        rw [List.mem_cons, not_or]
        exact ⟨by decide, fun zero => (inLine 0 zero).other.2.2.2 rfl⟩
      obtain ⟨next, ended, collecting⟩ :=
        collecting.feed_end (by simp) fits noZero withCarriageReturn
      refine ⟨next, ?_, collecting.idle, collecting.capacity⟩
      change feed processReceivedByte receiver (dollar :: (rest ++ lineEnd withCarriageReturn)) = _
      rw [feed_cons first, feed_append fed, ended]
      rfl

theorem feed_items {receiver : GnssReceiver} (between : BetweenItems receiver) {items : List GnssItem}
    (wellFormed : ∀ item ∈ items, item.WellFormed) :
    ∃ next, feed processReceivedByte receiver (items.flatMap GnssItem.bytes) =
      some (next, items.map GnssItem.output) ∧ BetweenItems next := by
  induction items generalizing receiver with
  | nil => exact ⟨receiver, rfl, between⟩
  | cons item items ih =>
      obtain ⟨first, others⟩ := List.forall_mem_cons.mp wellFormed
      obtain ⟨middle, fed, between⟩ := feed_item between first
      obtain ⟨next, later, between⟩ := ih between others
      refine ⟨next, ?_, between⟩
      rw [List.flatMap_cons, feed_append fed, later]
      rfl

/-- What every byte preserves: the UBX parser stays one of those of a stream of its own, and the line
inside its buffer. -/
structure Receiving (receiver : GnssReceiver) : Prop where
  reading : ∃ recent, Reading receiver.ubxParser recent
  capacity : receiver.nmeaLine.length = gnssLineMaxLength
  length : receiver.nmeaLength < gnssLineMaxLength

theorem receiving_processed {receiver : GnssReceiver} (receiving : Receiving receiver) (byte : UInt8) :
    ∃ next output, processReceivedByte receiver byte = some (next, output) ∧ Receiving next := by
  obtain ⟨⟨recent, reading⟩, capacity, length⟩ := receiving
  have first : 0 < gnssLineMaxLength := by decide
  have kept (index : Nat) (byte : UInt8) :
      (receiver.nmeaLine.set index byte).length = gnssLineMaxLength := by
    rw [← capacity]
    exact List.length_set
  unfold processReceivedByte
  split
  · obtain ⟨parser, output, -, rest, consumed, -, reading, -⟩ := reading_consumed reading byte
    rw [consumed]
    exact ⟨_, _, rfl, ⟨rest, reading⟩, capacity, first⟩
  split
  · have started := @push_eq { receiver with nmeaLength := 0 } capacity first dollar
    rw [started]
    exact ⟨_, _, rfl, ⟨recent, reading⟩, kept 0 dollar, (by decide : 0 + 1 < gnssLineMaxLength)⟩
  split
  · exact ⟨_, _, rfl, ⟨recent, reading⟩, capacity, length⟩
  split
  · exact ⟨_, _, rfl, ⟨recent, reading⟩, capacity, length⟩
  split
  · rw [put_eq capacity length]
    exact ⟨_, _, rfl, ⟨recent, reading⟩, kept _ 0, first⟩
  split
  next more =>
    rw [push_eq capacity length]
    exact ⟨_, _, rfl, ⟨recent, reading⟩, kept _ byte, Nat.add_lt_of_lt_sub more⟩
  · exact ⟨_, _, rfl, ⟨recent, reading⟩, capacity, first⟩

theorem receiving_fed (stream : Bytes) :
    ∃ receiver outputs, feed processReceivedByte gnssReceiverInit stream = some (receiver, outputs) ∧
      Receiving receiver :=
  feed_rule (fun _ receiver _ => Receiving receiver) ⟨⟨[], .idle⟩, rfl, by decide⟩
    (fun _ _ _ byte receiving => receiving_processed receiving byte) stream

/-- After any stream that leaves the UBX parser idle, whatever is left of a line, each item sent comes
out once and in order. -/
theorem items_demultiplexed (before : Bytes) {items : List GnssItem}
    (wellFormed : ∀ item ∈ items, item.WellFormed) :
    ∃ receiver outputs, feed processReceivedByte gnssReceiverInit before = some (receiver, outputs) ∧
      (receiver.ubxParser.state = .waitSync1 →
        ∃ next, feed processReceivedByte receiver (items.flatMap GnssItem.bytes) =
          some (next, items.map GnssItem.output) ∧ next.ubxParser.state = .waitSync1) := by
  obtain ⟨receiver, outputs, fed, receiving⟩ := receiving_fed before
  refine ⟨receiver, outputs, fed, fun waiting => ?_⟩
  obtain ⟨recent, reading⟩ := receiving.reading
  have idle := reading_idle reading waiting
  obtain ⟨next, sent, between⟩ := feed_items ⟨idle, receiving.capacity⟩ wellFormed
  exact ⟨next, sent, by rw [between.idle]; rfl⟩

def brokenOff : Bytes := [0x24, 0x47, 0x50]

def mixedItems : List GnssItem :=
  [.frame ⟨0x0A, 0x04, [0x24, 0x0A, 0xB5]⟩, .line [0x24, 0x47, 0x4E] true, .line [0x24] false]

theorem mixedItems_wellFormed : ∀ item ∈ mixedItems, item.WellFormed := by
  intro item member
  simp only [mixedItems, List.mem_cons, List.not_mem_nil, or_false] at member
  obtain rfl | rfl | rfl := member
  · change 3 ≤ 512
    decide
  · refine ⟨[0x47, 0x4E], rfl, by decide, ?_⟩
    intro byte member
    simp only [List.mem_cons, List.not_mem_nil, or_false] at member
    obtain rfl | rfl := member <;> exact ⟨by decide, by decide⟩
  · exact ⟨[], rfl, by decide, nofun⟩

theorem mixedItems_demultiplexed :
    ∃ receiver outputs, feed processReceivedByte gnssReceiverInit brokenOff = some (receiver, outputs) ∧
      (receiver.ubxParser.state = .waitSync1 →
        ∃ next, feed processReceivedByte receiver (mixedItems.flatMap GnssItem.bytes) =
          some (next, mixedItems.map GnssItem.output) ∧ next.ubxParser.state = .waitSync1) :=
  items_demultiplexed brokenOff mixedItems_wellFormed

end NtsTimeServer.Proof
