import NtsTimeServer.Model.NtsKe
import Mathlib.Data.Nat.Bitwise

namespace NtsTimeServer.Proof
open Model Lib

theorem isCritical_tag {record : Record} (wellFormed : record.WellFormed) :
    isCritical record.tag = record.critical := by
  have small := wellFormed.type
  have bit : record.tag &&& 0x8000 = (record.tag.testBit 15).toNat * 0x8000 :=
    Nat.and_two_pow record.tag 15
  rw [isCritical, bit, Nat.testBit_eq_decide_div_mod_eq, Record.tag]
  cases record.critical with
  | false => rw [if_neg (by decide), Nat.zero_add, Nat.div_eq_of_lt small]; rfl
  | true => rw [if_pos rfl, show (0x8000 + record.type) / 2 ^ 15 = 1 by omega]; rfl

theorem recordType_tag {record : Record} (wellFormed : record.WellFormed) :
    recordType record.tag = record.type := by
  have small := wellFormed.type
  rw [recordType, Nat.and_two_pow_sub_one_eq_mod _ 15, Record.tag]
  split <;> omega

theorem afterEndOfMessage_encode {record : Record} (wellFormed : record.WellFormed) (rest : Bytes)
    (fuel : Nat) :
    afterEndOfMessage (fuel + 1) (record.encode ++ rest) =
      if record.type = ntsKeRecordEndOfMessage then some rest else afterEndOfMessage fuel rest := by
  have whole := record.whole wellFormed rest
  have length := record.readLength wellFormed rest
  have fits := whole.body
  rw [length] at fits
  have dropped : (record.encode ++ rest).drop (4 + record.body.length) = rest :=
    List.drop_left' record.encode_length
  rw [afterEndOfMessage, if_pos whole.header]
  simp only [length, record.readTag wellFormed, recordType_tag wellFormed, dropped]
  rw [if_neg (by omega)]

theorem afterEndOfMessage_torn {tail : Bytes} (torn : ¬Whole tail) (fuel : Nat) :
    afterEndOfMessage fuel tail = none := by
  cases fuel with
  | zero => rfl
  | succ fuel =>
      rw [afterEndOfMessage]
      split
      next header =>
        have incomplete : readBe16 tail 2 > tail.length - 4 := by
          by_contra complete
          exact torn ⟨header, by omega⟩
        simp only [if_pos incomplete]
      · rfl

structure Ended (message : Bytes) (front : List Record) (last : Record) : Prop where
  wellFormed : ∀ record ∈ front ++ [last], record.WellFormed
  encoded : message = encodeRecords (front ++ [last])
  isEnd : last.type = ntsKeRecordEndOfMessage
  single : ∀ record ∈ front, record.type ≠ ntsKeRecordEndOfMessage

theorem afterEndOfMessage_of_ended {message : Bytes} {front : List Record} {last : Record}
    (ended : Ended message front last) (rest : Bytes) {fuel : Nat} (enough : message.length ≤ fuel) :
    afterEndOfMessage fuel (message ++ rest) = some rest := by
  obtain ⟨wellFormed, rfl, isEnd, single⟩ := ended
  induction front generalizing fuel with
  | nil =>
      have lastFits := wellFormed last (by simp)
      simp only [List.nil_append, encodeRecords_cons, encodeRecords_nil, List.append_nil,
        Record.encode_length] at enough ⊢
      obtain ⟨fuel, rfl⟩ := Nat.exists_eq_succ_of_ne_zero (by omega : fuel ≠ 0)
      rw [afterEndOfMessage_encode lastFits, if_pos isEnd]
  | cons record front ih =>
      obtain ⟨notEnd, single⟩ := List.forall_mem_cons.mp single
      obtain ⟨recordFits, wellFormed⟩ := List.forall_mem_cons.mp wellFormed
      simp only [List.cons_append, encodeRecords_cons, List.append_assoc, List.length_append,
        Record.encode_length] at enough ih ⊢
      obtain ⟨fuel, rfl⟩ := Nat.exists_eq_succ_of_ne_zero (by omega : fuel ≠ 0)
      rw [afterEndOfMessage_encode recordFits, if_neg notEnd]
      exact ih (by simpa using wellFormed) single (by omega)

theorem ended_of_afterEndOfMessage {fuel : Nat} {bytes rest : Bytes}
    (found : afterEndOfMessage fuel bytes = some rest) :
    ∃ message front last, Ended message front last ∧ bytes = message ++ rest := by
  induction fuel generalizing bytes with
  | zero => cases found
  | succ fuel ih =>
      by_cases whole : Whole bytes
      · have wellFormed := headRecord_wellFormed whole
        have split := whole.split
        rw [← split, afterEndOfMessage_encode wellFormed] at found
        split at found
        next isEnd =>
          obtain rfl := Option.some.inj found
          refine ⟨(headRecord bytes).encode, [], headRecord bytes, ⟨?_, ?_, isEnd, nofun⟩, split.symm⟩
          · simpa using wellFormed
          · simp
        next notEnd =>
          obtain ⟨message, front, last, ended, same⟩ := ih found
          refine ⟨(headRecord bytes).encode ++ message, headRecord bytes :: front, last, ?_, ?_⟩
          · exact ⟨List.forall_mem_cons.mpr ⟨wellFormed, ended.wellFormed⟩,
              by rw [ended.encoded]; rfl, ended.isEnd,
              List.forall_mem_cons.mpr ⟨notEnd, ended.single⟩⟩
          · rw [List.append_assoc, ← same, split]
      · rw [afterEndOfMessage_torn whole] at found
        cases found

def restOf (bytes : Bytes) : Option Bytes := afterEndOfMessage bytes.length bytes

theorem restOf_eq_some_iff {bytes rest : Bytes} :
    restOf bytes = some rest ↔ ∃ message front last, Ended message front last ∧ bytes = message ++ rest := by
  constructor
  · exact ended_of_afterEndOfMessage
  · rintro ⟨message, front, last, ended, rfl⟩
    exact afterEndOfMessage_of_ended ended rest (by simp)

theorem restOf_append {bytes rest : Bytes} (found : restOf bytes = some rest) (more : Bytes) :
    restOf (bytes ++ more) = some (rest ++ more) := by
  obtain ⟨message, front, last, ended, rfl⟩ := restOf_eq_some_iff.mp found
  exact restOf_eq_some_iff.mpr ⟨message, front, last, ended, List.append_assoc _ _ _⟩

/-! ## Deliveries of a stream -/

/-- The stream comes in the results of `mbedtls_ssl_read`: in pieces, with retries anywhere. -/
inductive Delivers : Bytes → List TlsRead → Prop
  | nothing : Delivers [] []
  | want {stream : Bytes} {reads : List TlsRead} : Delivers stream reads → Delivers stream (.want :: reads)
  | piece {stream : Bytes} {reads : List TlsRead} (byte : UInt8) (bytes : Bytes) : Delivers stream reads →
      Delivers (byte :: bytes ++ stream) (.received (byte :: bytes) :: reads)

theorem tlsReadRequest_full {size : Nat} {request : Bytes} (full : ¬request.length < size)
    (reads : List TlsRead) : tlsReadRequest size request reads = some (.invalidSize, request) := by
  cases reads <;> simp only [tlsReadRequest, if_neg full]

theorem tlsReadRequest_received {size : Nat} {request : Bytes} (room : request.length < size)
    (byte : UInt8) (bytes : Bytes) (reads : List TlsRead) :
    tlsReadRequest size request (.received (byte :: bytes) :: reads) =
      match restOf ((request ++ byte :: bytes).take size) with
      | none => tlsReadRequest size ((request ++ byte :: bytes).take size) reads
      | some rest => some (if rest.isEmpty then .ok else .invalidResponse,
          (request ++ byte :: bytes).take size) := by
  have stored : (request ++ byte :: bytes).take size =
      request ++ (byte :: bytes).take (size - request.length) := by
    rw [List.take_append, List.take_of_length_le room.le]
  rw [tlsReadRequest, if_pos room, stored]
  rfl

theorem take_take_append (first second : Bytes) (count : Nat) :
    (first.take count ++ second).take count = (first ++ second).take count := by
  by_cases short : first.length ≤ count
  · rw [List.take_of_length_le short]
  · rw [List.take_append_of_le_length (by rw [List.length_take]; omega), List.take_take, min_self,
      List.take_append_of_le_length (by omega)]

/-- As long as no byte follows the first End of Message record, all that matters of a delivery is what
it delivers. -/
theorem tlsReadRequest_delivered {size : Nat} {request stream : Bytes} {reads : List TlsRead}
    (delivers : Delivers stream reads) (fits : request.length ≤ size) (open_ : restOf request = none)
    (ending : List TlsRead) :
    (restOf ((request ++ stream).take size) = none →
      tlsReadRequest size request (reads ++ ending) =
        tlsReadRequest size ((request ++ stream).take size) ending) ∧
    (restOf ((request ++ stream).take size) = some [] →
      tlsReadRequest size request (reads ++ ending) =
        some (.ok, (request ++ stream).take size)) := by
  induction delivers generalizing request with
  | nothing =>
      rw [List.append_nil, List.take_of_length_le fits]
      exact ⟨fun _ => rfl, fun found => by rw [open_] at found; cases found⟩
  | @want stream reads delivers ih =>
      by_cases room : request.length < size
      · rw [List.cons_append, tlsReadRequest, if_pos room]
        exact ih fits open_
      · have whole : (request ++ stream).take size = request := List.take_left' (by omega)
        rw [whole, tlsReadRequest_full room, tlsReadRequest_full room]
        exact ⟨fun _ => rfl, fun found => by rw [open_] at found; cases found⟩
  | @piece stream reads byte bytes delivers ih =>
      by_cases room : request.length < size
      · change (_ → tlsReadRequest size request (.received (byte :: bytes) :: (reads ++ ending)) = _) ∧
          (_ → tlsReadRequest size request (.received (byte :: bytes) :: (reads ++ ending)) = _)
        rw [tlsReadRequest_received room, ← List.append_assoc request]
        have whole := take_take_append (request ++ byte :: bytes) stream size
        cases found : restOf ((request ++ byte :: bytes).take size) with
        | none =>
            rw [← whole]
            exact ih (List.length_take_le _ _) found
        | some rest =>
            have longer : (request ++ byte :: bytes ++ stream).take size =
                (request ++ byte :: bytes).take size ++
                  stream.take (size - (request ++ byte :: bytes).length) := List.take_append
            have later := restOf_append found (stream.take (size - (request ++ byte :: bytes).length))
            rw [longer, later]
            refine ⟨nofun, fun last => ?_⟩
            obtain ⟨rfl, nothing⟩ := List.append_eq_nil_iff.mp (Option.some.inj last)
            rw [nothing, List.append_nil]
            rfl
      · have whole : (request ++ (byte :: bytes ++ stream)).take size = request :=
          List.take_left' (by omega)
        rw [whole, tlsReadRequest_full room, tlsReadRequest_full room]
        exact ⟨fun _ => rfl, fun found => by rw [open_] at found; cases found⟩

/-! ## Independence of the splitting -/

/-- What the rest of the server sees of a reading: the error code, and the request on success. -/
def readingOutcome (reads : List TlsRead) : Option (EspErr × Option Bytes) :=
  (tlsReadRequest ntsKeRequestMax [] reads).map fun (err, request) =>
    (err, if err = .ok then some request else none)

/-- However the stream is split, and whatever the connection does after it, the reading is the same. -/
def SplitIndependent (stream : Bytes) : Prop :=
  ∀ first second ending, Delivers stream first → Delivers stream second →
    readingOutcome (first ++ ending) = readingOutcome (second ++ ending)

/-- No byte in the request buffer follows the first End of Message record. -/
def NothingFollowsEnd (stream : Bytes) : Prop :=
  ∀ message front last rest, Ended message front last →
    stream.take ntsKeRequestMax = message ++ rest → rest = []

theorem restOf_take {stream : Bytes} (nothing : NothingFollowsEnd stream) :
    restOf (stream.take ntsKeRequestMax) = none ∨
      restOf (stream.take ntsKeRequestMax) = some [] := by
  cases found : restOf (stream.take ntsKeRequestMax) with
  | none => exact .inl rfl
  | some rest =>
      obtain ⟨message, front, last, ended, split⟩ := restOf_eq_some_iff.mp found
      exact .inr (nothing message front last rest ended split ▸ rfl)

theorem delivered_outcome {stream : Bytes} {reads : List TlsRead} (delivers : Delivers stream reads)
    (nothing : NothingFollowsEnd stream) (ending : List TlsRead) :
    tlsReadRequest ntsKeRequestMax [] (reads ++ ending) =
      if restOf (stream.take ntsKeRequestMax) = none then
        tlsReadRequest ntsKeRequestMax (stream.take ntsKeRequestMax) ending
      else some (.ok, stream.take ntsKeRequestMax) := by
  have empty : restOf [] = none := rfl
  have read := tlsReadRequest_delivered delivers (Nat.zero_le ntsKeRequestMax) empty ending
  rw [List.nil_append] at read
  obtain none | ended := restOf_take nothing
  · rw [if_pos none]
    exact read.1 none
  · rw [if_neg (by rw [ended]; nofun)]
    exact read.2 ended

theorem Ended.ne_nil {message : Bytes} {front : List Record} {last : Record}
    (ended : Ended message front last) : message ≠ [] := by
  rintro rfl
  have length := congrArg List.length ended.encoded
  simp only [encodeRecords_append, encodeRecords_cons, List.length_append, Record.encode_length,
    List.length_nil] at length
  omega

theorem not_splitIndependent {stream message rest : Bytes} {front : List Record} {last : Record}
    (ended : Ended message front last) (split : stream.take ntsKeRequestMax = message ++ rest)
    (more : rest ≠ []) : ¬SplitIndependent stream := by
  intro independent
  have streamSplit : stream = message ++ (rest ++ stream.drop ntsKeRequestMax) := by
    rw [← List.append_assoc, ← split, List.take_append_drop]
  obtain ⟨first, message', messageCons⟩ := List.exists_cons_of_ne_nil ended.ne_nil
  obtain ⟨next, rest', restCons⟩ := List.exists_cons_of_ne_nil more
  have empty : ([] : Bytes).length < ntsKeRequestMax := by decide
  have short : message.length ≤ ntsKeRequestMax := by
    have length := congrArg List.length split
    rw [List.length_take, List.length_append] at length
    omega
  -- all of the stream at once, and with a boundary after the End of Message record
  have atOnce : Delivers stream [.received stream] := by
    have piece := Delivers.piece first (message' ++ (rest ++ stream.drop ntsKeRequestMax)) .nothing
    rwa [List.append_nil, ← List.cons_append, ← messageCons, ← streamSplit] at piece
  have inTwo : Delivers stream
      [.received message, .received (rest ++ stream.drop ntsKeRequestMax)] := by
    have second := Delivers.piece next (rest' ++ stream.drop ntsKeRequestMax) .nothing
    rw [List.append_nil, ← List.cons_append, ← restCons] at second
    have piece := Delivers.piece first message' second
    rwa [← messageCons, ← streamSplit] at piece
  have refused : readingOutcome [.received stream] = some (.invalidResponse, none) := by
    have found : restOf (stream.take ntsKeRequestMax) = some rest :=
      restOf_eq_some_iff.mpr ⟨message, front, last, ended, split⟩
    have streamCons : stream = first :: (message' ++ (rest ++ stream.drop ntsKeRequestMax)) := by
      rw [← List.cons_append, ← messageCons, ← streamSplit]
    have received := tlsReadRequest_received empty first
      (message' ++ (rest ++ stream.drop ntsKeRequestMax)) []
    rw [List.nil_append, ← streamCons, found] at received
    rw [readingOutcome, received]
    simp [more]
  have accepted : readingOutcome [.received message, .received (rest ++ stream.drop ntsKeRequestMax)] =
      some (.ok, some message) := by
    have found : restOf message = some [] :=
      restOf_eq_some_iff.mpr ⟨message, front, last, ended, (List.append_nil _).symm⟩
    have received := tlsReadRequest_received empty first message'
      [.received (rest ++ stream.drop ntsKeRequestMax)]
    rw [List.nil_append, ← messageCons, List.take_of_length_le short, found] at received
    rw [readingOutcome, received]
    simp
  have same := independent _ _ [] atOnce inTwo
  rw [List.append_nil, List.append_nil, refused, accepted] at same
  cases same

theorem splitIndependent_iff (stream : Bytes) : SplitIndependent stream ↔ NothingFollowsEnd stream := by
  constructor
  · intro independent message front last rest ended split
    by_contra more
    exact not_splitIndependent ended split more independent
  · intro nothing first second ending delivered delivered'
    rw [readingOutcome, readingOutcome, delivered_outcome delivered nothing,
      delivered_outcome delivered' nothing]

def trailingByte : Bytes :=
  [0x80, 0x01, 0x00, 0x02, 0x00, 0x00, 0x00, 0x04, 0x00, 0x02, 0x00, 0x0F, 0x80, 0x00, 0x00, 0x00, 0xFF]

theorem trailingByte_depends_on_split : ¬SplitIndependent trailingByte := by
  intro independent
  have atOnce : Delivers trailingByte [.received trailingByte] := .piece 0x80 trailingByte.tail .nothing
  have inTwo : Delivers trailingByte [.received (trailingByte.take 16), .received [0xFF]] :=
    .piece 0x80 (trailingByte.take 16).tail (.piece 0xFF [] .nothing)
  have same := independent _ _ [] atOnce inTwo
  revert same
  decide +kernel

end NtsTimeServer.Proof
