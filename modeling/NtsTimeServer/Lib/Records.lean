import NtsTimeServer.Lib.Bytes

/-!
# Records with a critical bit

A record is a bit that says whether it is critical, a 15-bit type, a 16-bit length of the body and the
body. A stream of bytes is a sequence of whole records and a torn one.
-/

namespace NtsTimeServer.Lib

structure Record where
  critical : Bool
  type : Nat
  body : Bytes
  deriving DecidableEq, Repr

def Record.tag (record : Record) : Nat := (if record.critical then 0x8000 else 0) + record.type

def Record.encode (record : Record) : Bytes :=
  beBytes 2 record.tag ++ (beBytes 2 record.body.length ++ record.body)

structure Record.WellFormed (record : Record) : Prop where
  type : record.type < 0x8000
  length : record.body.length < 65536

theorem Record.WellFormed.tag_lt {record : Record} (wellFormed : record.WellFormed) :
    record.tag < 65536 := by
  have := wellFormed.type
  unfold Record.tag
  split <;> omega

@[simp] theorem Record.encode_length (record : Record) :
    record.encode.length = 4 + record.body.length := by
  simp only [encode, List.length_append, beBytes_length]
  omega

def encodeRecords (records : List Record) : Bytes := records.flatMap Record.encode

@[simp] theorem encodeRecords_nil : encodeRecords [] = [] := rfl

@[simp] theorem encodeRecords_cons (record : Record) (rest : List Record) :
    encodeRecords (record :: rest) = record.encode ++ encodeRecords rest := rfl

@[simp] theorem encodeRecords_append (first second : List Record) :
    encodeRecords (first ++ second) = encodeRecords first ++ encodeRecords second :=
  List.flatMap_append

structure Whole (bytes : Bytes) : Prop where
  header : 4 ≤ bytes.length
  body : readBe16 bytes 2 ≤ bytes.length - 4

instance (bytes : Bytes) : Decidable (Whole bytes) :=
  decidable_of_iff (4 ≤ bytes.length ∧ readBe16 bytes 2 ≤ bytes.length - 4)
    ⟨fun ⟨header, body⟩ => ⟨header, body⟩, fun ⟨header, body⟩ => ⟨header, body⟩⟩

def headRecord (bytes : Bytes) : Record where
  critical := 0x8000 ≤ readBe16 bytes 0
  type := readBe16 bytes 0 % 0x8000
  body := (bytes.drop 4).take (readBe16 bytes 2)

theorem headRecord_tag (bytes : Bytes) : (headRecord bytes).tag = readBe16 bytes 0 := by
  have fits : readBe16 bytes 0 < 65536 := readBe_lt 2 bytes 0
  by_cases critical : 0x8000 ≤ readBe16 bytes 0 <;>
    simp only [headRecord, Record.tag, critical, decide_true, decide_false, if_true, Bool.false_eq_true,
      if_false] <;> omega

theorem headRecord_body_length {bytes : Bytes} (whole : Whole bytes) :
    (headRecord bytes).body.length = readBe16 bytes 2 := by
  have header := whole.header
  have body := whole.body
  simp only [headRecord, List.length_take, List.length_drop]
  omega

theorem headRecord_wellFormed {bytes : Bytes} (whole : Whole bytes) : (headRecord bytes).WellFormed := by
  refine ⟨Nat.mod_lt _ (by decide), ?_⟩
  rw [headRecord_body_length whole]
  exact readBe_lt 2 bytes 2

theorem Whole.split {bytes : Bytes} (whole : Whole bytes) :
    (headRecord bytes).encode ++ bytes.drop (4 + readBe16 bytes 2) = bytes := by
  have header := whole.header
  have tag : beBytes 2 (readBe16 bytes 0) = bytes.take 2 := beBytes_readBe (by omega)
  have length : beBytes 2 (readBe16 bytes 2) = (bytes.drop 2).take 2 := beBytes_readBe (by omega)
  have rest : bytes.drop (4 + readBe16 bytes 2) = (bytes.drop 4).drop (readBe16 bytes 2) :=
    List.drop_drop.symm
  have middle : bytes.drop 4 = (bytes.drop 2).drop 2 := by rw [List.drop_drop]
  rw [Record.encode, headRecord_tag, headRecord_body_length whole, tag, length, rest]
  simp only [headRecord, List.append_assoc, List.take_append_drop]
  rw [middle, List.take_append_drop, List.take_append_drop]

theorem Record.readTag {record : Record} (wellFormed : record.WellFormed) (rest : Bytes) :
    readBe16 (record.encode ++ rest) 0 = record.tag := by
  rw [encode, List.append_assoc]
  exact readBe_beBytes_append wellFormed.tag_lt _

theorem Record.readLength {record : Record} (wellFormed : record.WellFormed) (rest : Bytes) :
    readBe16 (record.encode ++ rest) 2 = record.body.length := by
  rw [encode, List.append_assoc, readBe16, readBe_skip 2 le_rfl, Nat.sub_self, List.append_assoc]
  exact readBe_beBytes_append wellFormed.length _

theorem Record.drop_header (record : Record) (rest : Bytes) :
    (record.encode ++ rest).drop 4 = record.body ++ rest := by
  rw [Record.encode, ← List.append_assoc, List.append_assoc]
  exact List.drop_left' (by simp)

theorem Record.whole {record : Record} (wellFormed : record.WellFormed) (rest : Bytes) :
    Whole (record.encode ++ rest) := by
  have length := record.readLength wellFormed rest
  refine ⟨?_, ?_⟩ <;> simp only [length, List.length_append, Record.encode_length] <;> omega

/-! ## All records -/

/-- The whole records at the front, and what is left when no other is whole. -/
structure Torn (bytes : Bytes) (records : List Record) (tail : Bytes) : Prop where
  split : bytes = encodeRecords records ++ tail
  wellFormed : ∀ record ∈ records, record.WellFormed
  torn : ¬Whole tail

theorem exists_torn (bytes : Bytes) : ∃ records tail, Torn bytes records tail := by
  induction length : bytes.length using Nat.strong_induction_on generalizing bytes with
  | _ _ ih =>
      by_cases whole : Whole bytes
      · have shorter : (bytes.drop (4 + readBe16 bytes 2)).length < bytes.length := by
          have := whole.header
          rw [List.length_drop]
          omega
        obtain ⟨records, tail, split, wellFormed, torn⟩ := ih _ (length ▸ shorter) _ rfl
        refine ⟨headRecord bytes :: records, tail, ?_, ?_, torn⟩
        · rw [encodeRecords_cons, List.append_assoc, ← split, whole.split]
        · exact List.forall_mem_cons.mpr ⟨headRecord_wellFormed whole, wellFormed⟩
      · exact ⟨[], bytes, rfl, nofun, whole⟩

/-- The records of a stream that ends with a whole one. A turn takes at least 4 bytes. -/
def decodeRecords : Nat → Bytes → Option (List Record)
  | 0, _ => none
  | fuel + 1, bytes =>
      if bytes.isEmpty then some []
      else if Whole bytes then
        (decodeRecords fuel (bytes.drop (4 + readBe16 bytes 2))).map (headRecord bytes :: ·)
      else none

theorem headRecord_encode {record : Record} (wellFormed : record.WellFormed) (rest : Bytes) :
    headRecord (record.encode ++ rest) = record := by
  have type := wellFormed.type
  rw [headRecord, record.readTag wellFormed, record.readLength wellFormed, record.drop_header,
    List.take_left' rfl, Record.tag]
  obtain ⟨critical, kind, body⟩ := record
  cases critical with
  | false =>
      have small : ¬0x8000 ≤ kind := not_le.mpr type
      simp [small, Nat.mod_eq_of_lt type]
  | true => simp [Nat.mod_eq_of_lt type]

theorem decodeRecords_encodeRecords {records : List Record} (wellFormed : ∀ record ∈ records, record.WellFormed)
    {fuel : Nat} (enough : (encodeRecords records).length < fuel) :
    decodeRecords fuel (encodeRecords records) = some records := by
  induction records generalizing fuel with
  | nil =>
      cases fuel with
      | zero => cases enough
      | succ fuel => simp [decodeRecords]
  | cons record records ih =>
      obtain ⟨first, others⟩ := List.forall_mem_cons.mp wellFormed
      cases fuel with
      | zero => cases enough
      | succ fuel =>
          rw [encodeRecords_cons, List.length_append, Record.encode_length] at enough
          have nonempty : (record.encode ++ encodeRecords records).isEmpty = false := by
            cases bytes : record.encode ++ encodeRecords records with
            | nil => simp [← List.length_eq_zero_iff] at bytes
            | cons _ _ => rfl
          have rest : (record.encode ++ encodeRecords records).drop (4 + record.body.length) =
              encodeRecords records := List.drop_left' record.encode_length
          rw [encodeRecords_cons, decodeRecords, if_neg (by simp [nonempty]), if_pos (record.whole first _),
            record.readLength first, rest, headRecord_encode first, ih others (by omega), Option.map_some]

end NtsTimeServer.Lib
