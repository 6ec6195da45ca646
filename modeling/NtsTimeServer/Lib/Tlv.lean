import NtsTimeServer.Lib.Bytes

/-!
# Type-length-value fields

A field is a 16-bit type, a 16-bit length that counts the whole field, and a body. Fields are
multiples of four bytes long.
-/

namespace NtsTimeServer.Lib

structure Field where
  type : Nat
  body : Bytes
  deriving DecidableEq, Repr

def Field.encode (field : Field) : Bytes :=
  beBytes 2 field.type ++ (beBytes 2 (4 + field.body.length) ++ field.body)

structure Field.WellFormed (field : Field) : Prop where
  type : field.type < 65536
  length : 4 + field.body.length < 65536
  aligned : field.body.length % 4 = 0

@[simp] theorem Field.encode_length (field : Field) : field.encode.length = 4 + field.body.length := by
  simp only [encode, List.length_append, beBytes_length]
  omega

def encodeFields (fields : List Field) : Bytes := fields.flatMap Field.encode

@[simp] theorem encodeFields_nil : encodeFields [] = [] := rfl

@[simp] theorem encodeFields_cons (field : Field) (rest : List Field) :
    encodeFields (field :: rest) = field.encode ++ encodeFields rest := rfl

@[simp] theorem encodeFields_append (first second : List Field) :
    encodeFields (first ++ second) = encodeFields first ++ encodeFields second :=
  List.flatMap_append

structure Framed (bytes : Bytes) : Prop where
  header : 4 ≤ bytes.length
  least : 4 ≤ readBe16 bytes 2
  aligned : readBe16 bytes 2 % 4 = 0
  fits : readBe16 bytes 2 ≤ bytes.length

def headField (bytes : Bytes) : Field := ⟨readBe16 bytes 0, (bytes.drop 4).take (readBe16 bytes 2 - 4)⟩

theorem headField_body_length {bytes : Bytes} (framed : Framed bytes) :
    4 + (headField bytes).body.length = readBe16 bytes 2 := by
  obtain ⟨header, least, -, fits⟩ := framed
  simp only [headField, List.length_take, List.length_drop]
  omega

theorem headField_wellFormed {bytes : Bytes} (framed : Framed bytes) :
    (headField bytes).WellFormed := by
  have length := headField_body_length framed
  have aligned := framed.aligned
  refine ⟨readBe_lt 2 bytes 0, ?_, by omega⟩
  rw [length]
  exact readBe_lt 2 bytes 2

theorem Framed.split {bytes : Bytes} (framed : Framed bytes) :
    (headField bytes).encode ++ bytes.drop (readBe16 bytes 2) = bytes := by
  have header := framed.header
  have least := framed.least
  have type : beBytes 2 (readBe16 bytes 0) = bytes.take 2 := beBytes_readBe (by omega)
  have length : beBytes 2 (readBe16 bytes 2) = (bytes.drop 2).take 2 := beBytes_readBe (by omega)
  have body : bytes.drop (readBe16 bytes 2) = (bytes.drop 4).drop (readBe16 bytes 2 - 4) := by
    rw [List.drop_drop]
    congr 1
    omega
  have rest : bytes.drop 4 = (bytes.drop 2).drop 2 := by rw [List.drop_drop]
  rw [Field.encode, headField_body_length framed, length, body]
  simp only [headField, type, List.append_assoc, List.take_append_drop]
  rw [rest, List.take_append_drop, List.take_append_drop]

theorem Field.readType {field : Field} (wellFormed : field.WellFormed) (rest : Bytes) :
    readBe16 (field.encode ++ rest) 0 = field.type := by
  rw [encode, List.append_assoc]
  exact readBe_beBytes_append wellFormed.type _

theorem Field.readLength {field : Field} (wellFormed : field.WellFormed) (rest : Bytes) :
    readBe16 (field.encode ++ rest) 2 = 4 + field.body.length := by
  rw [encode, List.append_assoc, readBe16, readBe_skip 2 le_rfl, Nat.sub_self, List.append_assoc]
  exact readBe_beBytes_append wellFormed.length _

theorem Field.framed {field : Field} (wellFormed : field.WellFormed) (rest : Bytes) :
    Framed (field.encode ++ rest) := by
  have length := field.readLength wellFormed rest
  have aligned := wellFormed.aligned
  refine ⟨?_, ?_, ?_, ?_⟩ <;> simp only [length, List.length_append, Field.encode_length] <;> omega

theorem headField_encode {field : Field} (wellFormed : field.WellFormed) (rest : Bytes) :
    headField (field.encode ++ rest) = field := by
  have header : (field.encode ++ rest).drop 4 = field.body ++ rest := by
    rw [Field.encode, ← List.append_assoc, List.append_assoc]
    exact List.drop_left' (by simp)
  rw [headField, field.readType wellFormed, field.readLength wellFormed, header,
    List.take_left' (by omega)]

/-! ## Reading all fields -/

instance (bytes : Bytes) : Decidable (Framed bytes) :=
  decidable_of_iff (4 ≤ bytes.length ∧ 4 ≤ readBe16 bytes 2 ∧ readBe16 bytes 2 % 4 = 0 ∧
      readBe16 bytes 2 ≤ bytes.length)
    ⟨fun ⟨header, least, aligned, fits⟩ => ⟨header, least, aligned, fits⟩,
      fun ⟨header, least, aligned, fits⟩ => ⟨header, least, aligned, fits⟩⟩

/-- A field has at least 4 bytes, so `bytes.length` turns are enough. -/
def parseFieldsFrom : Nat → Bytes → Option (List Field)
  | _, [] => some []
  | 0, _ => none
  | fuel + 1, bytes =>
      if Framed bytes then
        (parseFieldsFrom fuel (bytes.drop (readBe16 bytes 2))).map (headField bytes :: ·)
      else none

def parseFields (bytes : Bytes) : Option (List Field) := parseFieldsFrom bytes.length bytes

theorem parseFieldsFrom_framed {bytes : Bytes} (framed : Framed bytes) (fuel : Nat) :
    parseFieldsFrom (fuel + 1) bytes =
      (parseFieldsFrom fuel (bytes.drop (readBe16 bytes 2))).map (headField bytes :: ·) := by
  cases bytes with
  | nil => exact absurd framed.header (by simp)
  | cons byte rest => rw [parseFieldsFrom, if_pos framed]; simp

theorem parseFieldsFrom_encodeFields {fields : List Field} (wellFormed : ∀ field ∈ fields, field.WellFormed)
    {fuel : Nat} (enough : fields.length ≤ fuel) : parseFieldsFrom fuel (encodeFields fields) = some fields := by
  induction fields generalizing fuel with
  | nil => rw [encodeFields_nil, parseFieldsFrom]
  | cons field rest ih =>
      obtain ⟨wellFormedField, wellFormed⟩ := List.forall_mem_cons.mp wellFormed
      obtain ⟨fuel, rfl⟩ := Nat.exists_eq_succ_of_ne_zero (by simp at enough; omega : fuel ≠ 0)
      have later := ih wellFormed (show rest.length ≤ fuel by simpa using enough)
      rw [encodeFields_cons, parseFieldsFrom_framed (field.framed wellFormedField _),
        headField_encode wellFormedField, field.readLength wellFormedField, ← Field.encode_length,
        List.drop_left' rfl, later, Option.map_some]

theorem length_le_encodeFields (fields : List Field) : fields.length ≤ (encodeFields fields).length := by
  induction fields with
  | nil => exact le_rfl
  | cons field rest ih =>
      rw [encodeFields_cons, List.length_append, Field.encode_length, List.length_cons]
      omega

theorem parseFields_encodeFields {fields : List Field} (wellFormed : ∀ field ∈ fields, field.WellFormed) :
    parseFields (encodeFields fields) = some fields :=
  parseFieldsFrom_encodeFields wellFormed (length_le_encodeFields fields)

variable {ε σ : Type*}

def foldFields (step : σ → Nat → Field → Except ε σ) : Nat → σ → List Field → Except ε σ
  | _, s, [] => .ok s
  | offset, s, field :: rest =>
      match step s offset field with
      | .error err => .error err
      | .ok s => foldFields step (offset + field.encode.length) s rest

theorem foldFields_cons_ok {step : σ → Nat → Field → Except ε σ} {offset : Nat} {s t : σ}
    {field : Field} {rest : List Field} :
    foldFields step offset s (field :: rest) = .ok t ↔ ∃ mid, step s offset field = .ok mid ∧
      foldFields step (offset + field.encode.length) mid rest = .ok t := by
  rw [foldFields]
  cases step s offset field <;> simp

theorem foldFields_append (step : σ → Nat → Field → Except ε σ) (offset : Nat) (s : σ)
    (first second : List Field) :
    foldFields step offset s (first ++ second) = (foldFields step offset s first).bind fun mid =>
      foldFields step (offset + (encodeFields first).length) mid second := by
  induction first generalizing offset s with
  | nil => rfl
  | cons field rest ih =>
      rw [List.cons_append, foldFields, foldFields, encodeFields_cons, List.length_append]
      cases step s offset field with
      | error err => rfl
      | ok mid => simp only [ih, Nat.add_assoc]

end NtsTimeServer.Lib
