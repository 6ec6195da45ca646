import Mathlib.Algebra.Group.Nat.Defs
import Mathlib.Data.List.Induction
import Mathlib.Order.Nat
import Mathlib.Tactic.Ring

/-!
# Byte strings

Words of several bytes, writes into a buffer, and exclusive or.
-/

namespace NtsTimeServer.Lib

abbrev Bytes := List UInt8

/-- The byte at an offset, zero past the end. -/
def byteAt (bytes : Bytes) (offset : Nat) : Nat := (bytes.getD offset 0).toNat

def readLe32 (bytes : Bytes) (offset : Nat) : Nat :=
  byteAt bytes offset + byteAt bytes (offset + 1) * 256 + byteAt bytes (offset + 2) * 65536 +
    byteAt bytes (offset + 3) * 16777216

def beValue (bytes : Bytes) : Nat := bytes.foldl (fun value byte => value * 256 + byte.toNat) 0

def readBe (count : Nat) (bytes : Bytes) (offset : Nat) : Nat :=
  beValue ((bytes.drop offset).take count)

abbrev readBe16 (bytes : Bytes) (offset : Nat) : Nat := readBe 2 bytes offset

abbrev readBe32 (bytes : Bytes) (offset : Nat) : Nat := readBe 4 bytes offset

abbrev readBe64 (bytes : Bytes) (offset : Nat) : Nat := readBe 8 bytes offset

def beBytes : Nat → Nat → Bytes
  | 0, _ => []
  | count + 1, value => beBytes count (value / 256) ++ [UInt8.ofNat value]

@[simp] theorem beBytes_length (count value : Nat) : (beBytes count value).length = count := by
  induction count generalizing value with
  | zero => rfl
  | succ count ih => simp [beBytes, ih]

theorem beBytes_add (high low value : Nat) :
    beBytes (high + low) value = beBytes high (value / 256 ^ low) ++ beBytes low value := by
  induction low generalizing value with
  | zero => simp [beBytes]
  | succ low ih =>
      rw [← Nat.add_assoc, beBytes, ih, beBytes, Nat.div_div_eq_div_mul, ← Nat.pow_succ',
        List.append_assoc]

theorem beValue_beBytes (count value : Nat) : beValue (beBytes count value) = value % 256 ^ count := by
  induction count generalizing value with
  | zero => simp [beBytes, beValue, Nat.mod_one]
  | succ count ih =>
      have high : (beBytes count (value / 256)).foldl (fun value byte => value * 256 + byte.toNat) 0 =
          value / 256 % 256 ^ count := ih (value / 256)
      rw [beBytes, beValue, List.foldl_append, high, List.foldl_cons, List.foldl_nil, Nat.pow_succ',
        Nat.mod_mul, UInt8.toNat_ofNat']
      omega

theorem readBe_beBytes_append {count value : Nat} (fits : value < 256 ^ count) (rest : Bytes) :
    readBe count (beBytes count value ++ rest) 0 = value := by
  rw [readBe, List.drop_zero, List.take_left' (beBytes_length count value), beValue_beBytes,
    Nat.mod_eq_of_lt fits]

theorem readBe_append_right (count : Nat) {first : Bytes} (second : Bytes) {offset : Nat}
    (past : first.length ≤ offset) :
    readBe count (first ++ second) offset = readBe count second (offset - first.length) := by
  rw [readBe, readBe, List.drop_append, List.drop_eq_nil_of_le past, List.nil_append]

theorem readBe_skip (count : Nat) {size offset : Nat} (past : size ≤ offset) (value : Nat)
    (rest : Bytes) :
    readBe count (beBytes size value ++ rest) offset = readBe count rest (offset - size) := by
  rw [readBe_append_right count rest (by rwa [beBytes_length]), beBytes_length]

theorem beValue_append_singleton (bytes : Bytes) (byte : UInt8) :
    beValue (bytes ++ [byte]) = beValue bytes * 256 + byte.toNat := by
  simp [beValue]

theorem beValue_append (first second : Bytes) :
    beValue (first ++ second) = beValue first * 256 ^ second.length + beValue second := by
  induction second using List.reverseRecOn with
  | nil => simp [beValue]
  | append_singleton second byte ih =>
      rw [← List.append_assoc, beValue_append_singleton, ih, beValue_append_singleton,
        List.length_append, List.length_singleton, Nat.pow_succ]
      ring

theorem beValue_cons (byte : UInt8) (bytes : Bytes) :
    beValue (byte :: bytes) = byte.toNat * 256 ^ bytes.length + beValue bytes := by
  induction bytes using List.reverseRecOn with
  | nil => simp [beValue]
  | append_singleton bytes last ih =>
      rw [← List.cons_append, beValue_append_singleton, ih, beValue_append_singleton,
        List.length_append, List.length_singleton, Nat.pow_succ]
      ring

theorem testBit_beValue (bytes : Bytes) (i : Nat) : (beValue bytes).testBit i =
    (decide (i / 8 < bytes.length) && (byteAt bytes (bytes.length - 1 - i / 8)).testBit (i % 8)) := by
  induction bytes using List.reverseRecOn generalizing i with
  | nil => simp [beValue]
  | append_singleton bytes byte ih =>
      have word : beValue (bytes ++ [byte]) = 2 ^ 8 * beValue bytes + byte.toNat := by
        rw [beValue_append_singleton]
        omega
      rw [word, Nat.testBit_two_pow_mul_add _ byte.toNat_lt, List.length_append,
        List.length_singleton, Nat.add_sub_cancel]
      split
      next low =>
        rw [Nat.div_eq_of_lt low, Nat.mod_eq_of_lt low]
        simp [byteAt]
      next high =>
        have index : (i - 8) / 8 = i / 8 - 1 ∧ (i - 8) % 8 = i % 8 ∧ 0 < i / 8 := by omega
        rw [ih, index.1, index.2.1]
        by_cases inside : i / 8 < bytes.length + 1
        · have earlier : bytes.length - 1 - (i / 8 - 1) = bytes.length - i / 8 := by omega
          have before : bytes.length - i / 8 < bytes.length := by omega
          have inside' : i / 8 - 1 < bytes.length := by omega
          simp only [inside, inside', earlier, byteAt, List.getD_eq_getElem?_getD,
            List.getElem?_append_left before]
        · have outside : ¬i / 8 - 1 < bytes.length := by omega
          simp [inside, outside]

theorem beValue_lt (bytes : Bytes) : beValue bytes < 256 ^ bytes.length := by
  induction bytes using List.reverseRecOn with
  | nil => exact Nat.one_pos
  | append_singleton bytes byte ih =>
      have := byte.toNat_lt
      rw [beValue_append_singleton, List.length_append, List.length_singleton, Nat.pow_succ]
      omega

theorem beBytes_beValue (bytes : Bytes) : beBytes bytes.length (beValue bytes) = bytes := by
  induction bytes using List.reverseRecOn with
  | nil => rfl
  | append_singleton bytes byte ih =>
      have := byte.toNat_lt
      have high : (beValue bytes * 256 + byte.toNat) / 256 = beValue bytes := by omega
      have low : UInt8.ofNat (beValue bytes * 256 + byte.toNat) = byte := by
        apply UInt8.toNat_inj.mp
        rw [UInt8.toNat_ofNat']
        omega
      rw [beValue_append_singleton, List.length_append, List.length_singleton, beBytes, high, low, ih]

theorem readBe_lt (count : Nat) (bytes : Bytes) (offset : Nat) :
    readBe count bytes offset < 256 ^ count :=
  (beValue_lt _).trans_le (Nat.pow_le_pow_right (by decide) (List.length_take_le _ _))

theorem beBytes_readBe {count offset : Nat} {bytes : Bytes} (within : offset + count ≤ bytes.length) :
    beBytes count (readBe count bytes offset) = (bytes.drop offset).take count := by
  have length : ((bytes.drop offset).take count).length = count := by
    rw [List.length_take, List.length_drop]
    omega
  have written := beBytes_beValue ((bytes.drop offset).take count)
  rwa [length] at written

theorem drop_eq_word_append {count offset : Nat} {bytes : Bytes}
    (within : offset + count ≤ bytes.length) :
    bytes.drop offset = beBytes count (readBe count bytes offset) ++ bytes.drop (offset + count) := by
  rw [beBytes_readBe within, ← List.drop_drop, List.take_append_drop]

theorem split_eq_iff {bytes first second : Bytes} {count : Nat} (length : first.length = count) :
    (bytes.take count, bytes.drop count) = (first, second) ↔ bytes = first ++ second := by
  constructor
  · intro split
    obtain ⟨rfl, rfl⟩ := Prod.mk.inj split
    exact (List.take_append_drop count bytes).symm
  · rintro rfl
    rw [List.take_left' length, List.drop_left' length]

/-! ## Windows -/

def window (bytes : Bytes) (offset count : Nat) : Bytes := (bytes.drop offset).take count

theorem getElem?_window (bytes : Bytes) (offset count index : Nat) :
    (window bytes offset count)[index]? = if index < count then bytes[offset + index]? else none := by
  rw [window, List.getElem?_take, List.getElem?_drop]

theorem window_add (bytes : Bytes) (offset first second : Nat) :
    window bytes offset (first + second) =
      window bytes offset first ++ window bytes (offset + first) second := by
  rw [window, List.take_add, List.drop_drop, window, window]

theorem window_take {bytes : Bytes} {offset count total : Nat} (within : offset + count ≤ total) :
    window (bytes.take total) offset count = window bytes offset count := by
  rw [window, window, List.drop_take, List.take_take, min_eq_left (by omega)]

theorem window_append_right {first : Bytes} (second : Bytes) {offset : Nat}
    (past : first.length ≤ offset) (count : Nat) :
    window (first ++ second) offset count = window second (offset - first.length) count := by
  rw [window, window, List.drop_append, List.drop_eq_nil_of_le past, List.nil_append]

theorem window_append_left (first second : Bytes) : window (first ++ second) 0 first.length = first := by
  rw [window, List.drop_zero, List.take_left' rfl]

theorem window_length {bytes : Bytes} {offset count : Nat} (within : offset + count ≤ bytes.length) :
    (window bytes offset count).length = count := by
  rw [window, List.length_take, List.length_drop]
  omega

theorem window_readBe {bytes : Bytes} {offset count : Nat} (within : offset + count ≤ bytes.length) :
    window bytes offset count = beBytes count (readBe count bytes offset) :=
  (beBytes_readBe within).symm

def writeAt (buffer : Bytes) (offset : Nat) (data : Bytes) : Bytes :=
  buffer.take offset ++ data ++ buffer.drop (offset + data.length)

@[simp] theorem writeAt_zero (buffer data : Bytes) :
    writeAt buffer 0 data = data ++ buffer.drop data.length := by
  simp [writeAt]

@[simp] theorem writeAt_nil (buffer : Bytes) (offset : Nat) : writeAt buffer offset [] = buffer := by
  simp [writeAt]

theorem getElem?_writeAt {buffer data : Bytes} {offset index : Nat}
    (within : offset + data.length ≤ buffer.length)
    (outside : index < offset ∨ offset + data.length ≤ index) :
    (writeAt buffer offset data)[index]? = buffer[index]? := by
  have before : (buffer.take offset).length = offset := by
    rw [List.length_take]
    omega
  rw [writeAt, List.append_assoc]
  rcases outside with below | beyond
  · rw [List.getElem?_append_left (by omega), List.getElem?_take, if_pos below]
  · rw [List.getElem?_append_right (by omega), List.getElem?_append_right (by omega),
      List.getElem?_drop]
    congr 1
    omega

theorem window_writeAt {buffer data : Bytes} {offset start count : Nat}
    (within : offset + data.length ≤ buffer.length)
    (outside : start + count ≤ offset ∨ offset + data.length ≤ start) :
    window (writeAt buffer offset data) start count = window buffer start count := by
  apply List.ext_getElem?
  intro index
  rw [getElem?_window, getElem?_window]
  split
  · exact getElem?_writeAt within (by omega)
  · rfl

theorem window_written {buffer : Bytes} (data : Bytes) {offset : Nat} (within : offset ≤ buffer.length) :
    window (writeAt buffer offset data) offset data.length = data := by
  have before : (buffer.take offset).length = offset := by
    rw [List.length_take]
    omega
  rw [window, writeAt, List.append_assoc, List.drop_left' before, List.take_left' rfl]

theorem take_writeAt_zero (buffer data : Bytes) : (writeAt buffer 0 data).take data.length = data := by
  simp

def zeroFirst (buffer : Bytes) (count : Nat) : Bytes := writeAt buffer 0 (List.replicate count 0)

@[simp] theorem take_zeroFirst (buffer : Bytes) (count : Nat) :
    (zeroFirst buffer count).take count = List.replicate count 0 := by
  simp [zeroFirst]

/-! ## Exclusive or -/

def xorBytes (left right : Bytes) : Bytes := List.zipWith (· ^^^ ·) left right

theorem xorBytes_comm (left right : Bytes) : xorBytes left right = xorBytes right left :=
  List.zipWith_comm_of_comm UInt8.xor_comm

def xorStream (stream : Nat → UInt8) (data : Bytes) : Bytes :=
  data.mapIdx fun index byte => byte ^^^ stream index

@[simp] theorem xorStream_length (stream : Nat → UInt8) (data : Bytes) :
    (xorStream stream data).length = data.length := by
  simp [xorStream]

@[simp] theorem xorStream_xorStream (stream : Nat → UInt8) (data : Bytes) :
    xorStream stream (xorStream stream data) = data := by
  apply List.ext_getElem?
  intro index
  simp only [xorStream, List.getElem?_mapIdx, Option.map_map]
  cases data[index]? with
  | none => rfl
  | some byte =>
      rw [Option.map_some, Function.comp_apply, UInt8.xor_assoc, UInt8.xor_self, UInt8.xor_zero]

def constantTimeEqual (left right : Bytes) : Bool :=
  (xorBytes left right).foldl (· ||| ·) 0 == 0

theorem foldl_or_eq_zero (differences : Bytes) (acc : UInt8) :
    differences.foldl (· ||| ·) acc = 0 ↔ acc = 0 ∧ ∀ difference ∈ differences, difference = 0 := by
  induction differences generalizing acc with
  | nil => simp
  | cons difference rest ih =>
      rw [List.foldl_cons, ih, UInt8.or_eq_zero_iff]
      simp [and_assoc]

theorem constantTimeEqual_iff {left right : Bytes} (same : left.length = right.length) :
    constantTimeEqual left right = true ↔ left = right := by
  rw [constantTimeEqual, beq_iff_eq, foldl_or_eq_zero, xorBytes]
  induction left generalizing right with
  | nil =>
      rw [List.length_nil] at same
      simp [List.eq_nil_of_length_eq_zero same.symm]
  | cons a left ih =>
      cases right with
      | nil => cases same
      | cons b right =>
          have tails := ih (Nat.succ.inj same)
          simp only [true_and] at tails
          simp only [List.zipWith_cons_cons, List.mem_cons, forall_eq_or_imp, true_and, tails,
            UInt8.xor_eq_zero_iff, List.cons.injEq]

end NtsTimeServer.Lib
