import NtsTimeServer.Lib.Bytes

/-!
# Base 2^k encodings of byte strings

The bits of a string, with zero bits after them where the last group is not full, are cut into groups of `k`
bits, and each group is written as a character. There is no padding. RFC 4648 has `k` 4, 5 and 6.
-/

namespace NtsTimeServer.Lib

def numeral (base : Nat) : Nat → Nat → List Nat
  | 0, _ => []
  | count + 1, value => numeral base count (value / base) ++ [value % base]

def numeralValue (base : Nat) (digits : List Nat) : Nat :=
  digits.foldl (fun value digit => value * base + digit) 0

@[simp] theorem numeral_length (base count value : Nat) : (numeral base count value).length = count := by
  induction count generalizing value with
  | zero => rfl
  | succ count ih => simp [numeral, ih]

theorem numeral_add (base high low value : Nat) :
    numeral base (high + low) value = numeral base high (value / base ^ low) ++ numeral base low value := by
  induction low generalizing value with
  | zero => simp [numeral]
  | succ low ih =>
      rw [← Nat.add_assoc, numeral, ih, numeral, Nat.div_div_eq_div_mul, ← Nat.pow_succ',
        List.append_assoc]

theorem numeral_mod (base count value : Nat) :
    numeral base count (value % base ^ count) = numeral base count value := by
  induction count generalizing value with
  | zero => rfl
  | succ count ih =>
      rw [numeral, numeral, Nat.pow_succ', Nat.mod_mul_right_div_self, ih, Nat.mod_mul_right_mod]

theorem numeral_lt {base : Nat} (positive : 0 < base) (count value : Nat) :
    ∀ digit ∈ numeral base count value, digit < base := by
  induction count generalizing value with
  | zero => exact nofun
  | succ count ih =>
      exact List.forall_mem_append.mpr ⟨ih _, List.forall_mem_singleton.mpr (Nat.mod_lt _ positive)⟩

theorem numeralValue_numeral (base count value : Nat) :
    numeralValue base (numeral base count value) = value % base ^ count := by
  induction count generalizing value with
  | zero => simp [numeral, numeralValue, Nat.mod_one]
  | succ count ih =>
      have high : (numeral base count (value / base)).foldl (fun value digit => value * base + digit) 0 =
          value / base % base ^ count := ih (value / base)
      rw [numeral, numeralValue, List.foldl_append, high, List.foldl_cons, List.foldl_nil, Nat.pow_succ',
        Nat.mod_mul]
      ring

/-! ## Groups of bits -/

/-- The groups that `length` bytes fill, the last one perhaps in part. -/
def groupCount (bits length : Nat) : Nat := (8 * length + bits - 1) / bits

def padBits (bits length : Nat) : Nat := bits * groupCount bits length - 8 * length

def bitGroups (bits : Nat) (data : Bytes) : List Nat :=
  numeral (2 ^ bits) (groupCount bits data.length) (beValue data * 2 ^ padBits bits data.length)

def groupBytes (bits : Nat) (groups : List Nat) : Bytes :=
  let length := bits * groups.length / 8
  beBytes length (numeralValue (2 ^ bits) groups / 2 ^ (bits * groups.length - 8 * length))

section
variable {bits : Nat}

theorem groupCount_bounds (positive : 0 < bits) (length : Nat) :
    8 * length ≤ bits * groupCount bits length ∧ bits * groupCount bits length < 8 * length + bits := by
  have low := Nat.div_add_mod (8 * length + bits - 1) bits
  have less := Nat.mod_lt (8 * length + bits - 1) positive
  rw [groupCount]
  omega

@[simp] theorem bitGroups_length (data : Bytes) :
    (bitGroups bits data).length = groupCount bits data.length := numeral_length _ _ _

theorem groupBytes_bitGroups (positive : 0 < bits) (small : bits ≤ 8) (data : Bytes) :
    groupBytes bits (bitGroups bits data) = data := by
  obtain ⟨enough, few⟩ := groupCount_bounds positive data.length
  have bytes : bits * groupCount bits data.length / 8 = data.length := by omega
  have fits : beValue data * 2 ^ padBits bits data.length < (2 ^ bits) ^ groupCount bits data.length := by
    have whole : bits * groupCount bits data.length = 8 * data.length + padBits bits data.length := by
      rw [padBits]
      omega
    rw [← Nat.pow_mul, whole, Nat.pow_add, Nat.pow_mul]
    exact Nat.mul_lt_mul_of_pos_right (beValue_lt data) (Nat.two_pow_pos _)
  rw [groupBytes, bitGroups_length, bytes, bitGroups, numeralValue_numeral, Nat.mod_eq_of_lt fits]
  change beBytes _ (beValue data * 2 ^ padBits bits data.length / 2 ^ padBits bits data.length) = data
  rw [Nat.mul_div_cancel _ (Nat.two_pow_pos _), beBytes_beValue]

theorem groupCount_add (positive : 0 < bits) {first count : Nat} (full : 8 * first = bits * count)
    (second : Nat) : groupCount bits (first + second) = count + groupCount bits second := by
  have total : 8 * (first + second) + bits - 1 = bits * count + (8 * second + bits - 1) := by omega
  rw [groupCount, total, Nat.mul_add_div positive, groupCount]

theorem padBits_add (positive : 0 < bits) {first count : Nat} (full : 8 * first = bits * count)
    (second : Nat) : padBits bits (first + second) = padBits bits second := by
  rw [padBits, padBits, groupCount_add positive full, Nat.mul_add]
  omega

theorem bitGroups_append (positive : 0 < bits) {first : Bytes} {count : Nat}
    (full : 8 * first.length = bits * count) (second : Bytes) :
    bitGroups bits (first ++ second) = bitGroups bits first ++ bitGroups bits second := by
  obtain ⟨enough, -⟩ := groupCount_bounds positive second.length
  have alone : groupCount bits first.length = count ∧ padBits bits first.length = 0 := by
    have none : groupCount bits 0 = 0 := Nat.div_eq_of_lt (by omega)
    have added := groupCount_add positive full 0
    rw [Nat.add_zero, none, Nat.add_zero] at added
    rw [padBits, added]
    omega
  have whole : 256 ^ second.length * 2 ^ padBits bits second.length =
      (2 ^ bits) ^ groupCount bits second.length := by
    have bitCount : 8 * second.length + padBits bits second.length =
        bits * groupCount bits second.length := by
      rw [padBits]
      omega
    rw [← Nat.pow_mul, ← bitCount, Nat.pow_add, Nat.pow_mul]
  have below : beValue second * 2 ^ padBits bits second.length <
      (2 ^ bits) ^ groupCount bits second.length := by
    rw [← whole]
    exact Nat.mul_lt_mul_of_pos_right (beValue_lt second) (Nat.two_pow_pos _)
  have base : 0 < (2 ^ bits) ^ groupCount bits second.length := Nat.pow_pos (Nat.two_pow_pos _)
  rw [bitGroups, List.length_append, groupCount_add positive full, padBits_add positive full,
    beValue_append, Nat.add_mul, Nat.mul_assoc, whole, numeral_add, Nat.mul_comm (beValue first),
    Nat.mul_add_div base, Nat.div_eq_of_lt below, Nat.add_zero, ← numeral_mod _ _ (_ + _),
    Nat.mul_add_mod, numeral_mod, bitGroups, alone.1, alone.2, Nat.pow_zero, Nat.mul_one, bitGroups]

end

/-! ## Characters -/

structure DigitAlphabet (bits : Nat) where
  characters : Bytes
  complete : characters.length = 2 ^ bits
  distinct : characters.Nodup

namespace DigitAlphabet

variable {bits : Nat} (alphabet : DigitAlphabet bits)

def encode (data : Bytes) : Bytes := (bitGroups bits data).map fun digit => alphabet.characters.getD digit 0

/-- The bytes of a text; none where a character is not of the alphabet. -/
def decode (text : Bytes) : Option Bytes :=
  if text.all alphabet.characters.contains then
    some (groupBytes bits (text.map alphabet.characters.idxOf))
  else none

theorem character_mem {digit : Nat} (small : digit < 2 ^ bits) :
    alphabet.characters.getD digit 0 ∈ alphabet.characters ∧
      alphabet.characters.idxOf (alphabet.characters.getD digit 0) = digit := by
  have inside : digit < alphabet.characters.length := alphabet.complete ▸ small
  rw [List.getD_eq_getElem?_getD, List.getElem?_eq_getElem inside, Option.getD_some]
  exact ⟨List.getElem_mem inside, alphabet.distinct.idxOf_getElem digit inside⟩

theorem decode_encode (positive : 0 < bits) (small : bits ≤ 8) (data : Bytes) :
    alphabet.decode (alphabet.encode data) = some data := by
  have digits := numeral_lt (Nat.two_pow_pos bits) (groupCount bits data.length)
    (beValue data * 2 ^ padBits bits data.length)
  have indices : (alphabet.encode data).map alphabet.characters.idxOf = bitGroups bits data := by
    rw [encode, List.map_map]
    refine (List.map_congr_left fun digit member => ?_).trans (List.map_id _)
    exact (alphabet.character_mem (digits digit member)).2
  rw [decode, indices, groupBytes_bitGroups positive small, if_pos]
  simp only [encode, List.all_map, List.all_eq_true, Function.comp_apply, List.contains_iff_mem]
  exact fun digit member => (alphabet.character_mem (digits digit member)).1

theorem mem_of_mem_encode (data : Bytes) :
    ∀ c ∈ alphabet.encode data, c ∈ alphabet.characters := by
  have digits := numeral_lt (Nat.two_pow_pos bits) (groupCount bits data.length)
    (beValue data * 2 ^ padBits bits data.length)
  rw [encode, List.forall_mem_map]
  exact fun digit member => (alphabet.character_mem (digits digit member)).1

theorem encode_append (positive : 0 < bits) {first : Bytes} {count : Nat}
    (full : 8 * first.length = bits * count) (second : Bytes) :
    alphabet.encode (first ++ second) = alphabet.encode first ++ alphabet.encode second := by
  rw [encode, bitGroups_append positive full, List.map_append, encode, encode]

theorem encode_length (data : Bytes) : (alphabet.encode data).length = groupCount bits data.length := by
  simp [encode]

end DigitAlphabet

end NtsTimeServer.Lib
