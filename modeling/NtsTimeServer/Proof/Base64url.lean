import NtsTimeServer.Lib.BaseEncoding
import NtsTimeServer.Model.Base64url

namespace NtsTimeServer.Proof
open Model Lib

def urlSafeAlphabet : DigitAlphabet 6 where
  characters := (List.range 26).map (fun i => UInt8.ofNat (0x41 + i)) ++
    (List.range 26).map (fun i => UInt8.ofNat (0x61 + i)) ++
    (List.range 10).map (fun i => UInt8.ofNat (0x30 + i)) ++ [0x2D, 0x5F]
  complete := rfl
  distinct := by decide

structure MemoryObject where
  bytes : Bytes
  size : bytes.length < 2 ^ 31

structure ExactBase64url (input output : Bytes) : Prop where
  accepted : (∃ written, base64url input output = .ok written) ↔
    (urlSafeAlphabet.encode input).length + 1 ≤ output.length
  refused : ∀ halt, base64url input output = .error halt → halt = .error .invalidSize
  written : ∀ written, base64url input output = .ok written →
    written = writeAt output 0 (urlSafeAlphabet.encode input ++ [0]) ∧ written.length = output.length
  decoded : urlSafeAlphabet.decode (urlSafeAlphabet.encode input) = some input

theorem encoded_length (input : Bytes) :
    (urlSafeAlphabet.encode input).length = (8 * input.length + 5) / 6 :=
  urlSafeAlphabet.encode_length input

theorem base64urlUnpadded_eq {length : Nat} (small : length < 2 ^ 31) :
    base64urlUnpadded length = (8 * length + 5) / 6 := by
  have rounded : u32 (length + 2) = length + 2 := u32_eq (by omega)
  have required : u32 ((length + 2) / 3 * 4) = (length + 2) / 3 * 4 := u32_eq (by omega)
  have unpadded : (length + 2) / 3 * 4 = (8 * length + 5) / 6 + (3 - length % 3) % 3 := by omega
  rw [base64urlUnpadded, rounded, required, unpadded, u32]
  omega

def urlSafeCharacter (index : Nat) : UInt8 := base64urlAlphabet.getD index 0

section
variable (a b c : UInt8)

theorem word_eq : a.toNat <<< 16 ||| b.toNat <<< 8 ||| c.toNat = beValue [a, b, c] := by
  have low : b.toNat <<< 8 ||| c.toNat = b.toNat <<< 8 + c.toNat :=
    (Nat.shiftLeft_add_eq_or_of_lt c.toNat_lt _).symm
  have small : b.toNat <<< 8 + c.toNat < 2 ^ 16 := by
    have := b.toNat_lt
    have := c.toNat_lt
    rw [Nat.shiftLeft_eq]
    omega
  rw [Nat.or_assoc, low, ← Nat.shiftLeft_add_eq_or_of_lt small, Nat.shiftLeft_eq, Nat.shiftLeft_eq]
  simp [beValue]
  omega

theorem shifted_digit (value count : Nat) : value >>> count &&& 0x3F = value / 2 ^ count % 64 := by
  rw [Nat.shiftRight_eq_div_pow]
  exact Nat.and_two_pow_sub_one_eq_mod _ 6

theorem encode_three : urlSafeAlphabet.encode [a, b, c] =
    [beValue [a, b, c] >>> 18 &&& 0x3F, beValue [a, b, c] >>> 12 &&& 0x3F,
      beValue [a, b, c] >>> 6 &&& 0x3F, beValue [a, b, c] &&& 0x3F].map urlSafeCharacter := by
  have last : beValue [a, b, c] &&& 0x3F = beValue [a, b, c] % 64 :=
    Nat.and_two_pow_sub_one_eq_mod _ 6
  have groups : bitGroups 6 [a, b, c] = numeral 64 4 (beValue [a, b, c]) := by
    simp [bitGroups, groupCount, padBits]
  rw [DigitAlphabet.encode, groups]
  simp only [shifted_digit, last, numeral, Nat.div_div_eq_div_mul]
  rfl

theorem encode_one : urlSafeAlphabet.encode [a] =
    [a.toNat <<< 16 >>> 18 &&& 0x3F, a.toNat <<< 16 >>> 12 &&& 0x3F].map urlSafeCharacter := by
  have groups : bitGroups 6 [a] = numeral 64 2 (beValue [a] * 2 ^ 4) := by
    simp [bitGroups, groupCount, padBits]
  have value : beValue [a] = a.toNat := by simp [beValue]
  have high : a.toNat * 2 ^ 16 / 2 ^ 18 = a.toNat * 2 ^ 4 / 64 := by omega
  have low : a.toNat * 2 ^ 16 / 2 ^ 12 = a.toNat * 2 ^ 4 := by omega
  rw [DigitAlphabet.encode, groups, value]
  simp only [shifted_digit, Nat.shiftLeft_eq, high, low]
  rfl

theorem encode_two : urlSafeAlphabet.encode [a, b] =
    [(a.toNat <<< 16 ||| b.toNat <<< 8) >>> 18 &&& 0x3F, (a.toNat <<< 16 ||| b.toNat <<< 8) >>> 12 &&& 0x3F,
      (a.toNat <<< 16 ||| b.toNat <<< 8) >>> 6 &&& 0x3F].map urlSafeCharacter := by
  have groups : bitGroups 6 [a, b] = numeral 64 3 (beValue [a, b] * 2 ^ 2) := by
    simp [bitGroups, groupCount, padBits]
  have word : a.toNat <<< 16 ||| b.toNat <<< 8 = beValue [a, b] * 2 ^ 8 := by
    have three := word_eq a b 0
    rw [UInt8.toNat_zero, Nat.or_zero] at three
    rw [three]
    simp [beValue]
  have first : beValue [a, b] * 2 ^ 8 / 2 ^ 18 = beValue [a, b] * 2 ^ 2 / 64 / 64 := by omega
  have second : beValue [a, b] * 2 ^ 8 / 2 ^ 12 = beValue [a, b] * 2 ^ 2 / 64 := by omega
  have third : beValue [a, b] * 2 ^ 8 / 2 ^ 6 = beValue [a, b] * 2 ^ 2 := by omega
  rw [DigitAlphabet.encode, groups, word]
  simp only [shifted_digit, first, second, third]
  rfl

end

theorem putAlphabet_ok {indices : List Nat} {output : Bytes} {out : Nat}
    (within : out + indices.length ≤ output.length) : putAlphabet output out indices =
      .ok (writeAt output out (indices.map urlSafeCharacter), out + indices.length) := by
  induction indices generalizing output out with
  | nil => simp [putAlphabet]
  | cons index rest ih =>
      rw [List.length_cons] at within
      have first : out + 1 ≤ output.length := by omega
      have stored : memcpy output out [base64urlAlphabet.getD index 0] 1 =
          (.ok (writeAt output out [urlSafeCharacter index]) : Except (Halt EspErr) Bytes) :=
        memcpy_all rfl first
      have same : (writeAt output out [urlSafeCharacter index]).length = output.length :=
        writeAt_length first
      have next := @writeAt_writeAt output [urlSafeCharacter index] (rest.map urlSafeCharacter) out (out + 1)
        (by omega) rfl
      rw [putAlphabet, stored, ok_bind, ih (by omega), next, List.length_cons, Nat.add_assoc,
        Nat.add_comm 1]
      rfl

theorem base64urlGroups_ok {input output : Bytes} {out : Nat}
    (within : out + (urlSafeAlphabet.encode input).length ≤ output.length) :
    base64urlGroups input output out = .ok (writeAt output out (urlSafeAlphabet.encode input),
      out + (urlSafeAlphabet.encode input).length) := by
  induction input, output, out using base64urlGroups.induct with
  | case1 output out => 
      have empty : urlSafeAlphabet.encode [] = [] := rfl
      simp [base64urlGroups, empty]
  | case2 a output out =>
      rw [encode_one, List.length_map] at within ⊢
      exact putAlphabet_ok within
  | case3 a b output out =>
      rw [encode_two, List.length_map] at within ⊢
      exact putAlphabet_ok within
  | case4 a b c input output out ih =>
      have split : urlSafeAlphabet.encode (a :: b :: c :: input) =
          urlSafeAlphabet.encode [a, b, c] ++ urlSafeAlphabet.encode input :=
        @DigitAlphabet.encode_append 6 urlSafeAlphabet (by decide) [a, b, c] 4 rfl input
      rw [split, List.length_append, encode_three, List.length_map] at within
      rw [split, encode_three, base64urlGroups, word_eq]
      generalize [beValue [a, b, c] >>> 18 &&& 0x3F, beValue [a, b, c] >>> 12 &&& 0x3F,
        beValue [a, b, c] >>> 6 &&& 0x3F, beValue [a, b, c] &&& 0x3F] = indices at within ⊢
      have same : (writeAt output out (indices.map urlSafeCharacter)).length = output.length :=
        writeAt_length (by rw [List.length_map]; omega)
      have next := @writeAt_writeAt output (indices.map urlSafeCharacter) (urlSafeAlphabet.encode input) out
        (out + indices.length) (by omega) (by rw [List.length_map])
      rw [putAlphabet_ok (by omega), ok_bind]
      change base64urlGroups input _ _ = _
      rw [ih _ _ (by omega), next, List.length_append, List.length_map, Nat.add_assoc]

/-! ## The encoder -/

theorem base64url_ok {input output : Bytes} (small : input.length < 2 ^ 31)
    (holds : (urlSafeAlphabet.encode input).length + 1 ≤ output.length) (enough : 2 ≤ output.length) :
    base64url input output = .ok (writeAt output 0 (urlSafeAlphabet.encode input ++ [0])) := by
  have count := encoded_length input
  have checked : ¬u32 (base64urlUnpadded input.length + 1) > output.length := by
    rw [base64urlUnpadded_eq small, u32_eq (by omega)]
    omega
  have same : (writeAt output 0 (urlSafeAlphabet.encode input)).length = output.length :=
    writeAt_length (by omega)
  have last := @writeAt_writeAt output (urlSafeAlphabet.encode input) [0] 0
    (0 + (urlSafeAlphabet.encode input).length) (by omega) rfl
  rw [base64url, if_neg (by omega), if_neg checked, base64urlGroups_ok (by omega), ok_bind,
    ← last]
  exact memcpy_all rfl (by omega)

theorem base64url_refused {input output : Bytes} (small : input.length < 2 ^ 31)
    (exceeds : ¬(urlSafeAlphabet.encode input).length + 1 ≤ output.length) (enough : 2 ≤ output.length) :
    base64url input output = .error (.error .invalidSize) := by
  have count := encoded_length input
  have checked : u32 (base64urlUnpadded input.length + 1) > output.length := by
    rw [base64urlUnpadded_eq small, u32_eq (by omega)]
    omega
  rw [base64url, if_neg (by omega), if_pos checked]

theorem base64url_exact (input : MemoryObject) {output : Bytes} (enough : 2 ≤ output.length) :
    ExactBase64url input.bytes output := by
  have decoded := urlSafeAlphabet.decode_encode (by decide) (by decide) input.bytes
  by_cases holds : (urlSafeAlphabet.encode input.bytes).length + 1 ≤ output.length
  · have encoded := base64url_ok input.size holds enough
    have length : (writeAt output 0 (urlSafeAlphabet.encode input.bytes ++ [0])).length = output.length :=
      writeAt_length (by simpa using holds)
    refine ⟨⟨fun _ => holds, fun _ => ⟨_, encoded⟩⟩, fun halt failed => ?_, fun written stored => ?_, decoded⟩
    · rw [encoded] at failed
      cases failed
    · rw [encoded] at stored
      cases stored
      exact ⟨rfl, length⟩
  · have refused := base64url_refused input.size holds enough
    refine ⟨⟨fun ⟨written, stored⟩ => ?_, fun fits => absurd fits holds⟩, fun halt failed => ?_,
      fun written stored => ?_, decoded⟩
    · rw [refused] at stored
      cases stored
    · rw [refused] at failed
      cases failed
      rfl
    · rw [refused] at stored
      cases stored

theorem base64url_exact_foob : ExactBase64url [0x66, 0x6F, 0x6F, 0x62] (List.replicate 7 0) :=
  base64url_exact ⟨[0x66, 0x6F, 0x6F, 0x62], by decide⟩ (by decide)

end NtsTimeServer.Proof
