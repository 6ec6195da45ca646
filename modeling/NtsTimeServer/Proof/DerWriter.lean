import NtsTimeServer.Lib.Der
import NtsTimeServer.Model.Csr

namespace NtsTimeServer.Proof
open Model Lib

variable {size bound : Nat} {array out data : Bytes} {length : Nat}

structure Occupies (size bound : Nat) (filled : Filled) (data : Bytes) : Prop where
  size : filled.1.length = size
  length : filled.2 = data.length
  bound : data.length ≤ bound
  data : data <+: filled.1

theorem Occupies.mono {filled : Filled} {more : Nat} (held : Occupies size bound filled data)
    (less : bound ≤ more) : Occupies size more filled data :=
  { held with bound := held.bound.trans less }

theorem Occupies.take {filled : Filled} (held : Occupies size bound filled data) :
    filled.1.take filled.2 = data := by
  rw [held.length]
  exact (List.prefix_iff_eq_take.mp held.data).symm

theorem Occupies.reads {filled : Filled} (held : Occupies size bound filled data) :
    filled.2 ≤ filled.1.length := by
  rw [held.length]
  exact held.data.length_le

theorem occupies_all (most : data.length ≤ bound) : Occupies data.length bound (data, data.length) data :=
  ⟨rfl, rfl, most, List.prefix_rfl⟩

theorem memcpy_held {m p q : Nat} {source : Filled} {offset : Nat} {before : Bytes}
    (held : Occupies m q source data) (begun : before <+: out) (ended : offset = before.length)
    (short : before.length ≤ p) (sized : out.length = size) (room : p + q ≤ size) :
    Succeeds (memcpy out offset source.1 source.2 : Except (Halt EspErr) Bytes) fun out =>
      out.length = size ∧ before ++ data <+: out := by
  have length := held.length
  have most := held.bound
  have copied := @memcpy_append EspErr out source.1 before offset source.2 begun ended held.reads (by omega)
  rwa [held.take, sized] at copied

theorem derConcat2_occupies {m n p q : Nat} {first second : Filled} {x y : Bytes}
    (heldFirst : Occupies m p first x) (heldSecond : Occupies n q second y) (sized : out.length = size)
    (room : p + q ≤ size) :
    Succeeds (derConcat2 first.1 first.2 second.1 second.2 out) fun filled =>
      Occupies size (p + q) filled (x ++ y) := by
  have lengthFirst := heldFirst.length
  have lengthSecond := heldSecond.length
  have mostFirst := heldFirst.bound
  have mostSecond := heldSecond.bound
  rw [derConcat2, if_neg (by omega)]
  apply (memcpy_held heldFirst List.nil_prefix rfl (Nat.zero_le 0) sized (by omega)).bind
  rintro array ⟨sized, begun⟩
  apply (memcpy_held heldSecond begun (by rw [lengthFirst, List.nil_append]) mostFirst sized room).bind
  rintro array ⟨sized, begun⟩
  refine succeeds_ok ⟨sized, ?_, ?_, begun⟩
  · rw [List.length_append, lengthFirst, lengthSecond]
  · rw [List.length_append]
    omega

theorem derConcat3_occupies {m n k p q r : Nat} {first second third : Filled} {x y z : Bytes}
    (heldFirst : Occupies m p first x) (heldSecond : Occupies n q second y) (heldThird : Occupies k r third z)
    (sized : out.length = size) (room : p + q + r ≤ size) :
    Succeeds (derConcat3 first.1 first.2 second.1 second.2 third.1 third.2 out) fun filled =>
      Occupies size (p + q + r) filled (x ++ y ++ z) := by
  have lengthFirst := heldFirst.length
  have lengthSecond := heldSecond.length
  have lengthThird := heldThird.length
  have mostFirst := heldFirst.bound
  have mostSecond := heldSecond.bound
  have mostThird := heldThird.bound
  rw [derConcat3, if_neg (by omega)]
  apply (memcpy_held heldFirst List.nil_prefix rfl (Nat.zero_le 0) sized (by omega)).bind
  rintro array ⟨sized, begun⟩
  rw [List.nil_append] at begun
  apply (memcpy_held heldSecond begun lengthFirst mostFirst sized (by omega)).bind
  rintro array ⟨sized, begun⟩
  have length : (x ++ y).length = x.length + y.length := List.length_append
  apply (memcpy_held heldThird begun (by omega) (show (x ++ y).length ≤ p + q by omega) sized room).bind
  rintro array ⟨sized, begun⟩
  refine succeeds_ok ⟨sized, ?_, ?_, begun⟩
  · rw [List.length_append]
    omega
  · rw [List.length_append]
    omega

theorem derPutLength_writes {n offset : Nat} {before : Bytes} (short : n < 65536) (begun : before <+: out)
    (ended : offset = before.length) (room : offset + 3 ≤ out.length) :
    Succeeds (derPutLength out offset n) fun filled =>
      filled.1.length = out.length ∧ filled.2 = (lengthOctets n).length ∧
        before ++ lengthOctets n <+: filled.1 := by
  have written {octets : Bytes} (few : octets.length ≤ 3) :
      Succeeds (memcpy out offset octets octets.length : Except (Halt EspErr) Bytes) fun out' =>
        out'.length = out.length ∧ before ++ octets <+: out' := by
    have copied := @memcpy_append EspErr out octets before offset octets.length begun ended le_rfl (by omega)
    rwa [List.take_length] at copied
  rw [derPutLength]
  by_cases one : n < 128
  · have octets : lengthOctets n = [UInt8.ofNat n] := by rw [lengthOctets, if_pos one]
    rw [if_pos one, if_neg (by omega), octets]
    apply (written (show [UInt8.ofNat n].length ≤ 3 by simp)).bind
    rintro array ⟨sized, begun⟩
    exact succeeds_ok ⟨sized, rfl, begun⟩
  · by_cases two : n ≤ 255
    · rw [if_neg one, if_pos two, if_neg (by omega), lengthOctets_medium (by omega) (by omega)]
      apply (written (show [0x81, UInt8.ofNat n].length ≤ 3 by simp)).bind
      rintro array ⟨sized, begun⟩
      exact succeeds_ok ⟨sized, rfl, begun⟩
    · rw [if_neg one, if_neg two, if_pos (by omega), if_neg (by omega), Nat.shiftRight_eq_div_pow,
        lengthOctets_large (by omega) short]
      apply (written (show [0x82, UInt8.ofNat (n / 256), UInt8.ofNat n].length ≤ 3 by simp)).bind
      rintro array ⟨sized, begun⟩
      exact succeeds_ok ⟨sized, rfl, begun⟩

theorem derWrap_occupies {m p : Nat} {content : Filled} (held : Occupies m p content data)
    (sized : out.length = size) (room : p + 4 ≤ size) (short : p < 65536) (tag : UInt8) :
    Succeeds (derWrap tag content.1 content.2 out) fun filled =>
      Occupies size (p + 4) filled (tagged tag data) := by
  have length := held.length
  have most := held.bound
  have longest := tagged_length_le (show data.length < 65536 by omega) tag
  have whole := tagged_length tag data
  rw [derWrap, if_neg (by omega)]
  apply (@memcpy_append EspErr out [tag] [] 0 1 List.nil_prefix rfl le_rfl (by simp; omega)).bind
  rintro array ⟨sizedTag, begun⟩
  apply (@derPutLength_writes array content.2 1 [tag] (by omega) begun rfl (by omega)).bind
  rintro ⟨array', ll⟩ ⟨sizedLength, written, begun⟩
  dsimp only at sizedLength written begun ⊢
  rw [length] at written begun
  rw [if_neg (by omega)]
  have header : 1 + ll = ([tag] ++ lengthOctets data.length).length := by
    rw [written, List.length_append, List.length_singleton]
  have total : ([tag] ++ lengthOctets data.length).length + data.length =
      (tagged tag data).length := by
    rw [whole, List.length_append, List.length_singleton]
  have assembled : tagged tag data = [tag] ++ lengthOctets data.length ++ data := by simp [tagged]
  have done (array : Bytes) (sized : array.length = size) (begun : tagged tag data <+: array) :
      Occupies size (p + 4) (array, 1 + ll + content.2) (tagged tag data) :=
    ⟨sized, by dsimp only; omega, by omega, begun⟩
  split
  · rw [assembled] at done ⊢
    apply (memcpy_held held begun header le_rfl (show array'.length = size by omega) (by omega)).bind
    rintro array'' ⟨sized, begun⟩
    exact succeeds_ok (done array'' sized begun)
  next empty =>
    have nil : data = [] := List.eq_nil_of_length_eq_zero (by omega)
    refine succeeds_ok (done array' (by omega) ?_)
    rw [assembled, nil, List.append_nil]
    rwa [nil] at begun

/-! ## Signatures -/

theorem skipZeros_minimal {v : Bytes} (length : 32 ≤ v.length) {left : Nat} (within : left ≤ 31) :
    Succeeds (skipZeros v left) fun off =>
      off ≤ 31 ∧ (v.take 32).drop off = minimalOctets ((v.take 32).drop (31 - left)) := by
  have taken : (v.take 32).length = 32 := by rw [List.length_take, min_eq_left length]
  induction left with
  | zero =>
      refine succeeds_ok ⟨le_rfl, ?_⟩
      have last : ((v.take 32).drop 31).length = 1 := by rw [List.length_drop, taken]
      obtain ⟨byte, one⟩ := List.length_eq_one_iff.mp last
      rw [one]
      rfl
  | succ left ih =>
      have index : 31 - (left + 1) < v.length := by omega
      have start : 31 - (left + 1) < (v.take 32).length := by omega
      have next : 31 - (left + 1) + 1 < (v.take 32).length := by omega
      have here : (v.take 32).drop (31 - (left + 1)) =
          v[31 - (left + 1)] :: (v.take 32)[31 - (left + 1) + 1] ::
            (v.take 32).drop (31 - (left + 1) + 1 + 1) := by
        rw [List.drop_eq_getElem_cons start, List.drop_eq_getElem_cons next, List.getElem_take]
      have byte : byteAt v (31 - (left + 1)) = (v[31 - (left + 1)]).toNat := by
        rw [byteAt, List.getD_eq_getElem?_getD, List.getElem?_eq_getElem index, Option.getD_some]
      rw [skipZeros, loadByte_ok index, ok_bind, byte]
      by_cases zero : (v[31 - (left + 1)]).toNat = 0
      · have zero' : v[31 - (left + 1)] = 0 := UInt8.toNat_inj.mp zero
        have later : (v.take 32)[31 - (left + 1) + 1] :: (v.take 32).drop (31 - (left + 1) + 1 + 1) =
            (v.take 32).drop (31 - left) := by
          rw [← List.drop_eq_getElem_cons next]
          congr 1
          omega
        rw [if_pos zero, here, minimalOctets, if_pos zero', later]
        exact ih (by omega)
      · have nonzero : ¬v[31 - (left + 1)] = 0 := fun same => zero (by rw [same]; rfl)
        rw [if_neg zero]
        refine succeeds_ok ⟨by omega, ?_⟩
        rw [here, minimalOctets, if_neg nonzero]

theorem land_top (byte : UInt8) : byte.toNat &&& 0x80 ≠ 0 ↔ 128 ≤ byte.toNat := by
  have all : ∀ n : Fin 256, n.val &&& 0x80 ≠ 0 ↔ 128 ≤ n.val := by decide +kernel
  exact all ⟨byte.toNat, byte.toNat_lt⟩

theorem tagged_short {content : Bytes} (short : content.length < 128) (tag : UInt8) :
    tagged tag content = [tag, UInt8.ofNat content.length] ++ content := by
  rw [tagged, lengthOctets, if_pos short]
  rfl

theorem putInteger_occupies {v : Bytes} {used : Nat} (length : 32 ≤ v.length)
    (held : Occupies 80 bound (array, used) data) (room : bound + 35 ≤ 80) :
    Succeeds (putInteger v array used) fun filled =>
      Occupies 80 (bound + 35) filled (data ++ tagged 0x02 (unsignedOctets (v.take 32))) := by
  have taken : (v.take 32).length = 32 := by rw [List.length_take, min_eq_left length]
  have few := held.bound
  have ended : used = data.length := held.length
  have sized : array.length = 80 := held.size
  apply (skipZeros_minimal length le_rfl).bind
  rintro off ⟨within, minimal⟩
  rw [Nat.sub_self, List.drop_zero] at minimal
  have index : off < v.length := by omega
  have source : (v.drop off).take (32 - off) = minimalOctets (v.take 32) := by
    rw [← minimal, List.drop_take]
  have octets : (minimalOctets (v.take 32)).length = 32 - off := by
    rw [← minimal, List.length_drop, taken]
  have first : byteAt v off = byteAt (minimalOctets (v.take 32)) 0 := by
    rw [← minimal]
    simp only [byteAt, List.getD_eq_getElem?_getD, List.getElem?_drop, Nat.add_zero]
    rw [List.getElem?_take_of_lt (by omega)]
  have top : byteAt v off &&& 0x80 ≠ 0 ↔ 128 ≤ byteAt v off := by
    rw [byteAt]
    exact land_top _
  have header (ilen : Nat) : Succeeds (memcpy array used [0x02, UInt8.ofNat ilen] 2 :
      Except (Halt EspErr) Bytes) fun out =>
        out.length = 80 ∧ data ++ [0x02, UInt8.ofNat ilen] <+: out := by
    have copied := @memcpy_append EspErr array [0x02, UInt8.ofNat ilen] data used 2 held.data ended
      le_rfl (by omega)
    rwa [sized] at copied
  have number {before ints : Bytes} {offset : Nat} (sized : ints.length = 80) (begun : before <+: ints)
      (ended : offset = before.length) (short : before.length + (32 - off) ≤ 80) :
      Succeeds (memcpy ints offset (v.drop off) (32 - off) : Except (Halt EspErr) Bytes) fun out =>
        out.length = 80 ∧ before ++ minimalOctets (v.take 32) <+: out := by
    have copied := @memcpy_append EspErr ints (v.drop off) before offset (32 - off) begun ended
      (by rw [List.length_drop]; omega) (by omega)
    rwa [source, sized] at copied
  rw [loadByte_ok index, ok_bind]
  simp only [top]
  by_cases sign : 128 ≤ byteAt v off
  · have content : unsignedOctets (v.take 32) = 0 :: minimalOctets (v.take 32) := by
      rw [unsignedOctets, ← first, if_pos sign]
    have ilen : (0 :: minimalOctets (v.take 32)).length = 32 - off + 1 := by rw [List.length_cons, octets]
    rw [content, tagged_short (by omega), ilen]
    simp only [if_pos sign]
    rw [if_neg (by omega)]
    apply (header _).bind
    rintro ints ⟨sized, begun⟩
    apply (@memcpy_append EspErr ints [0] _ (used + 2) 1 begun (by simp [ended]) le_rfl
      (by simp; omega)).bind
    rintro ints' ⟨same, begun⟩
    apply (number (by omega) begun (by simp [ended]) (by simp; omega)).bind
    rintro ints'' ⟨sized, begun⟩
    refine succeeds_ok ⟨sized, ?_, ?_, ?_⟩
    · simp [octets, ended]
      omega
    · simp [octets]
      omega
    · simpa using begun
  · have content : unsignedOctets (v.take 32) = minimalOctets (v.take 32) := by
      rw [unsignedOctets, ← first, if_neg sign]
    rw [content, tagged_short (by omega), octets]
    simp only [if_neg sign, Nat.add_zero]
    rw [if_neg (by omega)]
    apply (header _).bind
    rintro ints ⟨sized, begun⟩
    rw [ok_bind]
    apply (number sized begun (by simp [ended]) (by simp; omega)).bind
    rintro ints' ⟨sized, begun⟩
    refine succeeds_ok ⟨sized, ?_, ?_, ?_⟩
    · simp [octets, ended]
      omega
    · simp [octets]
      omega
    · simpa using begun

def signatureDer (raw : Bytes) : Der :=
  .constructed 0x30 [.primitive 0x02 (unsignedOctets (raw.take 32)),
    .primitive 0x02 (unsignedOctets ((raw.drop 32).take 32))]

theorem ecdsaRawToDer_occupies {raw ints : Bytes} (length : raw.length = 64) (sized : ints.length = 80)
    (sizedOut : out.length = 80) :
    Succeeds (ecdsaRawToDer raw ints out) fun filled => Occupies 80 74 filled (signatureDer raw).encode := by
  have empty : Occupies 80 0 (ints, 0) [] := ⟨sized, rfl, le_rfl, List.nil_prefix⟩
  apply (putInteger_occupies (by omega) empty (by decide)).bind
  rintro ⟨ints', used⟩ held
  apply (putInteger_occupies (by rw [List.length_drop]; omega) held (by decide)).bind
  rintro ⟨ints'', used'⟩ held'
  have wrapped := derWrap_occupies held' sizedOut (by decide) (by decide) 0x30
  simpa [signatureDer] using wrapped

end NtsTimeServer.Proof
