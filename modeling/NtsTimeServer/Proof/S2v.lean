import NtsTimeServer.Lib.S2v
import NtsTimeServer.Proof.AesSiv

namespace NtsTimeServer.Proof
open Model Lib

theorem shift_byte (byte carry : UInt8) (bit : carry.toNat ≤ 1) :
    2 * byte.toNat + carry.toNat = (byte >>> 7).toNat * 256 + (byte <<< 1 ||| carry).toNat ∧
      (byte >>> 7).toNat ≤ 1 := by
  have byteFits := byte.toNat_lt
  have top : (byte >>> 7).toNat = byte.toNat / 128 := by
    rw [UInt8.toNat_shiftRight]
    exact Nat.shiftRight_eq_div_pow byte.toNat 7
  have shifted : (byte <<< 1).toNat = (byte.toNat % 128) <<< 1 := by
    rw [UInt8.toNat_shiftLeft]
    change (byte.toNat <<< 1) % 256 = _
    rw [Nat.shiftLeft_eq, Nat.shiftLeft_eq, Nat.pow_one]
    omega
  have joined : (byte.toNat % 128) <<< 1 ||| carry.toNat = byte.toNat % 128 * 2 + carry.toNat := by
    rw [← Nat.shiftLeft_add_eq_or_of_lt (show carry.toNat < 2 ^ 1 by omega), Nat.shiftLeft_eq, Nat.pow_one]
  rw [top, UInt8.toNat_or, shifted, joined]
  omega

@[simp] theorem shiftBlock_length (block : Bytes) : (shiftBlock block).2.length = block.length := by
  induction block with
  | nil => rfl
  | cons byte rest ih => simp [shiftBlock, ih]

theorem shiftBlock_value (block : Bytes) :
    2 * beValue block = (shiftBlock block).1.toNat * 256 ^ block.length + beValue (shiftBlock block).2 ∧
      (shiftBlock block).1.toNat ≤ 1 := by
  induction block with
  | nil => simp [shiftBlock, beValue]
  | cons byte rest ih =>
      obtain ⟨sum, bit⟩ := ih
      obtain ⟨sum', bit'⟩ := shift_byte byte (shiftBlock rest).1 bit
      refine ⟨?_, bit'⟩
      simp only [shiftBlock]
      rw [beValue_cons, beValue_cons, shiftBlock_length, List.length_cons, Nat.pow_succ']
      calc 2 * (byte.toNat * 256 ^ rest.length + beValue rest)
          = (2 * byte.toNat + (shiftBlock rest).1.toNat) * 256 ^ rest.length +
              beValue (shiftBlock rest).2 := by rw [Nat.mul_add, sum]; ring
        _ = _ := by rw [sum']; ring

theorem beValue_modify {bytes : Bytes} {index : Nat} (inside : index < bytes.length)
    (change : UInt8 → UInt8) (i : Nat) : (beValue (bytes.modify index change)).testBit i =
      if i / 8 = bytes.length - 1 - index then (change (bytes.getD index 0)).toNat.testBit (i % 8)
      else (beValue bytes).testBit i := by
  rw [testBit_beValue, testBit_beValue, List.length_modify, byteAt, byteAt,
    List.getD_eq_getElem?_getD, List.getD_eq_getElem?_getD, List.getElem?_modify]
  by_cases within : i / 8 < bytes.length
  · have same : index = bytes.length - 1 - i / 8 ↔ i / 8 = bytes.length - 1 - index := by omega
    simp only [within, decide_true, Bool.true_and, same]
    split
    next at_ =>
      have here : bytes.length - 1 - i / 8 = index := by omega
      simp [here, inside]
    · simp
  · have elsewhere : ¬i / 8 = bytes.length - 1 - index := by omega
    simp [within, elsewhere]

theorem two_pow_add_eq_xor {number count : Nat} (small : number < 2 ^ count) :
    2 ^ count + number = 2 ^ count ^^^ number := by
  apply Nat.eq_of_testBit_eq
  intro i
  rw [Nat.testBit_xor, Nat.testBit_two_pow]
  rcases lt_trichotomy i count with below | rfl | above
  · rw [Nat.testBit_two_pow_add_gt below, decide_eq_false (Nat.ne_of_gt below), Bool.false_xor]
  · rw [Nat.testBit_two_pow_add_eq, decide_eq_true rfl, Bool.true_xor]
  · have grown : 2 ^ (count + 1) ≤ 2 ^ i := Nat.pow_le_pow_right (by decide) above
    rw [Nat.pow_succ] at grown
    rw [Nat.testBit_lt_two_pow (show 2 ^ count + number < 2 ^ i by omega),
      Nat.testBit_lt_two_pow (show number < 2 ^ i by omega), decide_eq_false (Nat.ne_of_lt above),
      Bool.false_xor]

theorem xor_cancel (common first second : Nat) :
    (common ^^^ first) ^^^ (common ^^^ second) = first ^^^ second := by
  rw [Nat.xor_comm common, Nat.xor_assoc, ← Nat.xor_assoc common, Nat.xor_self, Nat.zero_xor]

theorem beValue_reduced {block : Bytes} (length : block.length = 16) :
    beValue (block.modify 15 (· ^^^ 0x87)) = beValue block ^^^ 0x87 := by
  apply Nat.eq_of_testBit_eq
  intro i
  rw [beValue_modify (show 15 < block.length by omega), Nat.testBit_xor, length]
  split
  next low =>
    rw [testBit_beValue, low, length, Nat.mod_eq_of_lt (show i < 8 by omega), UInt8.toNat_xor,
      Nat.testBit_xor]
    simp [byteAt, length]
  next high =>
    have beyond : (2 : Nat) ^ 8 ≤ 2 ^ i := Nat.pow_le_pow_right (by decide) (by omega)
    rw [Nat.testBit_lt_two_pow (show 0x87 < 2 ^ i by omega), Bool.xor_false]

theorem dblBlock_eq {block : Bytes} (length : block.length = 16) : dblBlock block = blockDouble block := by
  obtain ⟨sum, bit⟩ := shiftBlock_value block
  have size : (shiftBlock block).2.length = 16 := (shiftBlock_length block).trans length
  rw [length] at sum
  unfold dblBlock
  dsimp only
  split
  next carried =>
    have one : (shiftBlock block).1.toNat = 1 := by
      have : (shiftBlock block).1.toNat ≠ 0 := fun zero => carried (UInt8.toNat_inj.mp zero)
      omega
    have small : beValue (shiftBlock block).2 < 2 ^ 128 := by
      have below := beValue_lt (shiftBlock block).2
      rwa [size] at below
    refine (blockDouble_eq ((List.length_modify _ _ _).trans size) (Or.inr ?_)).symm
    have doubled : 2 * beValue block = 2 ^ 128 + beValue (shiftBlock block).2 := by
      rw [sum, one]
      omega
    rw [beValue_reduced size, doubled, two_pow_add_eq_xor small]
    exact (xor_cancel _ _ _).symm
  next uncarried =>
    have zero : (shiftBlock block).1.toNat = 0 := by
      rw [not_not.mp uncarried]
      rfl
    refine (blockDouble_eq size (Or.inl ?_)).symm
    omega

theorem cleared_byte (byte : UInt8) {i : Nat} (low : i < 8) :
    (byte &&& 0x7F).toNat.testBit i = (byte.toNat.testBit i && decide (i ≠ 7)) := by
  have mask : ∀ i < 8, (0x7F : UInt8).toNat.testBit i = decide (i ≠ 7) := by decide
  rw [UInt8.toNat_and, Nat.testBit_and, mask i low]

theorem ctrIv_eq {tag : Bytes} (length : tag.length = 16) : ctrIv tag = counterBlock tag := by
  refine (counterBlock_eq (by simp [ctrIv, length]) fun i _ => ?_).symm
  have first : (tag.modify 8 (· &&& 0x7F)).length = 16 := by rw [List.length_modify, length]
  have kept : (tag.modify 8 (· &&& 0x7F)).getD 12 0 = tag.getD 12 0 := by
    simp [List.getD_eq_getElem?_getD]
  have bit (index : Nat) (at_ : i / 8 = 15 - index) (inside : index ≤ 15) :
      (tag.getD index 0).toNat.testBit (i % 8) = (beValue tag).testBit i := by
    rw [testBit_beValue, length, at_, decide_eq_true (by omega), Bool.true_and, byteAt,
      show 16 - 1 - (15 - index) = index by omega]
  rw [ctrIv, beValue_modify (by omega), first, beValue_modify (by omega), length, kept,
    cleared_byte _ (Nat.mod_lt _ (by decide)), cleared_byte _ (Nat.mod_lt _ (by decide))]
  split
  next low =>
    rw [bit 12 low (by decide)]
    congr 1
    simp only [decide_eq_decide]
    omega
  next =>
    split
    next high =>
      rw [bit 8 high (by decide)]
      congr 1
      simp only [decide_eq_decide]
      omega
    next =>
      rw [decide_eq_true (by omega), Bool.and_true]

/-! ## The vector -/

theorem xorBytes_length {left right : Bytes} (same : left.length = right.length) :
    (xorBytes left right).length = right.length := by
  simp [xorBytes, same]

theorem s2v_eq (crypto : IdealCrypto) (cmacKey : Bytes) {associatedData : Bytes}
    (nonEmpty : associatedData ≠ []) (nonce plaintext : Bytes) :
    s2v crypto cmacKey associatedData (some nonce) plaintext =
      rfcS2v (crypto.cmac cmacKey) [associatedData, nonce, plaintext] := by
  have zero : (crypto.cmac cmacKey (List.replicate 16 0)).length = 16 := crypto.cmac_length _ _
  have step {d : Bytes} (string : Bytes) (length : d.length = 16) :
      xorBlock (dblBlock d) (crypto.cmac cmacKey string) =
          xorBytes (blockDouble d) (crypto.cmac cmacKey string) ∧
        (xorBytes (blockDouble d) (crypto.cmac cmacKey string)).length = 16 := by
    rw [dblBlock_eq length]
    refine ⟨rfl, ?_⟩
    rw [xorBytes_length (by rw [blockDouble_length, crypto.cmac_length]), crypto.cmac_length]
  obtain ⟨first, firstLength⟩ := step associatedData zero
  obtain ⟨second, secondLength⟩ := step nonce firstLength
  have present : associatedData.length > 0 := List.length_pos_of_ne_nil nonEmpty
  simp only [s2v, rfcS2v, present, if_true, first, second, List.getLast?_cons_cons,
    List.getLast?_singleton, List.dropLast_cons_cons, List.dropLast_singleton, List.foldl_cons,
    List.foldl_nil, ge_iff_le]
  split
  · rw [xorEnd, xorend, leftmost, rightmost, secondLength]
  · rw [dblBlock_eq secondLength, xorBlock, xorBytes_comm, padBlock, blockPad]

variable {σ : Type} {psa : Psa σ} {cmac : Bytes → Bytes → Bytes}

def ComputesCmac (psa : Psa σ) (cmac : Bytes → Bytes → Bytes) : Prop :=
  ∀ key input, Always (psa.macCompute key input) fun (status, output, macLen) =>
    status = .success → macLen = 16 → output = cmac key input

theorem cmac128_returns (computes : ComputesCmac psa cmac) (key input : Bytes) :
    Returns (cmac128 psa key input) (· = cmac key input) := by
  unfold cmac128
  refine (Returns.lift (P := fun _ => True) fun _ => trivial).bind fun status _ => ?_
  dsimp only
  split
  · exact Returns.throw_bind _ _
  refine (Returns.lift (computes key input)).bind fun (status, output, macLen) computed => ?_
  dsimp only
  split
  · exact Returns.throw_bind _ _
  next succeeded =>
    split
    · exact Returns.throw_bind _ _
    next whole => exact Returns.pure (computed (not_not.mp succeeded) (not_not.mp whole))

theorem s2vStep_returns (computes : ComputesCmac psa cmac) (cmacKey d component : Bytes) :
    Returns (s2vStep psa cmacKey d component) (· = xorBlock (dblBlock d) (cmac cmacKey component)) := by
  refine (cmac128_returns computes cmacKey component).bind fun value computed => ?_
  exact Returns.pure (congrArg _ computed)

theorem aesSivS2v_returns {crypto : IdealCrypto} (computes : ComputesCmac psa crypto.cmac)
    (cmacKey : Bytes) {associatedData : Bytes} (nonEmpty : associatedData ≠ []) (nonce plaintext : Bytes) :
    Returns (aesSivS2v psa cmacKey associatedData (some nonce) plaintext)
      (· = s2v crypto cmacKey associatedData (some nonce) plaintext) := by
  have present : associatedData.length > 0 := List.length_pos_of_ne_nil nonEmpty
  unfold aesSivS2v s2v
  simp only [present, if_true]
  refine (cmac128_returns computes cmacKey _).bind ?_
  rintro _ rfl
  refine (s2vStep_returns computes cmacKey _ associatedData).bind ?_
  rintro _ rfl
  refine (s2vStep_returns computes cmacKey _ nonce).bind ?_
  rintro _ rfl
  split
  · refine (Returns.lift (P := fun _ => True) fun _ => trivial).bind fun allocated _ => ?_
    split
    · exact Returns.throw_bind _ _
    · exact cmac128_returns computes cmacKey _
  · exact cmac128_returns computes cmacKey _

/-! ## Conformance -/

/-- What `aes_siv_s2v` and `aes_ctr_crypt` have to do with a key, associated data and a nonce. -/
structure ConformsToRfc5297 (crypto : IdealCrypto) (cmacKey ctrKey associatedData nonce plaintext : Bytes) :
    Prop where
  computed : aesSivS2v (idealPsa crypto) cmacKey associatedData (some nonce) plaintext =
    pure (rfcS2v (crypto.cmac cmacKey) [associatedData, nonce, plaintext])
  /-- also where calls fail -/
  only : ∀ (σ : Type) (psa : Psa σ), ComputesCmac psa crypto.cmac →
    Returns (aesSivS2v psa cmacKey associatedData (some nonce) plaintext)
      (· = rfcS2v (crypto.cmac cmacKey) [associatedData, nonce, plaintext])
  encrypted : ∀ tag output, tag.length = 16 →
    aesCtrCrypt (idealPsa crypto) ctrKey tag plaintext output =
      pure (.ok, writeAt output 0
        (xorStream (crypto.keystream ctrKey (counterBlock tag)) plaintext))

theorem s2v_conforms (crypto : IdealCrypto) (cmacKey ctrKey : Bytes) {associatedData : Bytes}
    (nonEmpty : associatedData ≠ []) (nonce plaintext : Bytes) :
    ConformsToRfc5297 crypto cmacKey ctrKey associatedData nonce plaintext where
  computed := by rw [aesSivS2v_ideal, s2v_eq crypto cmacKey nonEmpty]
  only _ psa computes := by
    rw [← s2v_eq crypto cmacKey nonEmpty]
    exact aesSivS2v_returns computes cmacKey nonEmpty nonce plaintext
  encrypted tag output length := by rw [aesCtrCrypt_ideal, ctr, ctrIv_eq length]

theorem requestHeader_conforms : ConformsToRfc5297 toyCrypto (List.replicate 16 1) (List.replicate 16 2)
    (0x23 :: List.replicate 47 0) (List.replicate 16 3) (List.replicate 40 4) :=
  s2v_conforms toyCrypto _ _ (List.cons_ne_nil _ _) _ _

end NtsTimeServer.Proof
