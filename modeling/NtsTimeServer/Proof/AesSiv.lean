import NtsTimeServer.Lib.Always
import NtsTimeServer.Lib.SyntheticIv
import NtsTimeServer.Model.AesSiv

namespace NtsTimeServer.Proof
open Model Lib

/-- CMAC as any function of key and message, CTR as any keystream of key and initialization
vector. -/
structure IdealCrypto where
  cmac : Bytes → Bytes → Bytes
  keystream : Bytes → Bytes → Nat → UInt8
  cmac_length : ∀ key message, (cmac key message).length = 16

def idealPsa (crypto : IdealCrypto) : Psa Unit where
  cryptoInit := pure .success
  importCmacKey _ := pure .success
  importCtrKey _ := pure .success
  macCompute key input := pure (.success, crypto.cmac key input, 16)
  cipherEncryptSetup _ := pure .success
  cipherSetIv _ := pure .success
  cipherUpdate key iv input := pure (.success, xorStream (crypto.keystream key iv) input)
  cipherFinish := pure (.success, [])
  malloc _ := pure true

variable (crypto : IdealCrypto)

def s2v (cmacKey associatedData : Bytes) (nonce : Option Bytes) (plaintext : Bytes) : Bytes :=
  let step (d component : Bytes) := xorBlock (dblBlock d) (crypto.cmac cmacKey component)
  let zero := crypto.cmac cmacKey (List.replicate 16 0)
  let associated := if associatedData.length > 0 then step zero associatedData else zero
  let d := match nonce with
    | some nonce => step associated nonce
    | none => associated
  if plaintext.length ≥ 16 then crypto.cmac cmacKey (xorEnd plaintext d)
  else crypto.cmac cmacKey (xorBlock (padBlock plaintext) (dblBlock d))

def ctr (ctrKey siv data : Bytes) : Bytes := xorStream (crypto.keystream ctrKey (ctrIv siv)) data

@[simp] theorem s2v_length (cmacKey associatedData : Bytes) (nonce : Option Bytes)
    (plaintext : Bytes) : (s2v crypto cmacKey associatedData nonce plaintext).length = 16 := by
  unfold s2v
  dsimp only
  split <;> exact crypto.cmac_length _ _

@[simp] theorem ctr_length (ctrKey siv data : Bytes) :
    (ctr crypto ctrKey siv data).length = data.length := by
  simp [ctr]

@[simp] theorem ctr_ctr (ctrKey siv data : Bytes) :
    ctr crypto ctrKey siv (ctr crypto ctrKey siv data) = data := by
  simp [ctr]

theorem cmac128_ideal (key input : Bytes) :
    cmac128 (idealPsa crypto) key input = pure (crypto.cmac key input) := rfl

theorem s2vStep_ideal (cmacKey d component : Bytes) :
    s2vStep (idealPsa crypto) cmacKey d component =
      pure (xorBlock (dblBlock d) (crypto.cmac cmacKey component)) := rfl

theorem aesSivS2v_ideal (cmacKey associatedData : Bytes) (nonce : Option Bytes)
    (plaintext : Bytes) :
    aesSivS2v (idealPsa crypto) cmacKey associatedData nonce plaintext =
      pure (s2v crypto cmacKey associatedData nonce plaintext) := by
  unfold aesSivS2v s2v
  simp only [cmac128_ideal, s2vStep_ideal, pure_bind]
  by_cases associated : associatedData.length > 0 <;> cases nonce <;>
    by_cases long : plaintext.length ≥ 16 <;> simp only [associated, long, if_true, if_false] <;> rfl

theorem aesCtrCrypt_ideal (ctrKey siv input output : Bytes) :
    aesCtrCrypt (idealPsa crypto) ctrKey siv input output =
      pure (.ok, writeAt output 0 (ctr crypto ctrKey siv input)) := by
  have complete : (ctr crypto ctrKey siv input).length + ([] : Bytes).length = input.length := by
    simp
  calc aesCtrCrypt (idealPsa crypto) ctrKey siv input output
      = if (ctr crypto ctrKey siv input).length + ([] : Bytes).length ≠ input.length
          then pure (.fail, writeAt (writeAt output 0 (ctr crypto ctrKey siv input))
            (ctr crypto ctrKey siv input).length [])
          else pure (.ok, writeAt (writeAt output 0 (ctr crypto ctrKey siv input))
            (ctr crypto ctrKey siv input).length []) := rfl
    _ = _ := by rw [if_neg (not_not.mpr complete), writeAt_nil]

theorem cryptoInit_ideal : (idealPsa crypto).cryptoInit = pure .success := rfl

variable (key associatedData : Bytes) (nonce : Option Bytes)

def encrypted (message : Bytes) : Bytes × Bytes :=
  sivSeal (s2v crypto (key.take 16) associatedData nonce) (ctr crypto (key.drop 16)) message

def decrypted (received : Bytes × Bytes) : Option Bytes :=
  sivOpen (s2v crypto (key.take 16) associatedData nonce) (ctr crypto (key.drop 16)) received

theorem ntsAesSivEncrypt_ideal (plaintext output : Bytes) {outputLen : Nat}
    (fits : 16 + plaintext.length ≤ outputLen) :
    ntsAesSivEncrypt (idealPsa crypto) key associatedData nonce plaintext output outputLen =
      pure (.ok, (encrypted crypto key associatedData nonce plaintext).1 ++
        (encrypted crypto key associatedData nonce plaintext).2 ++ output.drop (16 + plaintext.length),
        16 + plaintext.length) := by
  have large : ¬outputLen < ntsAesSivTagLen + plaintext.length := not_lt.mpr fits
  unfold ntsAesSivEncrypt
  simp only [large, if_false, cryptoInit_ideal, pure_bind, aesSivS2v_ideal, aesCtrCrypt_ideal,
    ExceptT.run_pure, ne_eq, not_true_eq_false]
  simp [encrypted, sivSeal, ntsAesSivTagLen]

theorem ntsAesSivDecrypt_ideal (input plaintext : Bytes) {plaintextLen : Nat}
    (long : 16 ≤ input.length) (fits : input.length - 16 ≤ plaintextLen) :
    ntsAesSivDecrypt (idealPsa crypto) key associatedData nonce input plaintext plaintextLen =
      match decrypted crypto key associatedData nonce (input.take 16, input.drop 16) with
      | some message => pure (.ok, message ++ plaintext.drop message.length, message.length)
      | none => pure (.invalidCrc, zeroFirst
          (writeAt plaintext 0 (ctr crypto (key.drop 16) (input.take 16) (input.drop 16)))
          (input.length - 16), plaintextLen) := by
  have long' : ¬input.length < ntsAesSivTagLen := not_lt.mpr long
  have fits' : ¬plaintextLen < input.length - ntsAesSivTagLen := not_lt.mpr fits
  unfold ntsAesSivDecrypt
  simp only [long', fits', if_false, cryptoInit_ideal, pure_bind, aesSivS2v_ideal, aesCtrCrypt_ideal,
    ExceptT.run_pure, ne_eq, not_true_eq_false]
  have message : (writeAt plaintext 0 (ctr crypto (key.drop 16) (input.take 16) (input.drop 16))).take
      (input.length - 16) = ctr crypto (key.drop 16) (input.take 16) (input.drop 16) := by
    have := take_writeAt_zero plaintext (ctr crypto (key.drop 16) (input.take 16) (input.drop 16))
    rwa [ctr_length, List.length_drop] at this
  have tags : (input.take 16).length = (s2v crypto (key.take 16) associatedData nonce
      (ctr crypto (key.drop 16) (input.take 16) (input.drop 16))).length := by
    rw [List.length_take, s2v_length, min_eq_left long]
  simp only [ntsAesSivTagLen, message, constantTimeEqual_iff tags, ite_not, decrypted, sivOpen]
  split
  · simp
  · rfl

/-! ## Decryption undoes encryption -/

def Encrypts (message buffer : Bytes) (bufferLen : Nat) (output : Bytes) : Prop :=
  ∃ buffer' bufferLen', ((ntsAesSivEncrypt (idealPsa crypto) key associatedData nonce message buffer
    bufferLen).run ()).1 = (.ok, buffer', bufferLen') ∧ buffer'.take bufferLen' = output

def Decrypts (input buffer : Bytes) (bufferLen : Nat) (message : Bytes) : Prop :=
  ∃ buffer' bufferLen', ((ntsAesSivDecrypt (idealPsa crypto) key associatedData nonce input buffer
    bufferLen).run ()).1 = (.ok, buffer', bufferLen') ∧ buffer'.take bufferLen' = message

variable {crypto key associatedData nonce}

theorem encrypts_iff {message buffer : Bytes} {bufferLen : Nat} {output : Bytes}
    (fits : 16 + message.length ≤ bufferLen) :
    Encrypts crypto key associatedData nonce message buffer bufferLen output ↔
      output = (encrypted crypto key associatedData nonce message).1 ++
        (encrypted crypto key associatedData nonce message).2 := by
  have length : ((encrypted crypto key associatedData nonce message).1 ++
      (encrypted crypto key associatedData nonce message).2).length = 16 + message.length := by
    simp [encrypted, sivSeal]
  unfold Encrypts
  rw [ntsAesSivEncrypt_ideal _ _ _ _ _ _ fits]
  constructor
  · rintro ⟨buffer', bufferLen', written, rfl⟩
    cases written
    rw [List.take_left' length]
  · rintro rfl
    exact ⟨_, _, rfl, List.take_left' length⟩

theorem decrypts_iff {input buffer : Bytes} {bufferLen : Nat} {message : Bytes}
    (long : 16 ≤ input.length) (fits : input.length - 16 ≤ bufferLen) :
    Decrypts crypto key associatedData nonce input buffer bufferLen message ↔
      decrypted crypto key associatedData nonce (input.take 16, input.drop 16) = some message := by
  unfold Decrypts
  rw [ntsAesSivDecrypt_ideal _ _ _ _ _ _ long fits]
  cases decrypted crypto key associatedData nonce (input.take 16, input.drop 16) with
  | none =>
      constructor
      · rintro ⟨buffer', bufferLen', written, -⟩
        cases written
      · exact nofun
  | some message' =>
      constructor
      · rintro ⟨buffer', bufferLen', written, rfl⟩
        cases written
        rw [List.take_left' rfl]
      · rintro same
        cases same
        exact ⟨_, _, rfl, List.take_left' rfl⟩

theorem decrypts_iff_encrypts {input buffer : Bytes} {bufferLen : Nat} {message output : Bytes}
    {outputLen : Nat} (fits : input.length ≤ 16 + bufferLen)
    (room : 16 + message.length ≤ outputLen) :
    Decrypts crypto key associatedData nonce input buffer bufferLen message ↔
      Encrypts crypto key associatedData nonce message output outputLen input := by
  rw [encrypts_iff room]
  have tag : (encrypted crypto key associatedData nonce message).1.length = 16 :=
    s2v_length crypto _ _ _ _
  by_cases long : 16 ≤ input.length
  · rw [decrypts_iff long (by omega), decrypted, sivOpen_eq_some (ctr_ctr crypto (key.drop 16))]
    exact split_eq_iff tag
  · have short : ntsAesSivDecrypt (idealPsa crypto) key associatedData nonce input buffer bufferLen =
        pure (.invalidSize, buffer, bufferLen) := if_pos (not_le.mp long)
    constructor
    · rintro ⟨buffer', bufferLen', written, -⟩
      rw [short] at written
      cases written
    · rintro rfl
      rw [List.length_append, tag] at long
      omega

/-! ## The interface over an ideal PSA -/

def bufferResult : EspErr × Bytes × Nat → Except EspErr Bytes
  | (.ok, buffer, length) => .ok (buffer.take length)
  | (err, _, _) => .error err

theorem bufferResult_ok {result : EspErr × Bytes × Nat} {output : Bytes} :
    bufferResult result = .ok output ↔
      ∃ buffer length, result = (.ok, buffer, length) ∧ buffer.take length = output := by
  obtain ⟨err, buffer, length⟩ := result
  cases err <;> simp [bufferResult]

theorem encrypts_length {message buffer output : Bytes} {bufferLen : Nat}
    (fits : 16 + message.length ≤ bufferLen)
    (encrypts : Encrypts crypto key associatedData nonce message buffer bufferLen output) :
    output.length = 16 + message.length := by
  rw [(encrypts_iff fits).mp encrypts]
  simp [encrypted, sivSeal]

theorem decrypts_length {input buffer message : Bytes} {bufferLen : Nat}
    (fits : input.length ≤ 16 + bufferLen)
    (decrypts : Decrypts crypto key associatedData nonce input buffer bufferLen message) :
    input.length = 16 + message.length := by
  have encrypts : Encrypts crypto key associatedData nonce message [] (16 + message.length) input :=
    (decrypts_iff_encrypts fits le_rfl).mp decrypts
  exact encrypts_length le_rfl encrypts

def idealAead (crypto : IdealCrypto) : Aead where
  encrypt key associatedData nonce plaintext := bufferResult
    ((ntsAesSivEncrypt (idealPsa crypto) key associatedData (some nonce) plaintext
      (List.replicate (16 + plaintext.length) 0) (16 + plaintext.length)).run ()).1
  decrypt key associatedData nonce input := bufferResult
    ((ntsAesSivDecrypt (idealPsa crypto) key associatedData (some nonce) input
      (List.replicate (input.length - 16) 0) (input.length - 16)).run ()).1
  encrypt_length written := encrypts_length le_rfl (bufferResult_ok.mp written)
  decrypt_length written := decrypts_length (by omega) (bufferResult_ok.mp written)

theorem idealAead_encrypts (crypto : IdealCrypto) (key associatedData nonce plaintext : Bytes) :
    ∃ output, (idealAead crypto).encrypt key associatedData nonce plaintext = .ok output :=
  ⟨_, bufferResult_ok.mpr ((encrypts_iff le_rfl).mpr rfl)⟩

theorem idealAead_roundTrip (crypto : IdealCrypto) : (idealAead crypto).RoundTrip :=
  fun _ _ _ _ _ written => bufferResult_ok.mpr
    ((decrypts_iff_encrypts (by omega) le_rfl).mpr (bufferResult_ok.mp written))

theorem idealAead_genuine (crypto : IdealCrypto) : (idealAead crypto).Genuine :=
  fun _ _ _ _ _ opened => bufferResult_ok.mpr
    ((decrypts_iff_encrypts (by omega) le_rfl).mp (bufferResult_ok.mp opened))

def keyedCrypto : IdealCrypto where
  cmac key _ := (key ++ List.replicate 16 0).take 16
  keystream _ _ _ := 0
  cmac_length _ _ := by simp

def keyedAead : Aead := idealAead keyedCrypto

def DecryptionBegins {σ : Type} (psa : Psa σ) (s : σ) (input : Bytes) (bufferLen : Nat) : Prop :=
  16 ≤ input.length ∧ input.length - 16 ≤ bufferLen ∧ (psa.cryptoInit s).1 = .success

def ClearedUnlessOk (count : Nat) (result : EspErr × Bytes × Nat) : Prop :=
  result.1 ≠ .ok → result.2.1.take count = List.replicate count 0

theorem clearedUnlessOk_zeroFirst (err : EspErr) (buffer : Bytes) (count bufferLen : Nat) :
    ClearedUnlessOk count (err, zeroFirst buffer count, bufferLen) :=
  fun _ => take_zeroFirst buffer count

theorem failed_decryption_clears {σ : Type} (psa : Psa σ) (s : σ) {input buffer : Bytes}
    {bufferLen : Nat} (begins : DecryptionBegins psa s input bufferLen) :
    ClearedUnlessOk (input.length - 16)
      ((ntsAesSivDecrypt psa key associatedData nonce input buffer bufferLen).run s).1 := by
  obtain ⟨long, fits, initialized⟩ := begins
  have long' : ¬input.length < ntsAesSivTagLen := not_lt.mpr long
  have fits' : ¬bufferLen < input.length - ntsAesSivTagLen := not_lt.mpr fits
  unfold ntsAesSivDecrypt
  rw [if_neg long', if_neg fits']
  refine Always.run_bind initialized ?_
  rw [if_neg (by simp)]
  refine Always.bind fun ⟨err, plaintext⟩ => ?_
  dsimp only
  split
  · exact Always.pure (clearedUnlessOk_zeroFirst _ _ _ _)
  refine Always.bind fun expected => ?_
  cases expected with
  | error err => exact Always.pure (clearedUnlessOk_zeroFirst _ _ _ _)
  | ok expectedTag =>
      dsimp only
      split
      · exact Always.pure (clearedUnlessOk_zeroFirst _ _ _ _)
      · exact Always.pure fun failed => absurd rfl failed

theorem aesSiv_accepts_its_ciphertexts :
    (∀ (crypto : IdealCrypto) (key associatedData : Bytes) (nonce : Option Bytes)
      (input buffer : Bytes) (bufferLen : Nat) (message output : Bytes) (outputLen : Nat),
      input.length ≤ 16 + bufferLen → 16 + message.length ≤ outputLen →
      (Decrypts crypto key associatedData nonce input buffer bufferLen message ↔
        Encrypts crypto key associatedData nonce message output outputLen input)) ∧
    (∀ (σ : Type) (psa : Psa σ) (s : σ) (key associatedData : Bytes) (nonce : Option Bytes)
      (input buffer : Bytes) (bufferLen : Nat), DecryptionBegins psa s input bufferLen →
      ClearedUnlessOk (input.length - 16)
        ((ntsAesSivDecrypt psa key associatedData nonce input buffer bufferLen).run s).1) :=
  ⟨fun _ _ _ _ _ _ _ _ _ _ fits room => decrypts_iff_encrypts fits room,
    fun _ psa s _ _ _ _ _ _ begins => failed_decryption_clears psa s begins⟩

def toyCrypto : IdealCrypto := ⟨fun _ _ => List.replicate 16 0, fun _ _ => UInt8.ofNat, by simp⟩

def toyKey : Bytes := List.replicate 32 1

theorem toyCrypto_accepts_its_ciphertext :
    Decrypts toyCrypto toyKey [5] (some (List.replicate 16 2)) (List.replicate 16 0 ++ [7, 9, 11])
        (List.replicate 3 0) 3 [7, 8, 9] ∧
      ClearedUnlessOk 3 ((ntsAesSivDecrypt (idealPsa toyCrypto) toyKey [5]
        (some (List.replicate 16 2)) (List.replicate 16 1 ++ [7, 9, 11]) (List.replicate 3 0) 3).run ()).1 :=
  ⟨(aesSiv_accepts_its_ciphertexts.1 toyCrypto toyKey [5] (some (List.replicate 16 2)) _
      (List.replicate 3 0) 3 [7, 8, 9] (List.replicate 19 0) 19 (by decide) (by decide)).mpr
      ⟨_, _, rfl, rfl⟩,
    aesSiv_accepts_its_ciphertexts.2 Unit (idealPsa toyCrypto) () toyKey [5]
      (some (List.replicate 16 2)) _ (List.replicate 3 0) 3 ⟨by decide, by decide, rfl⟩⟩

end NtsTimeServer.Proof
