import NtsTimeServer.Lib.Bytes
import NtsTimeServer.Model.Types

/-!
# AES-SIV-CMAC-256

`nts_aes_siv.c` over the PSA interface. `Psa σ` gives the outcome of every PSA call and allocation,
as a function of a state `σ` that the calls may change; a call may fail and may write any bytes.
Keys stand for the handles they are imported under.
-/

namespace NtsTimeServer.Model
open Lib

def ntsAesSivTagLen : Nat := 16
def ntsAesSivNonceLen : Nat := 16

/-- `psa_status_t` as far as `psa_to_esp` tells the values apart. -/
inductive PsaStatus
  | success | notSupported | invalidArgument | invalidHandle | bufferTooSmall
  | insufficientMemory | insufficientStorage | other
  deriving DecidableEq, Repr

def psaToEsp : PsaStatus → EspErr
  | .success => .ok
  | .notSupported => .notSupported
  | .invalidArgument | .invalidHandle => .invalidArg
  | .bufferTooSmall => .invalidSize
  | .insufficientMemory | .insufficientStorage => .noMem
  | .other => .fail

structure Psa (σ : Type) where
  cryptoInit : StateM σ PsaStatus
  importCmacKey : Bytes → StateM σ PsaStatus
  importCtrKey : Bytes → StateM σ PsaStatus
  /-- status, the 16 bytes of output and `mac_len` -/
  macCompute : Bytes → Bytes → StateM σ (PsaStatus × Bytes × Nat)
  cipherEncryptSetup : Bytes → StateM σ PsaStatus
  cipherSetIv : Bytes → StateM σ PsaStatus
  /-- key, initialization vector and input; status and the bytes written -/
  cipherUpdate : Bytes → Bytes → Bytes → StateM σ (PsaStatus × Bytes)
  cipherFinish : StateM σ (PsaStatus × Bytes)
  malloc : Nat → StateM σ Bool

variable {σ : Type} (psa : Psa σ)

def xorBlock (left right : Bytes) : Bytes := xorBytes left right

/-- The loop of `dbl_block`, from the last byte to the first: the carry and the shifted bytes. -/
def shiftBlock : Bytes → UInt8 × Bytes
  | [] => (0, [])
  | byte :: rest =>
      let (carry, shifted) := shiftBlock rest
      (byte >>> 7, (byte <<< 1 ||| carry) :: shifted)

def dblBlock (input : Bytes) : Bytes :=
  let (carry, output) := shiftBlock input
  if carry ≠ 0 then output.modify 15 (· ^^^ 0x87) else output

/-- The counter bits cleared in a tag that serves as initialization vector. -/
def ctrIv (siv : Bytes) : Bytes := (siv.modify 8 (· &&& 0x7F)).modify 12 (· &&& 0x7F)

/-! ## CMAC and CTR -/

def cmac128 (key input : Bytes) : ExceptT EspErr (StateM σ) Bytes := do
  let status ← psa.importCmacKey key
  if status ≠ .success then throw (psaToEsp status)
  let (status, output, macLen) ← psa.macCompute key input
  if status ≠ .success then throw (psaToEsp status)
  if macLen ≠ 16 then throw .fail
  return output

def aesCtrCrypt (ctrKey siv input output : Bytes) : StateM σ (EspErr × Bytes) := do
  let status ← psa.importCtrKey ctrKey
  if status ≠ .success then return (psaToEsp status, output)
  let iv := ctrIv siv
  let status ← psa.cipherEncryptSetup ctrKey
  let status ← if status = .success then psa.cipherSetIv iv else pure status
  let (status, updated) ←
    if status = .success then psa.cipherUpdate ctrKey iv input else pure (status, [])
  let output := writeAt output 0 updated
  let (status, finished) ←
    if status = .success then psa.cipherFinish else pure (status, [])
  let output := writeAt output updated.length finished
  if status ≠ .success then return (psaToEsp status, output)
  if updated.length + finished.length ≠ input.length then return (.fail, output)
  return (.ok, output)

/-! ## S2V -/

/-- One more component: `d` doubled and combined with its CMAC. -/
def s2vStep (cmacKey d component : Bytes) : ExceptT EspErr (StateM σ) Bytes := do
  let cmacValue ← cmac128 psa cmacKey component
  return xorBlock (dblBlock d) cmacValue

def padBlock (plaintext : Bytes) : Bytes :=
  plaintext ++ 0x80 :: List.replicate (15 - plaintext.length) 0

def xorEnd (plaintext d : Bytes) : Bytes :=
  plaintext.take (plaintext.length - 16) ++ xorBytes (plaintext.drop (plaintext.length - 16)) d

def aesSivS2v (cmacKey associatedData : Bytes) (nonce : Option Bytes) (plaintext : Bytes) :
    ExceptT EspErr (StateM σ) Bytes := do
  let mut d ← cmac128 psa cmacKey (List.replicate 16 0)
  if associatedData.length > 0 then
    d ← s2vStep psa cmacKey d associatedData
  if let some nonce := nonce then
    d ← s2vStep psa cmacKey d nonce
  if plaintext.length ≥ 16 then
    if ¬(← psa.malloc plaintext.length) then throw .noMem
    cmac128 psa cmacKey (xorEnd plaintext d)
  else
    cmac128 psa cmacKey (xorBlock (padBlock plaintext) (dblBlock d))

/-- The result, the output buffer and `*output_len`. -/
def ntsAesSivEncrypt (key associatedData : Bytes) (nonce : Option Bytes) (plaintext output : Bytes)
    (outputLen : Nat) : StateM σ (EspErr × Bytes × Nat) := do
  let requiredLen := ntsAesSivTagLen + plaintext.length
  if outputLen < requiredLen then return (.invalidSize, output, requiredLen)
  let status ← psa.cryptoInit
  if status ≠ .success then return (psaToEsp status, output, outputLen)
  match ← (aesSivS2v psa (key.take 16) associatedData nonce plaintext).run with
  | .error err => return (err, output, outputLen)
  | .ok tag =>
      let output := writeAt output 0 tag
      let (err, encrypted) ←
        aesCtrCrypt psa (key.drop 16) tag plaintext (output.drop ntsAesSivTagLen)
      let output := output.take ntsAesSivTagLen ++ encrypted
      if err ≠ .ok then return (err, zeroFirst output requiredLen, outputLen)
      return (.ok, output, requiredLen)

def ntsAesSivDecrypt (key associatedData : Bytes) (nonce : Option Bytes) (input plaintext : Bytes)
    (plaintextLen : Nat) : StateM σ (EspErr × Bytes × Nat) := do
  if input.length < ntsAesSivTagLen then return (.invalidSize, plaintext, plaintextLen)
  let ciphertextLen := input.length - ntsAesSivTagLen
  if plaintextLen < ciphertextLen then return (.invalidSize, plaintext, ciphertextLen)
  let status ← psa.cryptoInit
  if status ≠ .success then return (psaToEsp status, plaintext, plaintextLen)
  let receivedTag := input.take ntsAesSivTagLen
  let ciphertext := input.drop ntsAesSivTagLen
  let (err, plaintext) ← aesCtrCrypt psa (key.drop 16) receivedTag ciphertext plaintext
  if err ≠ .ok then return (err, zeroFirst plaintext ciphertextLen, plaintextLen)
  match ← (aesSivS2v psa (key.take 16) associatedData nonce (plaintext.take ciphertextLen)).run with
  | .error err => return (err, zeroFirst plaintext ciphertextLen, plaintextLen)
  | .ok expectedTag =>
      if ¬constantTimeEqual receivedTag expectedTag then
        return (.invalidCrc, zeroFirst plaintext ciphertextLen, plaintextLen)
      return (.ok, plaintext, ciphertextLen)

/-! ## The interface -/

/-- `nts_aes_siv_encrypt` and `nts_aes_siv_decrypt` into buffers that are large enough. -/
structure Aead where
  encrypt : (key associatedData nonce plaintext : Bytes) → Except EspErr Bytes
  decrypt : (key associatedData nonce input : Bytes) → Except EspErr Bytes
  encrypt_length : ∀ {key associatedData nonce plaintext output : Bytes},
    encrypt key associatedData nonce plaintext = .ok output →
      output.length = ntsAesSivTagLen + plaintext.length
  decrypt_length : ∀ {key associatedData nonce input plaintext : Bytes},
    decrypt key associatedData nonce input = .ok plaintext →
      input.length = ntsAesSivTagLen + plaintext.length

def Aead.RoundTrip (aead : Aead) : Prop :=
  ∀ key associatedData nonce plaintext output,
    aead.encrypt key associatedData nonce plaintext = .ok output →
      aead.decrypt key associatedData nonce output = .ok plaintext

def Aead.Genuine (aead : Aead) : Prop :=
  ∀ key associatedData nonce input plaintext,
    aead.decrypt key associatedData nonce input = .ok plaintext →
      aead.encrypt key associatedData nonce plaintext = .ok input

end NtsTimeServer.Model
