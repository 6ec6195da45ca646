import NtsTimeServer.Lib.Memory
import NtsTimeServer.Model.CertStore

/-!
# Certificate signing requests

The DER writer of `acme_client.c`. An array is its bytes, and its size is their number. What an array holds
before it is written is not known.
-/

namespace NtsTimeServer.Model
open Lib

def acmeCsrMax : Nat := 1024

abbrev Filled := Bytes × Nat

/-- The length goes to `out + offset`, and the number of its bytes is returned. -/
def derPutLength (out : Bytes) (offset length : Nat) : Except (Halt EspErr) Filled :=
  let outSize := out.length - offset
  if length < 128 then
    if outSize < 1 then .error (.error .invalidSize)
    else do
      let out ← memcpy out offset [UInt8.ofNat length] 1
      return (out, 1)
  else if length ≤ 255 then
    if outSize < 2 then .error (.error .invalidSize)
    else do
      let out ← memcpy out offset [0x81, UInt8.ofNat length] 2
      return (out, 2)
  else if length ≤ 65535 then
    if outSize < 3 then .error (.error .invalidSize)
    else do
      let out ← memcpy out offset [0x82, UInt8.ofNat (length >>> 8), UInt8.ofNat length] 3
      return (out, 3)
  else .error (.error .invalidSize)

def derWrap (tag : UInt8) (content : Bytes) (contentLen : Nat) (out : Bytes) :
    Except (Halt EspErr) Filled :=
  if out.length < 2 then .error (.error .invalidSize)
  else do
    let out ← memcpy out 0 [tag] 1
    let (out, ll) ← derPutLength out 1 contentLen
    if 1 + ll + contentLen > out.length then .error (.error .invalidSize)
    else
      let out ← if contentLen ≠ 0 then memcpy out (1 + ll) content contentLen else .ok out
      return (out, 1 + ll + contentLen)

def derConcat2 (a : Bytes) (al : Nat) (b : Bytes) (bl : Nat) (out : Bytes) :
    Except (Halt EspErr) Filled :=
  if al + bl > out.length then .error (.error .invalidSize)
  else do
    let out ← memcpy out 0 a al
    let out ← memcpy out al b bl
    return (out, al + bl)

def derConcat3 (a : Bytes) (al : Nat) (b : Bytes) (bl : Nat) (c : Bytes) (cl : Nat) (out : Bytes) :
    Except (Halt EspErr) Filled :=
  if al + bl + cl > out.length then .error (.error .invalidSize)
  else do
    let out ← memcpy out 0 a al
    let out ← memcpy out al b bl
    let out ← memcpy out (al + bl) c cl
    return (out, al + bl + cl)

/-! ## Signatures -/

/-- The `while` loop of `ecdsa_raw_to_der` with `left` turns to go, `off` being `31 - left`. -/
def skipZeros (v : Bytes) : Nat → Except (Halt EspErr) Nat
  | 0 => .ok 31
  | left + 1 => do
      let byte ← loadByte v (31 - (left + 1))
      if byte = 0 then skipZeros v left else .ok (31 - (left + 1))

/-- One turn of the `for` loop of `ecdsa_raw_to_der`. -/
def putInteger (v ints : Bytes) (used : Nat) : Except (Halt EspErr) Filled := do
  let off ← skipZeros v 31
  let n := 32 - off
  let first ← loadByte v off
  let leadZero := first &&& 0x80 ≠ 0
  let ilen := n + if leadZero then 1 else 0
  if used + 2 + ilen > ints.length ∨ ilen ≥ 128 then .error (.error .invalidSize)
  else
    let ints ← memcpy ints used [0x02, UInt8.ofNat ilen] 2
    let used := used + 2
    let ints ← if leadZero then memcpy ints used [0] 1 else .ok ints
    let used := if leadZero then used + 1 else used
    let ints ← memcpy ints used (v.drop off) n
    return (ints, used + n)

def ecdsaRawToDer (raw ints out : Bytes) : Except (Halt EspErr) Filled := do
  let (ints, used) ← putInteger raw ints 0
  let (ints, used) ← putInteger (raw.drop 32) ints used
  derWrap 0x30 ints used out

/-! ## The request -/

def oidCn : Bytes := [0x06, 0x03, 0x55, 0x04, 0x03]
def oidEcPub : Bytes := [0x06, 0x07, 0x2A, 0x86, 0x48, 0xCE, 0x3D, 0x02, 0x01]
def oidP256 : Bytes := [0x06, 0x08, 0x2A, 0x86, 0x48, 0xCE, 0x3D, 0x03, 0x01, 0x07]
def oidExtReq : Bytes := [0x06, 0x09, 0x2A, 0x86, 0x48, 0x86, 0xF7, 0x0D, 0x01, 0x09, 0x0E]
def oidSan : Bytes := [0x06, 0x03, 0x55, 0x1D, 0x11]
def oidEcdsaSha256 : Bytes := [0x06, 0x08, 0x2A, 0x86, 0x48, 0xCE, 0x3D, 0x04, 0x03, 0x02]
def version0 : Bytes := [0x02, 0x01, 0x00]

structure CArray (size : Nat) where
  bytes : Bytes
  length : bytes.length = size

structure CsrScratch where
  a : Bytes
  b : Bytes
  c : Bytes
  d : Bytes

structure CsrStack where
  a : CArray 1024
  b : CArray 1024
  c : CArray 1024
  d : CArray 1024
  subject : CArray 512
  bitpub : CArray 66
  spki : CArray 256
  attrs : CArray 512
  ints : CArray 80
  derSig : CArray 80
  sigbits : CArray 81

def CsrStack.scratch (stack : CsrStack) : CsrScratch :=
  ⟨stack.a.bytes, stack.b.bytes, stack.c.bytes, stack.d.bytes⟩

/-- `sha256_bytes` and `sign_es256` -/
structure CsrLibrary where
  sha256Bytes : Bytes → Except EspErr (CArray 32)
  signEs256 : CertPrivateKey → CArray 32 → Except EspErr (CArray 64)

def csrSubject (hostname : Bytes) (scratch : CsrScratch) (subject : Bytes) :
    Except (Halt EspErr) (CsrScratch × Filled) := do
  let (a, al) ← derWrap 0x0C hostname hostname.length scratch.a
  let (b, bl) ← derConcat2 oidCn oidCn.length a al scratch.b
  let (a, al) ← derWrap 0x30 b bl a
  let (b, bl) ← derWrap 0x31 a al b
  let (c, cl) ← derWrap 0x30 b bl scratch.c
  let subject ← memcpy subject 0 c cl
  return ({ scratch with a, b, c }, subject, cl)

def csrSpki (publicKey : Bytes) (scratch : CsrScratch) (bitpub spki : Bytes) :
    Except (Halt EspErr) (CsrScratch × Filled) := do
  let (a, al) ← derConcat2 oidEcPub oidEcPub.length oidP256 oidP256.length scratch.a
  let (b, bl) ← derWrap 0x30 a al scratch.b
  let bitpub ← memcpy bitpub 0 [0] 1
  let bitpub ← memcpy bitpub 1 publicKey 65
  let (c, cl) ← derWrap 0x03 bitpub bitpub.length scratch.c
  let (a, al) ← derConcat2 b bl c cl a
  let (d, dl) ← derWrap 0x30 a al scratch.d
  let spki ← memcpy spki 0 d dl
  return (⟨a, b, c, d⟩, spki, dl)

def csrAttributes (hostname : Bytes) (scratch : CsrScratch) (attrs : Bytes) :
    Except (Halt EspErr) (CsrScratch × Filled) := do
  let (a, al) ← derWrap 0x82 hostname hostname.length scratch.a
  let (b, bl) ← derWrap 0x30 a al scratch.b
  let (c, cl) ← derWrap 0x04 b bl scratch.c
  let (a, al) ← derConcat2 oidSan oidSan.length c cl a
  let (b, bl) ← derWrap 0x30 a al b
  let (c, cl) ← derWrap 0x30 b bl c
  let (d, dl) ← derWrap 0x31 c cl scratch.d
  let (a, al) ← derConcat2 oidExtReq oidExtReq.length d dl a
  let (b, bl) ← derWrap 0x30 a al b
  let (c, cl) ← derWrap 0xA0 b bl c
  let attrs ← memcpy attrs 0 c cl
  return (⟨a, b, c, d⟩, attrs, cl)

def csrInfo (subject spki attrs : Filled) (scratch : CsrScratch) :
    Except (Halt EspErr) (CsrScratch × Nat) := do
  let (a, al) ← derConcat3 version0 version0.length subject.1 subject.2 spki.1 spki.2 scratch.a
  let (b, bl) ← derConcat2 a al attrs.1 attrs.2 scratch.b
  let (c, cl) ← derWrap 0x30 b bl scratch.c
  return ({ scratch with a, b, c }, cl)

/-- From the signature of the `cl` bytes in `c` to the request in `out`. -/
def csrSigned (scratch : CsrScratch) (cl : Nat) (derSig : Filled) (sigbits out : Bytes) :
    Except (Halt EspErr) Filled := do
  let (a, al) ← derWrap 0x30 oidEcdsaSha256 oidEcdsaSha256.length scratch.a
  if derSig.2 + 1 > sigbits.length then .error (.error .invalidSize)
  else
    let sigbits ← memcpy sigbits 0 [0] 1
    let sigbits ← memcpy sigbits 1 derSig.1 derSig.2
    let (b, bl) ← derWrap 0x03 sigbits (derSig.2 + 1) scratch.b
    let (d, dl) ← derConcat3 scratch.c cl a al b bl scratch.d
    derWrap 0x30 d dl out

def called {α : Type} : Except EspErr α → Except (Halt EspErr) α
  | .error err => .error (.error err)
  | .ok a => .ok a

def buildCsrDer (lib : CsrLibrary) (stack : CsrStack) (hostname : Bytes) (privateKey : CertPrivateKey)
    (publicKey : CArray 65) (out : Bytes) : Except (Halt EspErr) Filled :=
  if ¬dnsNameIsValid hostname then .error (.error .invalidArg)
  else do
    let (scratch, subject) ← csrSubject hostname stack.scratch stack.subject.bytes
    let (scratch, spki) ← csrSpki publicKey.bytes scratch stack.bitpub.bytes stack.spki.bytes
    let (scratch, attrs) ← csrAttributes hostname scratch stack.attrs.bytes
    let (scratch, cl) ← csrInfo subject spki attrs scratch
    let digest ← called (lib.sha256Bytes (scratch.c.take cl))
    let rawSig ← called (lib.signEs256 privateKey digest)
    let derSig ← ecdsaRawToDer rawSig.bytes stack.ints.bytes stack.derSig.bytes
    csrSigned scratch cl derSig stack.sigbits.bytes out

end NtsTimeServer.Model
