import NtsTimeServer.Lib.Memory
import NtsTimeServer.Model.Types

/-!
# base64url

The encoder of `acme_client.c`, into a buffer of a given size. `size_t` has 32 bits.
-/

namespace NtsTimeServer.Model
open Lib

def base64urlAlphabet : Bytes :=
  "ABCDEFGHIJKLMNOPQRSTUVWXYZabcdefghijklmnopqrstuvwxyz0123456789-_".toList.map fun c =>
    UInt8.ofNat c.toNat

/-- `output[out++] = alphabet[index]` for each of the indices. -/
def putAlphabet : Bytes → Nat → List Nat → Except (Halt EspErr) (Bytes × Nat)
  | output, out, [] => .ok (output, out)
  | output, out, index :: rest => do
      let output ← memcpy output out [base64urlAlphabet.getD index 0] 1
      putAlphabet output (out + 1) rest

def base64urlGroups : Bytes → Bytes → Nat → Except (Halt EspErr) (Bytes × Nat)
  | [], output, out => .ok (output, out)
  | [a], output, out =>
      let value := a.toNat <<< 16
      putAlphabet output out [value >>> 18 &&& 0x3F, value >>> 12 &&& 0x3F]
  | [a, b], output, out =>
      let value := a.toNat <<< 16 ||| b.toNat <<< 8
      putAlphabet output out [value >>> 18 &&& 0x3F, value >>> 12 &&& 0x3F, value >>> 6 &&& 0x3F]
  | a :: b :: c :: input, output, out => do
      let value := a.toNat <<< 16 ||| b.toNat <<< 8 ||| c.toNat
      let (output, out) ← putAlphabet output out
        [value >>> 18 &&& 0x3F, value >>> 12 &&& 0x3F, value >>> 6 &&& 0x3F, value &&& 0x3F]
      base64urlGroups input output out

/-- The characters of the encoding, as the size check counts them. -/
def base64urlUnpadded (inputLength : Nat) : Nat :=
  let required := u32 (u32 (inputLength + 2) / 3 * 4)
  let padding := (3 - inputLength % 3) % 3
  u32 (required + 2 ^ 32 - padding)

def base64url (input output : Bytes) : Except (Halt EspErr) Bytes :=
  if output.length < 2 then .error (.error .invalidArg)
  else if u32 (base64urlUnpadded input.length + 1) > output.length then .error (.error .invalidSize)
  else do
    let (output, out) ← base64urlGroups input output 0
    memcpy output out [0] 1

end NtsTimeServer.Model
