import NtsTimeServer.Lib.CString
import NtsTimeServer.Lib.Search
import NtsTimeServer.Model.Types

/-!
# JSON in ACME responses

The readers of `acme_client.c` that look for a member in the text of a response. A text is its bytes up to
the terminator, a pointer into it the bytes from there on. What a reader that fails leaves in the output
is not used by its callers.
-/

namespace NtsTimeServer.Model
open Lib

def acmeUrlMaxLength : Nat := 384
def acmeChallengeTokenMaxLength : Nat := 255

def skipWs (p : Bytes) : Bytes := p.dropWhile fun c => c = 0x20 || c = 0x09 || c = 0x0D || c = 0x0A

/-- The last loop of `extract_json_string`, after `used` bytes of the output. -/
def copyString (outputSize : Nat) : Nat → Bytes → Option Bytes
  | _, [] => none
  | used, c :: p =>
      if c = 0x22 then if used = 0 then none else some []
      else if c = 0x5C ∨ c < 0x20 ∨ used + 1 ≥ outputSize then none
      else (copyString outputSize (used + 1) p).map (c :: ·)

def extractJsonString (json name : Bytes) (outputSize : Nat) : Option Bytes :=
  if outputSize < 2 then none
  else
    let key := 0x22 :: (name ++ [0x22])
    if key.length ≥ 64 then none
    else match findPattern key json with
      | none => none
      | some offset =>
          match skipWs (json.drop (offset + key.length)) with
          | [] => none
          | colon :: p =>
              if colon ≠ 0x3A then none
              else match skipWs p with
                | [] => none
                | quote :: p => if quote ≠ 0x22 then none else copyString outputSize 0 p

structure Dns01Challenge where
  url : Bytes
  token : Bytes
  status : Bytes
  deriving DecidableEq, Repr

def dns01Type : Bytes := ascii "\"type\":\"dns-01\""
def dns01SpacedType : Bytes := ascii "\"type\": \"dns-01\""

/-- `while (start > json && *start != '\x7b') --start` -/
def scanBack (json : Bytes) : Nat → Nat
  | 0 => 0
  | start + 1 => if byteAt json (start + 1) ≠ 0x7B then scanBack json start else start + 1

def extractDns01Challenge (json : Bytes) (urlSize tokenSize statusSize : Nat) : Option Dns01Challenge :=
  match (findPattern dns01Type json).or (findPattern dns01SpacedType json) with
  | none => none
  | some type =>
      let start := scanBack json type
      if byteAt json start ≠ 0x7B then none
      else match findPattern [0x7D] (json.drop type) with
        | none => none
        | some rest =>
            let length := type + rest - start + 1
            if length ≥ 1536 then none
            else
              let object := window json start length
              (extractJsonString object (ascii "url") urlSize).bind fun url =>
                (extractJsonString object (ascii "token") tokenSize).bind fun token =>
                  (extractJsonString object (ascii "status") statusSize).map fun status =>
                    ⟨url, token, status⟩

structure AuthorizationStatus where
  authorization : Bytes
  challenge : Bytes
  deriving DecidableEq, Repr

def parseAuthorizationStatus (json : Bytes) (authorizationStatusSize challengeStatusSize : Nat) :
    Except EspErr AuthorizationStatus :=
  match extractJsonString json (ascii "status") authorizationStatusSize with
  | none => .error .invalidResponse
  | some authorization =>
      match extractDns01Challenge json acmeUrlMaxLength (acmeChallengeTokenMaxLength + 1)
        challengeStatusSize with
      | none => .error .invalidResponse
      | some challenge => .ok ⟨authorization, challenge.status⟩

end NtsTimeServer.Model
