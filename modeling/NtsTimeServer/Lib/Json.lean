import NtsTimeServer.Lib.CString

/-!
# JSON texts

A value as it is written: with the space around its tokens, its members in their order, and its strings
with their escapes.
-/

namespace NtsTimeServer.Lib

structure Spaced (α : Type) where
  before : Bytes
  value : α
  after : Bytes

/-- `space` follows the opening bracket. A string is what is between its quotes. -/
inductive Json
  | scalar (text : Bytes)
  | string (raw : Bytes)
  | array (space : Bytes) (elements : List (Spaced Json))
  | object (space : Bytes) (members : List (Spaced Bytes × Spaced Json))

def quoted (raw : Bytes) : Bytes := 0x22 :: (raw ++ [0x22])

def Spaced.text {α : Type} (text : α → Bytes) (spaced : Spaced α) : Bytes :=
  spaced.before ++ text spaced.value ++ spaced.after

mutual
def Json.text : Json → Bytes
  | .scalar text => text
  | .string raw => quoted raw
  | .array space elements => 0x5B :: (space ++ elementsText elements ++ [0x5D])
  | .object space members => 0x7B :: (space ++ membersText members ++ [0x7D])

def elementsText : List (Spaced Json) → Bytes
  | [] => []
  | [⟨before, value, after⟩] => before ++ value.text ++ after
  | ⟨before, value, after⟩ :: rest => before ++ value.text ++ after ++ 0x2C :: elementsText rest

def membersText : List (Spaced Bytes × Spaced Json) → Bytes
  | [] => []
  | [(name, ⟨before, value, after⟩)] => name.text quoted ++ 0x3A :: (before ++ value.text ++ after)
  | (name, ⟨before, value, after⟩) :: rest =>
      name.text quoted ++ 0x3A :: (before ++ value.text ++ after ++ 0x2C :: membersText rest)
end

def isJsonSpace (c : UInt8) : Bool := c = 0x20 || c = 0x09 || c = 0x0D || c = 0x0A

def isPlain (c : UInt8) : Bool := c ≠ 0x22 && c ≠ 0x5C && 0x20 ≤ c

def jsonHexDigit (c : UInt8) : Option Nat :=
  if 0x30 ≤ c ∧ c ≤ 0x39 then some (c.toNat - 0x30)
  else if 0x61 ≤ c ∧ c ≤ 0x66 then some (c.toNat - 0x57)
  else if 0x41 ≤ c ∧ c ≤ 0x46 then some (c.toNat - 0x37)
  else none

def codeUnit (a b c d : UInt8) : Option Nat := do
  return (((← jsonHexDigit a) * 16 + (← jsonHexDigit b)) * 16 + (← jsonHexDigit c)) * 16 + (← jsonHexDigit d)

def utf8 (code : Nat) : Bytes :=
  if code < 0x80 then [UInt8.ofNat code]
  else if code < 0x800 then [UInt8.ofNat (0xC0 + code / 64), UInt8.ofNat (0x80 + code % 64)]
  else if code < 0x10000 then [UInt8.ofNat (0xE0 + code / 4096), UInt8.ofNat (0x80 + code / 64 % 64),
    UInt8.ofNat (0x80 + code % 64)]
  else [UInt8.ofNat (0xF0 + code / 262144), UInt8.ofNat (0x80 + code / 4096 % 64),
    UInt8.ofNat (0x80 + code / 64 % 64), UInt8.ofNat (0x80 + code % 64)]

def isHigh (unit : Nat) : Bool := 0xD800 ≤ unit && unit < 0xDC00

def isLow (unit : Nat) : Bool := 0xDC00 ≤ unit && unit < 0xE000

def simpleEscape (c : UInt8) : Option UInt8 :=
  if c = 0x22 ∨ c = 0x5C ∨ c = 0x2F then some c
  else if c = 0x62 then some 0x08
  else if c = 0x66 then some 0x0C
  else if c = 0x6E then some 0x0A
  else if c = 0x72 then some 0x0D
  else if c = 0x74 then some 0x09
  else none

def surrogates (high low : Nat) : Nat := 0x10000 + (high - 0xD800) * 0x400 + (low - 0xDC00)

/-- The content of a string. Two escapes are one character if they are a high and a low surrogate. -/
def unescape : Bytes → Option Bytes
  | [] => some []
  | 0x5C :: 0x75 :: a :: b :: c :: d :: 0x5C :: 0x75 :: e :: f :: g :: h :: rest =>
      (codeUnit a b c d).bind fun unit =>
        (codeUnit e f g h).bind fun low =>
          if isHigh unit && isLow low then (unescape rest).map (utf8 (surrogates unit low) ++ ·)
          else (unescape (0x5C :: 0x75 :: e :: f :: g :: h :: rest)).map (utf8 unit ++ ·)
  | 0x5C :: 0x75 :: a :: b :: c :: d :: rest =>
      (codeUnit a b c d).bind fun unit => (unescape rest).map (utf8 unit ++ ·)
  | 0x5C :: c :: rest => (simpleEscape c).bind fun byte => (unescape rest).map (byte :: ·)
  | c :: rest => if isPlain c then (unescape rest).map (c :: ·) else none

def isJsonDigit (c : UInt8) : Bool := 0x30 ≤ c && c ≤ 0x39

def isExponent : Bytes → Bool
  | [] => true
  | e :: rest =>
      let digits := if rest.head? = some 0x2B ∨ rest.head? = some 0x2D then rest.tail else rest
      (e = 0x65 || e = 0x45) && !digits.isEmpty && digits.all isJsonDigit

def isFraction : Bytes → Bool
  | 0x2E :: rest => !(rest.takeWhile isJsonDigit).isEmpty && isExponent (rest.dropWhile isJsonDigit)
  | rest => isExponent rest

def isNumber (text : Bytes) : Bool :=
  let unsigned := if text.head? = some 0x2D then text.tail else text
  let whole := unsigned.takeWhile isJsonDigit
  !whole.isEmpty && (whole.head? ≠ some 0x30 || whole.length = 1) &&
    isFraction (unsigned.dropWhile isJsonDigit)

def isScalar (text : Bytes) : Bool :=
  text = ascii "true" || text = ascii "false" || text = ascii "null" || isNumber text

/-! ## Values -/

def Spaced.isSpaced {α : Type} (spaced : Spaced α) : Bool :=
  spaced.before.all isJsonSpace && spaced.after.all isJsonSpace

mutual
def Json.isValid : Json → Bool
  | .scalar text => isScalar text
  | .string raw => (unescape raw).isSome
  | .array space elements => space.all isJsonSpace && elementsAreValid elements
  | .object space members => space.all isJsonSpace && membersAreValid members &&
      decide (members.map fun member => unescape member.1.value).Nodup

def elementsAreValid : List (Spaced Json) → Bool
  | [] => true
  | ⟨before, value, after⟩ :: rest =>
      before.all isJsonSpace && value.isValid && after.all isJsonSpace && elementsAreValid rest

def membersAreValid : List (Spaced Bytes × Spaced Json) → Bool
  | [] => true
  | (name, ⟨before, value, after⟩) :: rest =>
      name.isSpaced && (unescape name.value).isSome && before.all isJsonSpace && value.isValid &&
        after.all isJsonSpace && membersAreValid rest
end

def Json.member (name : Bytes) : Json → Option Json
  | .object _ members =>
      (members.find? fun member => unescape member.1.value = some name).map (·.2.value)
  | _ => none

end NtsTimeServer.Lib
