import Mathlib.Data.Nat.Log
import NtsTimeServer.Lib.Bytes

/-!
# Distinguished encoding

An element is a tag, the length of its content and its content, which is a sequence of elements if the tag
says so. Tags have one byte. A length below 128 is one byte; another is the number of its bytes and then
these, as few as possible.
-/

namespace NtsTimeServer.Lib

def lengthOctets (n : Nat) : Bytes :=
  if n < 128 then [UInt8.ofNat n]
  else UInt8.ofNat (128 + (Nat.log 256 n + 1)) :: beBytes (Nat.log 256 n + 1) n

def lengthLimit : Nat := 256 ^ 126

def readLength : Bytes → Option (Nat × Bytes)
  | [] => none
  | first :: rest =>
      let count := if first.toNat < 128 then 0 else first.toNat - 128
      let n := if first.toNat < 128 then first.toNat else beValue (rest.take count)
      if lengthOctets n = first :: rest.take count then some (n, rest.drop count) else none

theorem lengthOctets_pos (n : Nat) : 1 ≤ (lengthOctets n).length := by
  unfold lengthOctets
  split <;> simp

theorem lengthOctets_medium {n : Nat} (least : 128 ≤ n) (most : n < 256) :
    lengthOctets n = [0x81, UInt8.ofNat n] := by
  have log : Nat.log 256 n = 0 := Nat.log_of_lt most
  rw [lengthOctets, if_neg (by omega), log]
  rfl

theorem lengthOctets_large {n : Nat} (least : 256 ≤ n) (most : n < 65536) :
    lengthOctets n = [0x82, UInt8.ofNat (n / 256), UInt8.ofNat n] := by
  have log : Nat.log 256 n = 1 := Nat.log_eq_of_pow_le_of_lt_pow (by omega) (by omega)
  rw [lengthOctets, if_neg (by omega), log]
  rfl

theorem readLength_lengthOctets {n : Nat} (short : n < lengthLimit) (rest : Bytes) :
    readLength (lengthOctets n ++ rest) = some (n, rest) := by
  by_cases one : n < 128
  · have byte : (UInt8.ofNat n).toNat = n := by
      rw [UInt8.toNat_ofNat']
      omega
    simp [lengthOctets, readLength, one, byte]
  · have count : Nat.log 256 n + 1 ≤ 126 := by
      have below : Nat.log 256 n < 126 := Nat.log_lt_of_lt_pow (by omega) short
      omega
    have byte : (UInt8.ofNat (128 + (Nat.log 256 n + 1))).toNat = 128 + (Nat.log 256 n + 1) := by
      rw [UInt8.toNat_ofNat']
      omega
    have long : ¬128 + (Nat.log 256 n + 1) < 128 := by omega
    have value : beValue (beBytes (Nat.log 256 n + 1) n) = n := by
      rw [beValue_beBytes, Nat.mod_eq_of_lt (Nat.lt_pow_succ_log_self (by decide) n)]
    have octets : lengthOctets n =
        UInt8.ofNat (128 + (Nat.log 256 n + 1)) :: beBytes (Nat.log 256 n + 1) n := by
      rw [lengthOctets, if_neg one]
    have taken : (beBytes (Nat.log 256 n + 1) n ++ rest).take (Nat.log 256 n + 1) =
        beBytes (Nat.log 256 n + 1) n := List.take_left' (beBytes_length _ _)
    have dropped : (beBytes (Nat.log 256 n + 1) n ++ rest).drop (Nat.log 256 n + 1) = rest :=
      List.drop_left' (beBytes_length _ _)
    rw [octets, List.cons_append, readLength]
    simp only [byte, if_neg long, Nat.add_sub_cancel_left, taken, dropped, value, octets, if_true]

/-! ## Elements -/

inductive Der
  | primitive (tag : UInt8) (content : Bytes)
  | constructed (tag : UInt8) (children : List Der)

def tagged (tag : UInt8) (content : Bytes) : Bytes := tag :: (lengthOctets content.length ++ content)

mutual
def Der.encode : Der → Bytes
  | .primitive tag content => tagged tag content
  | .constructed tag children => tagged tag (encodeAll children)

def encodeAll : List Der → Bytes
  | [] => []
  | element :: rest => element.encode ++ encodeAll rest
end

/-- The sixth bit of a tag; the five bits below it hold the number of the tag if not all of them are set. -/
def isConstructed (tag : UInt8) : Bool := tag &&& 0x20 != 0

def isShortTag (tag : UInt8) : Bool := tag &&& 0x1F != 0x1F

mutual
def Der.wellTagged : Der → Bool
  | .primitive tag _ => isShortTag tag && !isConstructed tag
  | .constructed tag children => isShortTag tag && isConstructed tag && allWellTagged children

def allWellTagged : List Der → Bool
  | [] => true
  | element :: rest => element.wellTagged && allWellTagged rest
end

def parseDerFrom : Nat → Bytes → Option (List Der)
  | _, [] => some []
  | 0, _ => none
  | fuel + 1, tag :: bytes =>
      if !isShortTag tag then none
      else (readLength bytes).bind fun (length, bytes) =>
        if bytes.length < length then none
        else
          let element :=
            if isConstructed tag then (parseDerFrom fuel (bytes.take length)).map (Der.constructed tag)
            else some (.primitive tag (bytes.take length))
          element.bind fun element => (parseDerFrom fuel (bytes.drop length)).map (element :: ·)

def parseDer (bytes : Bytes) : Option (List Der) := parseDerFrom bytes.length bytes

@[simp] theorem encodeAll_nil : encodeAll [] = [] := by rw [encodeAll]

@[simp] theorem encodeAll_cons (element : Der) (rest : List Der) :
    encodeAll (element :: rest) = element.encode ++ encodeAll rest := by rw [encodeAll]

@[simp] theorem encode_primitive (tag : UInt8) (content : Bytes) :
    (Der.primitive tag content).encode = tagged tag content := by rw [Der.encode]

@[simp] theorem encode_constructed (tag : UInt8) (children : List Der) :
    (Der.constructed tag children).encode = tagged tag (encodeAll children) := by rw [Der.encode]

theorem tagged_length (tag : UInt8) (content : Bytes) :
    (tagged tag content).length = 1 + (lengthOctets content.length).length + content.length := by
  simp only [tagged, List.length_cons, List.length_append]
  omega

theorem length_lt_tagged (tag : UInt8) (content : Bytes) :
    content.length + 2 ≤ (tagged tag content).length := by
  have := lengthOctets_pos content.length
  rw [tagged_length]
  omega

theorem tagged_length_le {content : Bytes} (short : content.length < 65536) (tag : UInt8) :
    (tagged tag content).length ≤ content.length + 4 := by
  rw [tagged_length]
  by_cases one : content.length < 128
  · rw [lengthOctets, if_pos one, List.length_singleton]
    omega
  · by_cases two : content.length < 256
    · rw [lengthOctets_medium (by omega) two, List.length_cons, List.length_singleton]
      omega
    · rw [lengthOctets_large (by omega) short, List.length_cons, List.length_cons, List.length_singleton]
      omega

theorem parseDerFrom_tagged {tag : UInt8} {content rest : Bytes} (short : content.length < lengthLimit)
    (shortTag : isShortTag tag = true) (fuel : Nat) :
    parseDerFrom (fuel + 1) (tagged tag content ++ rest) =
      (if isConstructed tag then (parseDerFrom fuel content).map (Der.constructed tag)
        else some (.primitive tag content)).bind fun element =>
          (parseDerFrom fuel rest).map (element :: ·) := by
  have enough : ¬(content ++ rest).length < content.length := by
    rw [List.length_append]
    omega
  have taken : (content ++ rest).take content.length = content := List.take_left' rfl
  have dropped : (content ++ rest).drop content.length = rest := List.drop_left' rfl
  rw [tagged, List.cons_append, List.append_assoc, parseDerFrom, shortTag,
    readLength_lengthOctets short]
  simp only [Option.bind_some, if_neg enough, taken, dropped]
  rfl

theorem parseDerFrom_encodeAll {elements : List Der} (tags : allWellTagged elements = true)
    (short : (encodeAll elements).length < lengthLimit) {fuel : Nat}
    (enough : (encodeAll elements).length ≤ fuel) :
    parseDerFrom fuel (encodeAll elements) = some elements := by
  induction fuel generalizing elements with
  | zero =>
      cases elements with
      | nil => rw [encodeAll_nil, parseDerFrom]
      | cons element rest =>
          rw [encodeAll_cons, List.length_append] at enough
          cases element with
          | primitive tag content =>
              have := length_lt_tagged tag content
              rw [encode_primitive] at enough
              omega
          | constructed tag children =>
              have := length_lt_tagged tag (encodeAll children)
              rw [encode_constructed] at enough
              omega
  | succ fuel ih =>
      cases elements with
      | nil => rw [encodeAll_nil, parseDerFrom]
      | cons element rest =>
          rw [allWellTagged, Bool.and_eq_true] at tags
          rw [encodeAll_cons, List.length_append] at short enough
          cases element with
          | primitive tag content =>
              have longer := length_lt_tagged tag content
              rw [encode_primitive] at short enough
              rw [Der.wellTagged, Bool.and_eq_true, Bool.not_eq_true'] at tags
              rw [encodeAll_cons, encode_primitive, parseDerFrom_tagged (by omega) tags.1.1, tags.1.2,
                ih tags.2 (by omega) (by omega)]
              rfl
          | constructed tag children =>
              have longer := length_lt_tagged tag (encodeAll children)
              rw [encode_constructed] at short enough
              rw [Der.wellTagged, Bool.and_eq_true, Bool.and_eq_true] at tags
              rw [encodeAll_cons, encode_constructed, parseDerFrom_tagged (by omega) tags.1.1.1, tags.1.1.2,
                ih tags.1.2 (by omega) (by omega), ih tags.2 (by omega) (by omega)]
              rfl

theorem parseDer_encodeAll {elements : List Der} (tags : allWellTagged elements = true)
    (short : (encodeAll elements).length < lengthLimit) :
    parseDer (encodeAll elements) = some elements :=
  parseDerFrom_encodeAll tags short le_rfl

/-! ## Unsigned integers -/

def minimalOctets : Bytes → Bytes
  | [] => []
  | [byte] => [byte]
  | byte :: second :: rest =>
      if byte = 0 then minimalOctets (second :: rest) else byte :: second :: rest

/-- The content of a number, whose first bit is its sign. -/
def unsignedOctets (bytes : Bytes) : Bytes :=
  if 128 ≤ byteAt (minimalOctets bytes) 0 then 0 :: minimalOctets bytes else minimalOctets bytes

theorem beValue_minimalOctets (bytes : Bytes) : beValue (minimalOctets bytes) = beValue bytes := by
  induction bytes using minimalOctets.induct with
  | case1 => rfl
  | case2 byte => rfl
  | case3 second rest ih =>
      rw [minimalOctets, if_pos rfl, ih, beValue_cons 0]
      simp
  | case4 byte second rest nonzero => rw [minimalOctets, if_neg nonzero]

theorem beValue_unsignedOctets (bytes : Bytes) : beValue (unsignedOctets bytes) = beValue bytes := by
  rw [unsignedOctets]
  split
  · rw [beValue_cons, beValue_minimalOctets]
    simp
  · exact beValue_minimalOctets bytes

theorem infix_tagged (tag : UInt8) (content : Bytes) : content <:+: tagged tag content :=
  ⟨tag :: lengthOctets content.length, [], by simp [tagged]⟩

theorem infix_encodeAll {element : Der} {elements : List Der} (member : element ∈ elements) :
    element.encode <:+: encodeAll elements := by
  induction elements with
  | nil => cases member
  | cons first rest ih =>
      rw [encodeAll_cons]
      rcases List.mem_cons.mp member with rfl | member
      · exact (List.prefix_append _ _).isInfix
      · exact (ih member).trans (List.suffix_append _ _).isInfix

theorem infix_constructed {tag : UInt8} {element : Der} {children : List Der}
    (member : element ∈ children) : element.encode <:+: (Der.constructed tag children).encode := by
  rw [encode_constructed]
  exact (infix_encodeAll member).trans (infix_tagged tag _)

end NtsTimeServer.Lib
