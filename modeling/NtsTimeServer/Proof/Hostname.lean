import NtsTimeServer.Lib.Labels
import NtsTimeServer.Model.CertStore
import NtsTimeServer.Proof.DeviceConfig

namespace NtsTimeServer.Proof
open Model Lib

def dot : UInt8 := 0x2E
def hyphen : UInt8 := 0x2D

def LowercaseLetter (c : UInt8) : Prop := 0x61 ≤ c ∧ c ≤ 0x7A

def Digit (c : UInt8) : Prop := 0x30 ≤ c ∧ c ≤ 0x39

def dnsGrammar : LabelGrammar UInt8 where
  separator := dot
  hyphen := hyphen
  allowed c := LowercaseLetter c ∨ Digit c ∨ c = hyphen
  limit := 63
  separated := by simp only [LowercaseLetter, Digit, dot, hyphen]; decide

structure DnsName (name : Bytes) : Prop where
  length : 1 ≤ name.length ∧ name.length ≤ 253
  labels : dnsGrammar.Labelled name

def zoneGrammar : LabelGrammar UInt8 where
  separator := dot
  hyphen := hyphen
  allowed c := isalnum c = true ∨ c = hyphen
  limit := 63
  separated := by decide

theorem isLabel_iff_ends {grammar : LabelGrammar UInt8} {label : Bytes} (scanned : grammar.Scanned label)
    (same : grammar.hyphen = hyphen) : grammar.IsLabel label ↔
      0 < label.length ∧ label.length ≤ grammar.limit ∧ label.getLastD 0 ≠ hyphen := by
  rw [LabelGrammar.isLabel_iff scanned, same]
  refine and_congr_right fun nonempty => and_congr_right fun _ => ?_
  cases label using List.reverseRecOn with
  | nil => cases nonempty
  | append_singleton label c => simp

section
variable {length : Nat} {first : Bool} {previous c : UInt8} {rest : Bytes}

theorem dnsLabelsAreValid_start : dnsLabelsAreValid 0 previous rest = dnsLabelsAreValid 0 0 rest := by
  cases rest <;> simp [dnsLabelsAreValid]

theorem dnsLabelsAreValid_dot : dnsLabelsAreValid length previous (dot :: rest) = true ↔
    (0 < length ∧ length ≤ 63 ∧ previous ≠ hyphen) ∧ dnsLabelsAreValid 0 0 rest = true := by
  rw [dnsLabelsAreValid, if_pos (show dot = 0x2E from rfl), ← @dnsLabelsAreValid_start dot]
  simp [hyphen, Nat.pos_iff_ne_zero, and_assoc]

theorem dnsLabelsAreValid_character (inside : c ≠ dot) :
    dnsLabelsAreValid length previous (c :: rest) = true ↔
      (dnsGrammar.allowed c ∧ (length = 0 → c ≠ hyphen)) ∧
        dnsLabelsAreValid (length + 1) c rest = true := by
  rw [dnsLabelsAreValid, if_neg (show ¬c = 0x2E from inside)]
  simp [dnsGrammar, LowercaseLetter, Digit, hyphen, imp_iff_not_or]

theorem zoneLabelsAreValid_start :
    zoneLabelsAreValid 0 true previous rest = zoneLabelsAreValid 0 true 0 rest := by
  cases rest <;> simp [zoneLabelsAreValid]

theorem zoneLabelsAreValid_dot : zoneLabelsAreValid length first previous (dot :: rest) = true ↔
    (0 < length ∧ previous ≠ hyphen) ∧ zoneLabelsAreValid 0 true 0 rest = true := by
  rw [zoneLabelsAreValid, if_pos (show dot = 0x2E from rfl), ← @zoneLabelsAreValid_start 0x2E]
  simp [hyphen, Nat.pos_iff_ne_zero, and_assoc]

theorem zoneLabelsAreValid_character (inside : c ≠ dot) :
    zoneLabelsAreValid length first previous (c :: rest) = true ↔
      (zoneGrammar.allowed c ∧ (first = true → c ≠ hyphen) ∧ length + 1 ≤ 63) ∧
        zoneLabelsAreValid (length + 1) false c rest = true := by
  rw [zoneLabelsAreValid, if_neg (show ¬c = 0x2E from inside)]
  simp [zoneGrammar, hyphen, imp_iff_not_or, and_assoc]

end

theorem dnsLabelsAreValid_iff (name : Bytes) :
    dnsLabelsAreValid 0 0 name = true ↔ dnsGrammar.Labelled name := by
  refine LabelGrammar.scan_iff
    (fun label rest => dnsLabelsAreValid label.length (label.getLastD 0) rest = true)
    dnsGrammar.Scanned ?_ ?_ ?_ (fun _ _ _ => id) (fun _ scanned _ => scanned) LabelGrammar.scanned_nil
    name
  · intro label scanned
    rw [isLabel_iff_ends scanned rfl]
    simp [dnsLabelsAreValid, dnsGrammar, hyphen, and_assoc]
  · intro label rest scanned
    rw [isLabel_iff_ends scanned rfl]
    exact dnsLabelsAreValid_dot
  · intro label c rest scanned inside
    rw [LabelGrammar.scanned_snoc, dnsLabelsAreValid_character inside, List.length_eq_zero_iff,
      List.length_append, List.getLastD_concat]
    exact and_congr_left fun _ => ⟨fun next => ⟨scanned, next⟩, fun next => next.2⟩

theorem zoneLabelsAreValid_iff (name : Bytes) :
    zoneLabelsAreValid 0 true 0 name = true ↔ zoneGrammar.Labelled name := by
  have scan := LabelGrammar.scan_iff
    (fun label rest => label.length ≤ 63 ∧
      zoneLabelsAreValid label.length label.isEmpty (label.getLastD 0) rest = true)
    zoneGrammar.Scanned ?_ ?_ ?_ (fun _ _ _ => id) (fun _ scanned _ => scanned) LabelGrammar.scanned_nil
    name
  · simpa using scan
  · intro label scanned
    rw [isLabel_iff_ends scanned rfl, and_left_comm]
    simp [zoneLabelsAreValid, zoneGrammar, hyphen]
  · intro label rest scanned
    rw [isLabel_iff_ends scanned rfl]
    have next := @zoneLabelsAreValid_dot label.length label.isEmpty (label.getLastD 0) rest
    change _ ∧ zoneLabelsAreValid _ _ _ (dot :: rest) = true ↔ (_ ∧ _ ≤ 63 ∧ _) ∧ 0 ≤ 63 ∧ _
    rw [next]
    simp [and_assoc, and_left_comm]
  · intro label c rest scanned inside
    have empty : (label ++ [c]).isEmpty = false := by simp
    rw [LabelGrammar.scanned_snoc, zoneLabelsAreValid_character inside, List.isEmpty_iff, empty,
      List.length_append, List.getLastD_concat]
    constructor
    · rintro ⟨-, ⟨allowed, first, length⟩, goes⟩
      exact ⟨⟨scanned, allowed, first⟩, length, goes⟩
    · rintro ⟨⟨-, allowed, first⟩, length, goes⟩
      exact ⟨Nat.le_of_succ_le length, ⟨allowed, first, length⟩, goes⟩

/-! ## The validators -/

theorem labelled_ends {grammar : LabelGrammar UInt8} {name : Bytes} (labelled : grammar.Labelled name)
    (same : grammar.separator = dot) : name.head? ≠ some 0x2E ∧ name.getLast? ≠ some 0x2E := by
  have head := labelled.head
  have last := labelled.getLast
  rw [same] at head last
  exact ⟨head, last⟩

theorem dnsNameIsValid_iff (name : Bytes) : dnsNameIsValid name = true ↔ DnsName name := by
  rw [dnsNameIsValid]
  constructor
  · intro valid
    split at valid
    · cases valid
    · rename_i checked
      simp only [not_or, acmeDnsNameMaxLength] at checked
      exact ⟨by omega, (dnsLabelsAreValid_iff name).mp valid⟩
  · rintro ⟨length, labels⟩
    obtain ⟨head, last⟩ := labelled_ends labels rfl
    rw [if_neg, dnsLabelsAreValid_iff]
    · exact labels
    · simp only [not_or, acmeDnsNameMaxLength]
      exact ⟨by omega, by omega, head, last⟩

theorem zoneIsValid_iff (name : Bytes) : deviceConfigCloudflareZoneIsValid name = true ↔
    (1 ≤ name.length ∧ name.length ≤ 253) ∧ zoneGrammar.Labelled name := by
  rw [deviceConfigCloudflareZoneIsValid]
  constructor
  · intro valid
    split at valid
    · cases valid
    split at valid
    · cases valid
    · rename_i checked _
      simp only [not_or, appCloudflareZoneNameMaxLength] at checked
      exact ⟨by omega, (zoneLabelsAreValid_iff name).mp valid⟩
  · rintro ⟨length, labels⟩
    obtain ⟨head, last⟩ := labelled_ends labels rfl
    rw [if_neg, if_neg, zoneLabelsAreValid_iff]
    · exact labels
    · rw [List.headD_eq_head?_getD, List.getLastD_eq_getLast?]
      simp [Option.getD_eq_iff, head, last]
    · simp only [not_or, appCloudflareZoneNameMaxLength]
      omega

theorem lowercase_sameRole : LabelGrammar.SameRole zoneGrammar dnsGrammar tolower where
  separator := tolower_dot
  hyphen := tolower_hyphen
  allowed c := by
    have letters : (LowercaseLetter (tolower c) ∨ Digit (tolower c)) ↔ isalnum c = true := by
      have bound : tolower c = if 0x41 ≤ c ∧ c ≤ 0x5A then c + 0x20 else c := rfl
      rw [bound]
      simp only [LowercaseLetter, Digit, isalnum, UInt8.le_iff_toNat_le]
      split <;> simp <;> grind
    change LowercaseLetter _ ∨ Digit _ ∨ tolower c = 0x2D ↔ isalnum c = true ∨ c = 0x2D
    rw [tolower_hyphen, ← or_assoc, letters]
  limit := rfl

theorem hostname_validators_exact :
    (∀ name, dnsNameIsValid name = true ↔ DnsName name) ∧
      ∀ name, deviceConfigCloudflareZoneIsValid name = true ↔ dnsNameIsValid (lowercase name) = true := by
  refine ⟨dnsNameIsValid_iff, fun name => ?_⟩
  rw [zoneIsValid_iff, dnsNameIsValid_iff, ← LabelGrammar.labelled_map lowercase_sameRole,
    ← lowercase_length name]
  exact ⟨fun ⟨length, labels⟩ => ⟨length, labels⟩, fun ⟨length, labels⟩ => ⟨length, labels⟩⟩

end NtsTimeServer.Proof
