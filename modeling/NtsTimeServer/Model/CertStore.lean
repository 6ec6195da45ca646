import NtsTimeServer.Lib.Bytes
import NtsTimeServer.Lib.Durable
import NtsTimeServer.Model.Types

/-!
# The stored certificates

The part of `acme_client.c` that keeps the production credential in NVS: two slots, a selector, and the
names that were used before there were slots. Every NVS call works, and a function returns its result
together with the batches of writes that it commits.
-/

namespace NtsTimeServer.Model
open Lib

def acmeResponseMax : Nat := 16384
def acmeDnsNameMaxLength : Nat := 253
def acmeCertPrivateKeyLength : Nat := 32

/-! ## Validation -/

/-- The rest of a name for `dns_name_is_valid`, after `labelLength` characters of a label, the last of
them `previous`. -/
def dnsLabelsAreValid (labelLength : Nat) (previous : UInt8) : Bytes → Bool
  | [] => labelLength > 0 && labelLength ≤ 63 && previous != 0x2D
  | c :: rest =>
      if c = 0x2E then
        if labelLength = 0 ∨ labelLength > 63 ∨ previous = 0x2D then false
        else dnsLabelsAreValid 0 c rest
      else
        let ok := (0x61 ≤ c ∧ c ≤ 0x7A) ∨ (0x30 ≤ c ∧ c ≤ 0x39) ∨ c = 0x2D
        if ¬ok ∨ (labelLength = 0 ∧ c = 0x2D) then false else dnsLabelsAreValid (labelLength + 1) c rest

def dnsNameIsValid (name : Bytes) : Bool :=
  if name.length = 0 ∨ name.length > acmeDnsNameMaxLength ∨ name.head? = some 0x2E ∨
      name.getLast? = some 0x2E then false
  else dnsLabelsAreValid 0 0 name

structure CertLibrary where
  /-- `mbedtls_x509_crt_parse`: the DER of the first certificate -/
  parseChain : Bytes → Option Bytes
  /-- whether `psa_import_key` takes the key -/
  importKey : Bytes → Bool
  /-- `psa_export_public_key` -/
  exportPublicKey : Bytes → Option Bytes

def derContainsDnsSan (der hostname : Bytes) : Bool :=
  if hostname.length = 0 ∨ hostname.length > 127 ∨ der.length < hostname.length + 2 then false
  else (List.range (der.length - (hostname.length + 2) + 1)).any fun i =>
    byteAt der i == 0x82 && byteAt der (i + 1) == hostname.length &&
      window der (i + 2) hostname.length == hostname

def bytesContain (haystack needle : Bytes) : Bool :=
  if needle.length = 0 ∨ haystack.length < needle.length then false
  else (List.range (haystack.length - needle.length + 1)).any fun i =>
    window haystack i needle.length == needle

structure CertPrivateKey where
  bytes : Bytes
  length : bytes.length = acmeCertPrivateKeyLength
  deriving DecidableEq

structure CertMaterial where
  key : CertPrivateKey
  pem : Bytes
  host : Bytes
  deriving DecidableEq

def validateCertificateMaterial (lib : CertLibrary) (material : CertMaterial) : EspErr :=
  if ¬dnsNameIsValid material.host ∨ material.pem.length < 64 then .invalidArg
  else match lib.parseChain material.pem with
    | none => .invalidResponse
    | some der =>
        if der.length = 0 ∨ ¬derContainsDnsSan der material.host then .invalidResponse
        else if ¬lib.importKey material.key.bytes then .fail
        else match lib.exportPublicKey material.key.bytes with
          | none => .invalidResponse
          | some publicKey =>
              if publicKey.length = 65 ∧ publicKey.head? = some 0x04 ∧ bytesContain der publicKey then .ok
              else .invalidResponse

/-! ## NVS -/

inductive CertSlot
  | a | b
  deriving DecidableEq, Repr

def CertSlot.other : CertSlot → CertSlot
  | .a => .b
  | .b => .a

def CertSlot.toU8 : CertSlot → UInt8
  | .a => 0
  | .b => 1

/-- The entries under one `production_slot_names_t`. A string is without its terminator. -/
structure StoredMaterial where
  key : Option Bytes
  pem : Option Bytes
  host : Option Bytes
  deriving DecidableEq, Repr

structure CertNvs where
  legacy : StoredMaterial
  slotA : StoredMaterial
  slotB : StoredMaterial
  activeSlot : Option UInt8
  deriving DecidableEq, Repr

def CertNvs.slot (nvs : CertNvs) : CertSlot → StoredMaterial
  | .a => nvs.slotA
  | .b => nvs.slotB

def CertNvs.setSlot (slot : CertSlot) (change : StoredMaterial → StoredMaterial) (nvs : CertNvs) :
    CertNvs :=
  match slot with
  | .a => { nvs with slotA := change nvs.slotA }
  | .b => { nvs with slotB := change nvs.slotB }

abbrev CertWrite := CertNvs → CertNvs

def writeSlot (slot : CertSlot) (key pem host : Bytes) : List CertWrite :=
  [CertNvs.setSlot slot fun stored => { stored with key := some key },
    CertNvs.setSlot slot fun stored => { stored with pem := some pem },
    CertNvs.setSlot slot fun stored => { stored with host := some host }]

def commitProductionSlotSelector (slot : CertSlot) : List CertWrite :=
  [fun nvs => { nvs with activeSlot := some slot.toU8 }]

def loadMaterialByNames (stored : StoredMaterial) : Except EspErr CertMaterial :=
  match stored with
  | ⟨some key, some pem, some host⟩ =>
      if wrong : key.length ≠ acmeCertPrivateKeyLength ∨ pem.length < 64 ∨ pem.length > acmeResponseMax ∨
          host.length + 1 < 2 ∨ host.length + 1 > acmeDnsNameMaxLength + 1 then .error .invalidSize
      else .ok ⟨⟨key, not_not.mp (not_or.mp wrong).1⟩, pem, host⟩
  | _ => .error .notFound

/-- The first `semantic_len` bytes of a PEM blob: a trailing zero does not count. -/
def semanticPem (pem : Bytes) : Bytes := if pem.getLast? = some 0 then pem.dropLast else pem

def validateStoredMaterial (lib : CertLibrary) (stored : StoredMaterial) : EspErr :=
  match loadMaterialByNames stored with
  | .error err => err
  | .ok material => validateCertificateMaterial lib { material with pem := semanticPem material.pem }

def validateProductionSlot (lib : CertLibrary) (nvs : CertNvs) (slot : CertSlot) : EspErr :=
  validateStoredMaterial lib (nvs.slot slot)

def readProductionSlotSelector (nvs : CertNvs) : Except EspErr (Option CertSlot) :=
  match nvs.activeSlot with
  | none => .ok none
  | some slot =>
      if slot > 1 then .error .invalidState else .ok (some (if slot = 0 then .a else .b))

/-! ## The functions -/

def migrateLegacyProductionMaterial (lib : CertLibrary) (nvs : CertNvs) :
    EspErr × List (List CertWrite) :=
  match readProductionSlotSelector nvs with
  | .error err => (err, [])
  | .ok (some _) => (.ok, [])
  | .ok none =>
      match loadMaterialByNames nvs.legacy with
      | .error err => (err, [])
      | .ok material =>
          let err := validateCertificateMaterial lib { material with pem := semanticPem material.pem }
          if err ≠ .ok then (err, [])
          else
            let written := writeSlot .a material.key.bytes material.pem material.host
            let err := validateProductionSlot lib (applyAll written nvs) .a
            if err ≠ .ok then (err, [written])
            else (.ok, [written, commitProductionSlotSelector .a])

def resolveProductionSlot (lib : CertLibrary) (nvs : CertNvs) :
    Except EspErr CertSlot × List (List CertWrite) :=
  let (err, batches) := migrateLegacyProductionMaterial lib nvs
  let nvs := commitAll batches nvs
  if err ≠ .ok ∧ err ≠ .notFound then (.error err, batches)
  else match readProductionSlotSelector nvs with
    | .error err => (.error err, batches)
    | .ok none => (.error .notFound, batches)
    | .ok (some selected) =>
        if validateProductionSlot lib nvs selected = .ok then (.ok selected, batches)
        else if validateProductionSlot lib nvs selected.other = .ok then (.ok selected.other, batches)
        else (.error .invalidState, batches)

def eraseLegacy (change : StoredMaterial → StoredMaterial) : CertWrite :=
  fun nvs => { nvs with legacy := change nvs.legacy }

/-- The `nvs_erase_key` calls of a retirement; erasing what is absent is no failure. -/
def eraseLegacyKeys : List CertWrite :=
  [eraseLegacy fun stored => { stored with key := none },
    eraseLegacy fun stored => { stored with pem := none },
    eraseLegacy fun stored => { stored with host := none }]

def retireLegacyProductionMaterialIfSafe (lib : CertLibrary) (nvs : CertNvs) :
    EspErr × List (List CertWrite) :=
  if validateProductionSlot lib nvs .a ≠ .ok ∨ validateProductionSlot lib nvs .b ≠ .ok then (.ok, [])
  else match readProductionSlotSelector nvs with
    | .error err => (err, [])
    | .ok none => (.ok, [])
    | .ok (some selected) =>
        let effective :=
          if validateProductionSlot lib nvs selected ≠ .ok then selected.other else selected
        if validateProductionSlot lib nvs effective ≠ .ok then (.ok, [])
        else match loadMaterialByNames nvs.legacy with
          | .error .notFound => (.ok, [])
          | .error err => (err, [])
          | .ok legacy =>
              let err := validateCertificateMaterial lib { legacy with pem := semanticPem legacy.pem }
              if err ≠ .ok then (err, [])
              else match loadMaterialByNames (nvs.slot effective) with
                | .error err => (err, [])
                | .ok active =>
                    if legacy.host ≠ active.host ∨ legacy.key ≠ active.key ∨
                        legacy.pem.length ≠ active.pem.length ∨ legacy.pem ≠ active.pem then (.ok, [])
                    else (.ok, [eraseLegacyKeys])

/-- `acme_client_prepare_production_storage`, once the partition is initialised -/
def acmeClientPrepareProductionStorage (lib : CertLibrary) (nvs : CertNvs) :
    EspErr × List (List CertWrite) :=
  let (resolved, batches) := resolveProductionSlot lib nvs
  match resolved with
  | .error err => (err, batches)
  | .ok _ =>
      let (err, retired) := retireLegacyProductionMaterialIfSafe lib (commitAll batches nvs)
      (err, batches ++ retired)

/-- The slot that a store keeps; the first production write targets A. -/
def keptSlot : Except EspErr CertSlot → Except EspErr CertSlot
  | .error .notFound => .ok .b
  | resolved => resolved

/-- `store_certificate_material` for production. A zero byte follows the bytes of `pem`. -/
def storeCertificateMaterial (lib : CertLibrary) (nvs : CertNvs) (material : CertMaterial) :
    EspErr × List (List CertWrite) :=
  if ¬dnsNameIsValid material.host ∨ material.pem.length = 0 then (.invalidArg, [])
  else
    let err := validateCertificateMaterial lib material
    if err ≠ .ok then (err, [])
    else
      let (resolved, batches) := resolveProductionSlot lib nvs
      let nvs := commitAll batches nvs
      match keptSlot resolved with
      | .error err => (err, batches)
      | .ok active =>
          let target := active.other
          let written := writeSlot target material.key.bytes (material.pem ++ [0]) material.host
          let err := validateProductionSlot lib (applyAll written nvs) target
          if err ≠ .ok then (err, batches ++ [written])
          else (.ok, batches ++ [written, commitProductionSlotSelector target])

end NtsTimeServer.Model
