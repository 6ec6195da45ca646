import NtsTimeServer.Proof.CertReplacement
import NtsTimeServer.Proof.DerWriter

namespace NtsTimeServer.Proof
open Model Lib

variable {hostname : Bytes} {scratch : CsrScratch}

def idAtCommonName : Bytes := [0x55, 0x04, 0x03]
def idCeSubjectAltName : Bytes := [0x55, 0x1D, 0x11]
def extensionRequest : Bytes := [0x2A, 0x86, 0x48, 0x86, 0xF7, 0x0D, 0x01, 0x09, 0x0E]

def subjectDer (hostname : Bytes) : Der :=
  .constructed 0x30 [.constructed 0x31 [.constructed 0x30
    [.primitive 0x06 idAtCommonName, .primitive 0x0C hostname]]]

def publicKeyDer (publicKey : Bytes) : Der :=
  .constructed 0x30 [.constructed 0x30 [.primitive 0x06 [0x2A, 0x86, 0x48, 0xCE, 0x3D, 0x02, 0x01],
    .primitive 0x06 [0x2A, 0x86, 0x48, 0xCE, 0x3D, 0x03, 0x01, 0x07]], .primitive 0x03 (0 :: publicKey)]

def generalNamesDer (hostname : Bytes) : Der := .constructed 0x30 [.primitive 0x82 hostname]

def attributesDer (hostname : Bytes) : Der :=
  .constructed 0xA0 [.constructed 0x30 [.primitive 0x06 extensionRequest, .constructed 0x31
    [.constructed 0x30 [.constructed 0x30
      [.primitive 0x06 idCeSubjectAltName, .primitive 0x04 (generalNamesDer hostname).encode]]]]]

def infoDer (hostname publicKey : Bytes) : Der :=
  .constructed 0x30 [.primitive 0x02 [0], subjectDer hostname, publicKeyDer publicKey, attributesDer hostname]

def requestDer (hostname publicKey raw : Bytes) : Der :=
  .constructed 0x30 [infoDer hostname publicKey,
    .constructed 0x30 [.primitive 0x06 [0x2A, 0x86, 0x48, 0xCE, 0x3D, 0x04, 0x03, 0x02]],
    .primitive 0x03 (0 :: (signatureDer raw).encode)]

def children : Der → List Der
  | .primitive _ _ => []
  | .constructed _ elements => elements

def nameValues (oid : Bytes) : Der → List Bytes
  | .constructed _ [.primitive _ type, .primitive _ value] => if type = oid then [value] else []
  | _ => []

def commonNames : Der → List Bytes
  | .constructed _ (.constructed _ (_ :: subject :: _) :: _) =>
      (children subject).flatMap fun names => (children names).flatMap (nameValues idAtCommonName)
  | _ => []

def requestedExtensions : Der → List Der
  | .constructed _ [.primitive _ type, values] =>
      if type = extensionRequest then (children values).flatMap children else []
  | _ => []

def dnsName : Der → Option Bytes
  | .primitive tag name => if tag = 0x82 then some name else none
  | .constructed _ _ => none

def extensionDnsNames : Der → List Bytes
  | .constructed _ (.primitive _ type :: fields) =>
      if type = idCeSubjectAltName then
        fields.flatMap fun
          | .primitive _ value => ((parseDer value).getD []).flatMap fun names =>
              (children names).filterMap dnsName
          | .constructed _ _ => []
      else []
  | _ => []

def dnsNames : Der → List Bytes
  | .constructed _ (.constructed _ (_ :: _ :: _ :: attributes) :: _) =>
      attributes.flatMap fun set => (children set).flatMap fun attr =>
        (requestedExtensions attr).flatMap extensionDnsNames
  | _ => []

structure Sized (scratch : CsrScratch) : Prop where
  a : scratch.a.length = 1024
  b : scratch.b.length = 1024
  c : scratch.c.length = 1024
  d : scratch.d.length = 1024

theorem memcpy_whole {m p size : Nat} {source : Filled} {data out : Bytes} (held : Occupies m p source data)
    (sized : out.length = size) (room : p ≤ size) :
    Succeeds (memcpy out 0 source.1 source.2 : Except (Halt EspErr) Bytes) fun out =>
      Occupies size p (out, source.2) data := by
  refine (memcpy_held held List.nil_prefix rfl (Nat.zero_le 0) sized (by omega)).mono ?_
  rintro array ⟨sized, begun⟩
  exact ⟨sized, held.length, held.bound, begun⟩

theorem csrSubject_occupies (short : hostname.length ≤ 253) (sized : Sized scratch) {subject : Bytes}
    (sizedSubject : subject.length = 512) :
    Succeeds (csrSubject hostname scratch subject) fun result =>
      Sized result.1 ∧ Occupies 512 274 result.2 (subjectDer hostname).encode := by
  apply (derWrap_occupies (occupies_all short) sized.a (by decide) (by decide) 0x0C).bind
  rintro ⟨a, al⟩ ha
  apply (derConcat2_occupies (occupies_all (le_refl oidCn.length)) ha sized.b (by decide)).bind
  rintro ⟨b, bl⟩ hb
  apply (derWrap_occupies hb ha.size (by decide) (by decide) 0x30).bind
  rintro ⟨a, al⟩ ha
  apply (derWrap_occupies ha hb.size (by decide) (by decide) 0x31).bind
  rintro ⟨b, bl⟩ hb
  apply (derWrap_occupies hb sized.c (by decide) (by decide) 0x30).bind
  rintro ⟨c, cl⟩ hc
  refine (memcpy_whole hc sizedSubject (by decide)).bind fun subject held => ?_
  refine succeeds_ok ⟨⟨ha.size, hb.size, hc.size, sized.d⟩, ?_⟩
  have name : oidCn = tagged 0x06 idAtCommonName := rfl
  rw [name] at held
  simpa [subjectDer] using held.mono (by decide)

theorem csrSpki_occupies {publicKey bitpub spki : Bytes} (length : publicKey.length = 65)
    (sized : Sized scratch) (sizedBitpub : bitpub.length = 66) (sizedSpki : spki.length = 256) :
    Succeeds (csrSpki publicKey scratch bitpub spki) fun result =>
      Sized result.1 ∧ Occupies 256 97 result.2 (publicKeyDer publicKey).encode := by
  apply (derConcat2_occupies (occupies_all (le_refl oidEcPub.length)) (occupies_all (le_refl oidP256.length)) sized.a
    (by decide)).bind
  rintro ⟨a, al⟩ ha
  apply (derWrap_occupies ha sized.b (by decide) (by decide) 0x30).bind
  rintro ⟨b, bl⟩ hb
  apply (memcpy_append List.nil_prefix rfl (show 1 ≤ [(0 : UInt8)].length from le_rfl)
    (by simp [sizedBitpub])).bind
  rintro bits ⟨sizedBits, begun⟩
  apply (@memcpy_append EspErr bits publicKey _ 1 65 begun rfl length.ge
    (by simp [sizedBits, sizedBitpub])).bind
  rintro bits' ⟨sizedBits', begun⟩
  have bitString : Occupies 66 66 (bits', bits'.length) (0 :: publicKey) := by
    refine ⟨by simp; omega, by simp [length]; omega, by simp [length], ?_⟩
    simpa [List.take_of_length_le length.le] using begun
  apply (derWrap_occupies bitString sized.c (by decide) (by decide) 0x03).bind
  rintro ⟨c, cl⟩ hc
  apply (derConcat2_occupies hb hc ha.size (by decide)).bind
  rintro ⟨a, al⟩ ha
  apply (derWrap_occupies ha sized.d (by decide) (by decide) 0x30).bind
  rintro ⟨d, dl⟩ hd
  refine (memcpy_whole hd sizedSpki (by decide)).bind fun spki held => ?_
  refine succeeds_ok ⟨⟨ha.size, hb.size, hc.size, hd.size⟩, ?_⟩
  have algorithm : oidEcPub = tagged 0x06 [0x2A, 0x86, 0x48, 0xCE, 0x3D, 0x02, 0x01] := rfl
  have curve : oidP256 = tagged 0x06 [0x2A, 0x86, 0x48, 0xCE, 0x3D, 0x03, 0x01, 0x07] := rfl
  rw [algorithm, curve] at held
  simpa [publicKeyDer] using held.mono (by decide)

theorem csrAttributes_occupies (short : hostname.length ≤ 253) (sized : Sized scratch) {attrs : Bytes}
    (sizedAttrs : attrs.length = 512) :
    Succeeds (csrAttributes hostname scratch attrs) fun result =>
      Sized result.1 ∧ Occupies 512 301 result.2 (attributesDer hostname).encode := by
  apply (derWrap_occupies (occupies_all short) sized.a (by decide) (by decide) 0x82).bind
  rintro ⟨a, al⟩ ha
  apply (derWrap_occupies ha sized.b (by decide) (by decide) 0x30).bind
  rintro ⟨b, bl⟩ hb
  apply (derWrap_occupies hb sized.c (by decide) (by decide) 0x04).bind
  rintro ⟨c, cl⟩ hc
  apply (derConcat2_occupies (occupies_all (le_refl oidSan.length)) hc ha.size (by decide)).bind
  rintro ⟨a, al⟩ ha
  apply (derWrap_occupies ha hb.size (by decide) (by decide) 0x30).bind
  rintro ⟨b, bl⟩ hb
  apply (derWrap_occupies hb hc.size (by decide) (by decide) 0x30).bind
  rintro ⟨c, cl⟩ hc
  apply (derWrap_occupies hc sized.d (by decide) (by decide) 0x31).bind
  rintro ⟨d, dl⟩ hd
  apply (derConcat2_occupies (occupies_all (le_refl oidExtReq.length)) hd ha.size (by decide)).bind
  rintro ⟨a, al⟩ ha
  apply (derWrap_occupies ha hb.size (by decide) (by decide) 0x30).bind
  rintro ⟨b, bl⟩ hb
  apply (derWrap_occupies hb hc.size (by decide) (by decide) 0xA0).bind
  rintro ⟨c, cl⟩ hc
  refine (memcpy_whole hc sizedAttrs (by decide)).bind fun attrs held => ?_
  refine succeeds_ok ⟨⟨ha.size, hb.size, hc.size, hd.size⟩, ?_⟩
  have san : oidSan = tagged 0x06 idCeSubjectAltName := rfl
  have request : oidExtReq = tagged 0x06 extensionRequest := rfl
  rw [san, request] at held
  simpa [attributesDer, generalNamesDer] using held.mono (by decide)

theorem csrInfo_occupies {subject spki attrs : Filled} {publicKey : Bytes}
    (heldSubject : Occupies 512 274 subject (subjectDer hostname).encode)
    (heldSpki : Occupies 256 97 spki (publicKeyDer publicKey).encode)
    (heldAttrs : Occupies 512 301 attrs (attributesDer hostname).encode) (sized : Sized scratch) :
    Succeeds (csrInfo subject spki attrs scratch) fun result =>
      Sized result.1 ∧ Occupies 1024 679 (result.1.c, result.2) (infoDer hostname publicKey).encode := by
  apply (derConcat3_occupies (occupies_all (le_refl version0.length)) heldSubject heldSpki sized.a
    (by decide)).bind
  rintro ⟨a, al⟩ ha
  apply (derConcat2_occupies ha heldAttrs sized.b (by decide)).bind
  rintro ⟨b, bl⟩ hb
  apply (derWrap_occupies hb sized.c (by decide) (by decide) 0x30).bind
  rintro ⟨c, cl⟩ hc
  refine succeeds_ok ⟨⟨ha.size, hb.size, hc.size, sized.d⟩, ?_⟩
  have version : version0 = tagged 0x02 [0] := rfl
  rw [version] at hc
  simpa [infoDer] using hc.mono (by decide)

theorem csrSigned_occupies {cl : Nat} {derSig : Filled} {info signature sigbits out : Bytes}
    (heldInfo : Occupies 1024 679 (scratch.c, cl) info) (heldSig : Occupies 80 74 derSig signature)
    (sized : Sized scratch) (sizedBits : sigbits.length = 81) (sizedOut : out.length = 1024) :
    Succeeds (csrSigned scratch cl derSig sigbits out) fun filled =>
      Occupies 1024 776 filled (tagged 0x30 (info ++ tagged 0x30 oidEcdsaSha256 ++ tagged 0x03 (0 :: signature))) := by
  have length := heldSig.length
  have most := heldSig.bound
  apply (derWrap_occupies (occupies_all (le_refl oidEcdsaSha256.length)) sized.a (by decide) (by decide) 0x30).bind
  rintro ⟨a, al⟩ ha
  dsimp only
  rw [if_neg (by omega)]
  apply (memcpy_append List.nil_prefix rfl (show 1 ≤ [(0 : UInt8)].length from le_rfl)
    (by simp [sizedBits])).bind
  rintro bits ⟨same, begun⟩
  apply (memcpy_held heldSig begun rfl (show 1 ≤ 1 from le_rfl) (same.trans sizedBits) (by decide)).bind
  rintro bits' ⟨sizedBits', begun⟩
  have bitString : Occupies 81 75 (bits', derSig.2 + 1) (0 :: signature) :=
    ⟨sizedBits', by simp [length], by simp; omega, by simpa using begun⟩
  apply (derWrap_occupies bitString sized.b (by decide) (by decide) 0x03).bind
  rintro ⟨b, bl⟩ hb
  apply (derConcat3_occupies heldInfo ha hb sized.d (by decide)).bind
  rintro ⟨d, dl⟩ hd
  exact (derWrap_occupies hd sizedOut (by decide) (by decide) 0x30).mono fun filled held => held.mono (by decide)

/-! ## The request and the checker -/

theorem encode_short {element : Der} {most : Nat} (short : element.encode.length ≤ most)
    (most' : most < 65536) : (encodeAll [element]).length < lengthLimit := by
  have limit : 65536 ≤ lengthLimit := show 256 ^ 2 ≤ 256 ^ 126 from Nat.pow_le_pow_right (by decide) (by decide)
  rw [encodeAll_cons, encodeAll_nil, List.append_nil]
  omega

theorem parseDer_encode {element : Der} (tags : element.wellTagged = true) {most : Nat}
    (short : element.encode.length ≤ most) (most' : most < 65536) :
    parseDer element.encode = some [element] := by
  have parsed := @parseDer_encodeAll [element] (by simp [allWellTagged, tags]) (encode_short short most')
  simpa using parsed

theorem generalNames_parse (short : hostname.length ≤ 253) :
    parseDer (generalNamesDer hostname).encode = some [generalNamesDer hostname] := by
  have name := tagged_length_le (show hostname.length < 65536 by omega) 0x82
  have names := tagged_length_le (show (tagged 0x82 hostname).length < 65536 by omega) 0x30
  refine @parseDer_encode _ rfl 261 ?_ (by decide)
  simp only [generalNamesDer, encode_constructed, encodeAll_cons, encode_primitive, encodeAll_nil,
    List.append_nil]
  omega

theorem requestDer_commonNames (hostname publicKey raw : Bytes) :
    commonNames (requestDer hostname publicKey raw) = [hostname] := by
  simp [commonNames, requestDer, infoDer, subjectDer, children, nameValues]

theorem requestDer_dnsNames (short : hostname.length ≤ 253) (publicKey raw : Bytes) :
    dnsNames (requestDer hostname publicKey raw) = [hostname] := by
  have names := generalNames_parse short
  simp [dnsNames, requestDer, infoDer, attributesDer, children, requestedExtensions, extensionDnsNames, names]
  simp [generalNamesDer, dnsName]

theorem derContainsDnsSan_of_infix {der : Bytes} (nonempty : 0 < hostname.length)
    (short : hostname.length ≤ 127) (part : tagged 0x82 hostname <:+: der) :
    derContainsDnsSan der hostname = true := by
  obtain ⟨before, after, same⟩ := part
  rw [tagged_short (by omega)] at same
  have length : der.length = before.length + (2 + hostname.length) + after.length := by
    rw [← same]
    simp
    omega
  have tag : byteAt der before.length = 0x82 := by
    rw [← same]
    simp [byteAt]
  have octet : byteAt der (before.length + 1) = hostname.length := by
    have small : hostname.length % 256 = hostname.length := Nat.mod_eq_of_lt (by omega)
    rw [← same]
    simp [byteAt, small]
  have name : window der (before.length + 2) hostname.length = hostname := by
    rw [← same]
    simp [window]
  rw [derContainsDnsSan, if_neg (by omega), List.any_eq_true]
  refine ⟨before.length, ?_, by simp [tag, octet, name]⟩
  rw [List.mem_range, length]
  omega

theorem bytesContain_of_infix {haystack needle : Bytes} (nonempty : 0 < needle.length)
    (part : needle <:+: haystack) : bytesContain haystack needle = true := by
  obtain ⟨before, after, same⟩ := part
  have length : haystack.length = before.length + needle.length + after.length := by
    rw [← same]
    simp
    omega
  have found : window haystack before.length needle.length = needle := by
    rw [← same]
    simp [window]
  rw [bytesContain, if_neg (by omega), List.any_eq_true]
  refine ⟨before.length, ?_, by simp [found]⟩
  rw [List.mem_range, length]
  omega

theorem derContainsDnsSan_iff {der : Bytes} (nonempty : 0 < hostname.length)
    (part : tagged 0x82 hostname <:+: der) :
    derContainsDnsSan der hostname = true ↔ hostname.length ≤ 127 := by
  constructor
  · intro found
    rw [derContainsDnsSan] at found
    split at found
    · cases found
    · omega
  · intro short
    exact derContainsDnsSan_of_infix nonempty short part

theorem infix_child {tag : UInt8} {part : Bytes} {element : Der} {elements : List Der}
    (member : element ∈ elements) (inside : part <:+: element.encode) :
    part <:+: (Der.constructed tag elements).encode :=
  inside.trans (infix_constructed member)

theorem name_infix_generalNames (hostname : Bytes) :
    tagged 0x82 hostname <:+: (generalNamesDer hostname).encode := by
  have name : (Der.primitive 0x82 hostname).encode = tagged 0x82 hostname := encode_primitive _ _
  apply infix_child (.head _)
  exact name ▸ List.infix_rfl

theorem generalNames_infix_request (hostname publicKey raw : Bytes) :
    (generalNamesDer hostname).encode <:+: (requestDer hostname publicKey raw).encode := by
  apply infix_child (.head _)
  apply infix_child (.tail _ (.tail _ (.tail _ (.head _))))
  apply infix_child (.head _)
  apply infix_child (.tail _ (.head _))
  apply infix_child (.head _)
  apply infix_child (.head _)
  apply infix_child (.tail _ (.head _))
  rw [encode_primitive]
  exact infix_tagged 0x04 _

/-! ## Every accepted name -/

structure RequestFor (hostname publicKey : Bytes) (raw : Bytes) (output : Bytes) : Prop where
  parses : parseDer output = some [requestDer hostname publicKey raw]
  extensionParses : parseDer (generalNamesDer hostname).encode = some [generalNamesDer hostname]
  signatureParses : parseDer (signatureDer raw).encode = some [signatureDer raw]
  signatureNumbers : ∃ r s, signatureDer raw = .constructed 0x30 [.primitive 0x02 r, .primitive 0x02 s] ∧
    beValue r = beValue (raw.take 32) ∧ beValue s = beValue ((raw.drop 32).take 32)
  commonNames : commonNames (requestDer hostname publicKey raw) = [hostname]
  dnsNames : dnsNames (requestDer hostname publicKey raw) = [hostname]

theorem requestFor_of_held {publicKey raw : Bytes} {filled : Filled} (short : hostname.length ≤ 253)
    (length : raw.length = 64)
    (held : Occupies 1024 776 filled (requestDer hostname publicKey raw).encode) :
    RequestFor hostname publicKey raw (filled.1.take filled.2) := by
  refine ⟨?_, generalNames_parse short, ?_, ⟨_, _, rfl, beValue_unsignedOctets _, beValue_unsignedOctets _⟩,
    requestDer_commonNames _ _ _, requestDer_dnsNames short _ _⟩
  · rw [held.take]
    exact parseDer_encode rfl held.bound (by decide)
  · obtain ⟨filled', -, held'⟩ := @ecdsaRawToDer_occupies (List.replicate 80 0) raw (List.replicate 80 0) length
      List.length_replicate List.length_replicate
    exact parseDer_encode rfl held'.bound (by decide)

structure Certifies (certs : CertLibrary) (material : CertMaterial) (hostname publicKey : Bytes) : Prop where
  host : material.host = hostname
  length : 64 ≤ material.pem.length
  names : ∃ der, certs.parseChain material.pem = some der ∧
    (generalNamesDer hostname).encode <:+: der ∧ publicKey <:+: der
  importKey : certs.importKey material.key.bytes = true
  exportPublicKey : certs.exportPublicKey material.key.bytes = some publicKey
  uncompressed : publicKey.head? = some 0x04

theorem validate_certifies {certs : CertLibrary} {material : CertMaterial} {publicKey : Bytes}
    (valid : dnsNameIsValid hostname = true) (length : publicKey.length = 65)
    (certifies : Certifies certs material hostname publicKey) :
    validateCertificateMaterial certs material = .ok ↔ hostname.length ≤ 127 := by
  obtain ⟨rfl, long, ⟨der, parsed, names, key⟩, imported, exported, uncompressed⟩ := certifies
  have nonempty := (dnsNameIsValid_length valid).1
  have checked := derContainsDnsSan_iff nonempty ((name_infix_generalNames material.host).trans names)
  have found := bytesContain_of_infix (by omega) key
  have size := names.length_le
  have some := length_lt_tagged 0x82 material.host
  have least := (name_infix_generalNames material.host).length_le
  rw [validateCertificateMaterial, if_neg (by simp [valid]; omega)]
  simp only [parsed, imported, exported]
  rw [← checked]
  by_cases san : derContainsDnsSan der material.host = true
  · have present : der.length ≠ 0 := by omega
    simp [san, present, length, uncompressed, found]
  · simp [san]

theorem buildCsrDer_occupies {lib : CsrLibrary} (stack : CsrStack) {privateKey : CertPrivateKey}
    (publicKey : CArray 65) {out : Bytes} (sized : out.length = 1024)
    (valid : dnsNameIsValid hostname = true) {digest : CArray 32} {raw : CArray 64}
    (hashed : lib.sha256Bytes (infoDer hostname publicKey.bytes).encode = .ok digest)
    (signed : lib.signEs256 privateKey digest = .ok raw) :
    Succeeds (buildCsrDer lib stack hostname privateKey publicKey out) fun filled =>
      Occupies 1024 776 filled (requestDer hostname publicKey.bytes raw.bytes).encode := by
  have short : hostname.length ≤ 253 := (dnsNameIsValid_length valid).2
  have arrays : Sized stack.scratch := ⟨stack.a.length, stack.b.length, stack.c.length, stack.d.length⟩
  rw [buildCsrDer, if_neg (by simp [valid])]
  apply (csrSubject_occupies short arrays stack.subject.length).bind
  rintro ⟨scratch, subject⟩ ⟨arrays, name⟩
  apply (csrSpki_occupies publicKey.length arrays stack.bitpub.length stack.spki.length).bind
  rintro ⟨scratch, spki⟩ ⟨arrays, key⟩
  apply (csrAttributes_occupies short arrays stack.attrs.length).bind
  rintro ⟨scratch, attrs⟩ ⟨arrays, extension⟩
  apply (csrInfo_occupies name key extension arrays).bind
  rintro ⟨scratch, cl⟩ ⟨arrays, info⟩
  have message : scratch.c.take cl = (infoDer hostname publicKey.bytes).encode := info.take
  dsimp only
  rw [message, hashed, called, ok_bind, signed, called, ok_bind]
  refine (ecdsaRawToDer_occupies raw.length stack.ints.length stack.derSig.length).bind fun derSig signature => ?_
  refine (csrSigned_occupies info signature arrays stack.sigbits.length sized).mono fun filled held => ?_
  have algorithm : oidEcdsaSha256 = tagged 0x06 [0x2A, 0x86, 0x48, 0xCE, 0x3D, 0x04, 0x03, 0x02] := rfl
  rw [algorithm] at held
  simpa [requestDer] using held

structure Signs (lib : CsrLibrary) (privateKey : CertPrivateKey) : Prop where
  hash : ∀ message, ∃ digest, lib.sha256Bytes message = .ok digest
  sign : ∀ digest, ∃ raw, lib.signEs256 privateKey digest = .ok raw

theorem csr_for_every_hostname (lib : CsrLibrary) (stack : CsrStack) (privateKey : CertPrivateKey)
    (publicKey : CArray 65) (out : CArray acmeCsrMax) (hostname : Bytes) (signs : Signs lib privateKey)
    (valid : dnsNameIsValid hostname = true) :
    ∃ filled digest raw, buildCsrDer lib stack hostname privateKey publicKey out.bytes = .ok filled ∧
      lib.sha256Bytes (infoDer hostname publicKey.bytes).encode = .ok digest ∧
      lib.signEs256 privateKey digest = .ok raw ∧
      RequestFor hostname publicKey.bytes raw.bytes (filled.1.take filled.2) ∧
      (derContainsDnsSan (filled.1.take filled.2) hostname = true ↔ hostname.length ≤ 127) ∧
      ∀ certs material, Certifies certs material hostname publicKey.bytes →
        (validateCertificateMaterial certs material = .ok ↔ hostname.length ≤ 127) := by
  obtain ⟨digest, hashed⟩ := signs.hash (infoDer hostname publicKey.bytes).encode
  obtain ⟨raw, signed⟩ := signs.sign digest
  obtain ⟨filled, built, held⟩ := buildCsrDer_occupies stack publicKey out.length valid hashed signed
  obtain ⟨nonempty, short⟩ := dnsNameIsValid_length valid
  refine ⟨filled, digest, raw, built, hashed, signed, requestFor_of_held short raw.length held, ?_,
    fun certs material certifies => validate_certifies valid publicKey.length certifies⟩
  rw [held.take]
  exact derContainsDnsSan_iff nonempty
    ((name_infix_generalNames hostname).trans (generalNames_infix_request hostname publicKey.bytes raw.bytes))

def zeroArray (size : Nat) : CArray size := ⟨List.replicate size 0, List.length_replicate⟩

def zeroStack : CsrStack :=
  ⟨zeroArray _, zeroArray _, zeroArray _, zeroArray _, zeroArray _, zeroArray _, zeroArray _, zeroArray _,
    zeroArray _, zeroArray _, zeroArray _⟩

def plainSigner : CsrLibrary where
  sha256Bytes _ := .ok (zeroArray 32)
  signEs256 _ _ := .ok ⟨List.replicate 64 1, List.length_replicate⟩

theorem plainSigner_signs (privateKey : CertPrivateKey) : Signs plainSigner privateKey :=
  ⟨fun _ => ⟨_, rfl⟩, fun _ => ⟨_, rfl⟩⟩

def label63 : Bytes := List.replicate 63 0x61

def longHostname : Bytes := label63 ++ 0x2E :: label63 ++ [0x2E, 0x61]

theorem longHostname_valid : dnsNameIsValid longHostname = true := by decide +kernel

def plainPublicKey : CArray 65 := ⟨0x04 :: List.replicate 64 1, by simp⟩

theorem long_name_not_found : dnsNameIsValid longHostname = true ∧
    ∃ filled, buildCsrDer plainSigner zeroStack longHostname (plainKey 1) plainPublicKey
      (zeroArray acmeCsrMax).bytes = .ok filled ∧
        derContainsDnsSan (filled.1.take filled.2) longHostname = false := by
  obtain ⟨filled, built, -⟩ := @buildCsrDer_occupies longHostname plainSigner zeroStack (plainKey 1)
    plainPublicKey _ (zeroArray acmeCsrMax).length longHostname_valid (zeroArray 32)
    ⟨List.replicate 64 1, List.length_replicate⟩ rfl rfl
  refine ⟨longHostname_valid, filled, built, ?_⟩
  have long : longHostname.length = 129 := by simp [longHostname, label63]
  rw [derContainsDnsSan, if_pos (by omega)]

theorem csr_for_label : ∃ filled, buildCsrDer plainSigner zeroStack label63 (plainKey 1) plainPublicKey
    (zeroArray acmeCsrMax).bytes = .ok filled ∧
      derContainsDnsSan (filled.1.take filled.2) label63 = true := by
  obtain ⟨filled, _, _, built, -, -, -, found, -⟩ := csr_for_every_hostname plainSigner zeroStack (plainKey 1)
    plainPublicKey (zeroArray acmeCsrMax) label63 (plainSigner_signs _) (by decide +kernel)
  exact ⟨filled, built, found.mpr (by simp [label63])⟩

end NtsTimeServer.Proof
