import NtsTimeServer.Proof.CertStore

namespace NtsTimeServer.Proof
open Model Lib

variable {lib : CertLibrary} {nvs : CertNvs} {material : CertMaterial} {old : StoredMaterial}

/-! ## Interrupted replacements -/

/-- However a replacement ends, the old credential or the new one is in force, and after a success the
new one. -/
structure AtomicReplacement (lib : CertLibrary) (nvs : CertNvs) (material : CertMaterial)
    (old : StoredMaterial) : Prop where
  interrupted : ∀ t, Interrupted (storeCertificateMaterial lib nvs material).2 nvs t →
    Yields lib t old ∨ Yields lib t (newStored material)
  completed : (storeCertificateMaterial lib nvs material).1 = .ok →
    Yields lib (commitAll (storeCertificateMaterial lib nvs material).2 nvs) (newStored material)

/-- The material is refused, or the selected slot is valid, or no mixture of its entries with the new
ones validates unless it is one of the two credentials. -/
def MixturesInvalid (lib : CertLibrary) (nvs : CertNvs) (material : CertMaterial) : Prop :=
  validateCertificateMaterial lib material = .ok →
    ∀ selected, readProductionSlotSelector nvs = .ok (some selected) →
      Valid lib (nvs.slot selected) ∨
        ∀ mixed, Mixture (nvs.slot selected) (newStored material) mixed → Valid lib mixed →
          mixed = newStored material ∨ mixed = nvs.slot selected.other

theorem atomic_of_refused (yields : Yields lib nvs old)
    (refused : validateCertificateMaterial lib material ≠ .ok) :
    AtomicReplacement lib nvs material old := by
  obtain ⟨failed, nothing⟩ := @store_refused lib nvs material refused
  refine ⟨fun t interrupted => ?_, fun ok => absurd ok failed⟩
  rw [nothing, interrupted_nil] at interrupted
  exact .inl (interrupted ▸ yields)

theorem atomic_of_install {batches : List (List CertWrite)} {target : CertSlot}
    (stored : storeCertificateMaterial lib nvs material =
      ((install lib material target).1, batches ++ (install lib material target).2))
    (before : ∀ t, Interrupted batches nvs t → effective lib t = some old)
    (installing : ∀ t, Installing lib (commitAll batches nvs) material target t →
      effective lib t = some old ∨ effective lib t = some (newStored material)) :
    AtomicReplacement lib nvs material old := by
  constructor
  · intro t interrupted
    rw [stored, interrupted_append, interrupted_install] at interrupted
    rw [yields_iff, yields_iff]
    obtain early | late := interrupted
    · exact .inl (before t early)
    · exact installing t late
  · intro ok
    rw [stored] at ok ⊢
    obtain ⟨valid, done⟩ := @install_done lib (commitAll batches nvs) material target ok
    rw [yields_iff, commitAll_append, done, effective_selected (selector_selected _ _), slot_selected,
      slot_setSlot, if_pos valid]

theorem migration_interrupted {t : CertNvs} (interrupted : Interrupted (migrationBatches material) nvs t) :
    (∃ mixed, t = nvs.setSlot .a fun _ => mixed) ∨ t = commitAll (migrationBatches material) nvs := by
  rw [migrationBatches, interrupted_cons, interrupted_cons, interrupted_nil] at interrupted
  obtain ⟨done, part, rfl⟩ | ⟨done, part, rfl⟩ | rfl := interrupted
  · obtain ⟨mixed, -, same⟩ := mixture_of_sublist part nvs
    exact .inl ⟨mixed, same⟩
  · obtain rfl | rfl := List.sublist_singleton.mp part
    · rw [applyAll_nil, applyAll_writeSlot]
      exact .inl ⟨_, rfl⟩
    · exact .inr rfl
  · exact .inr rfl

theorem migration_keeps (read : readProductionSlotSelector nvs = .ok none)
    (loaded : loadMaterialByNames nvs.legacy = .ok material) (valid : Valid lib nvs.legacy) {t : CertNvs}
    (interrupted : Interrupted (migrationBatches material) nvs t) :
    effective lib t = some nvs.legacy ∧ t.legacy = nvs.legacy := by
  obtain ⟨mixed, rfl⟩ | rfl := migration_interrupted interrupted
  · rw [effective, selector_setSlot, read]
    simp [legacy_setSlot, valid]
  · rw [effective_selected (migrated_selector material nvs), migrated_slot loaded, if_pos valid]
    exact ⟨rfl, rfl⟩

theorem migrate_none (idle : readProductionSlotSelector nvs ≠ .ok none ∨ ¬Valid lib nvs.legacy) :
    (migrateLegacyProductionMaterial lib nvs).2 = [] := by
  cases read : readProductionSlotSelector nvs with
  | error err => rw [migrateLegacyProductionMaterial, read]
  | ok selection =>
      cases selection with
      | some selected => rw [migrateLegacyProductionMaterial, read]
      | none => rw [migrate_invalid read (idle.resolve_left (not_not.mpr read))]

theorem migrate_keeps {t : CertNvs}
    (interrupted : Interrupted (migrateLegacyProductionMaterial lib nvs).2 nvs t) :
    effective lib t = effective lib nvs ∧ t.legacy = nvs.legacy := by
  by_cases active : readProductionSlotSelector nvs = .ok none ∧ Valid lib nvs.legacy
  · obtain ⟨read, valid⟩ := active
    obtain ⟨material, loaded⟩ := valid_loads valid
    rw [migrate_valid read loaded valid] at interrupted
    have before : effective lib nvs = some nvs.legacy := by simp [effective, read, valid]
    rw [before]
    exact migration_keeps read loaded valid interrupted
  · rw [migrate_none (not_and_or.mp active), interrupted_nil] at interrupted
    simp [interrupted]

theorem resolve_batches (lib : CertLibrary) (nvs : CertNvs) :
    (resolveProductionSlot lib nvs).2 = (migrateLegacyProductionMaterial lib nvs).2 := by
  rw [resolveProductionSlot]
  cases migrateLegacyProductionMaterial lib nvs with
  | mk err batches =>
      dsimp only
      repeat' split
      all_goals rfl

theorem atomic_of_migrated (accepted : validateCertificateMaterial lib material = .ok)
    (read : readProductionSlotSelector nvs = .ok none) (valid : Valid lib nvs.legacy) :
    AtomicReplacement lib nvs material nvs.legacy := by
  obtain ⟨legacy, loaded⟩ := valid_loads valid
  refine atomic_of_install (store_accepted accepted (resolve_migrated read loaded valid) rfl)
    (fun t early => (migration_keeps read loaded valid early).1) fun t installing => ?_
  have slot := migrated_slot loaded
  have kept := installing_other (migrated_selector legacy nvs) (by rwa [slot]) installing
  rwa [slot] at kept

theorem atomic_of_selected (accepted : validateCertificateMaterial lib material = .ok)
    {selected : CertSlot} (read : readProductionSlotSelector nvs = .ok (some selected))
    (valid : Valid lib (nvs.slot selected)) :
    AtomicReplacement lib nvs material (nvs.slot selected) := by
  have resolved : resolveProductionSlot lib nvs = (.ok selected, []) := by
    rw [resolve_selected read, if_pos valid]
  refine atomic_of_install (store_accepted accepted resolved rfl) (fun t interrupted => ?_)
    fun t installing => installing_other read valid installing
  rw [interrupted_nil.mp interrupted, effective_selected read, if_pos valid]

theorem atomic_of_fallback_iff (accepted : validateCertificateMaterial lib material = .ok)
    {selected : CertSlot} (read : readProductionSlotSelector nvs = .ok (some selected))
    (invalid : ¬Valid lib (nvs.slot selected)) (fallback : Valid lib (nvs.slot selected.other)) :
    AtomicReplacement lib nvs material (nvs.slot selected.other) ↔
      ∀ mixed, Mixture (nvs.slot selected) (newStored material) mixed → Valid lib mixed →
        mixed = newStored material ∨ mixed = nvs.slot selected.other := by
  have resolved : resolveProductionSlot lib nvs = (.ok selected.other, []) := by
    rw [resolve_selected read, if_neg invalid, if_pos fallback]
  have stored := store_accepted accepted resolved rfl
  rw [other_other, List.nil_append] at stored
  constructor
  · intro atomic mixed mixture valid
    have interrupted := interrupted_install.mpr
      (show Installing lib nvs material selected _ from .writing mixture)
    have in_force := atomic.interrupted _ (by rw [stored]; exact interrupted)
    rw [yields_iff, yields_iff, effective_mixture read mixed fallback, if_pos valid] at in_force
    exact in_force.symm.imp Option.some.inj Option.some.inj
  · intro others
    refine @atomic_of_install lib nvs material _ [] _ stored (fun t interrupted => ?_) fun t installing => ?_
    · rw [interrupted_nil.mp interrupted, effective_selected read, if_neg invalid, if_pos fallback]
    · cases installing with
      | @writing mixed mixture =>
          rw [commitAll_nil, effective_mixture read mixed fallback]
          split
          next valid => exact (others mixed mixture valid).symm.imp (congrArg some) (congrArg some)
          · exact .inl rfl
      | selected newValid =>
          right
          rw [effective_selected (selector_selected _ _), slot_selected, slot_setSlot, if_pos newValid]

theorem replacement_atomic_iff (yields : Yields lib nvs old) :
    AtomicReplacement lib nvs material old ↔ MixturesInvalid lib nvs material := by
  by_cases accepted : validateCertificateMaterial lib material = .ok
  swap
  · exact ⟨fun _ accepted' => absurd accepted' accepted, fun _ => atomic_of_refused yields accepted⟩
  rw [yields_iff] at yields
  cases read : readProductionSlotSelector nvs with
  | error err =>
      rw [effective, read] at yields
      cases yields
  | ok selection =>
      cases selection with
      | none =>
          simp only [effective, read] at yields
          split at yields
          next valid =>
            obtain rfl := Option.some.inj yields
            refine ⟨fun _ _ selected selection => ?_, fun _ => atomic_of_migrated accepted read valid⟩
            rw [read] at selection
            cases selection
          · cases yields
      | some selected =>
          rw [effective_selected read] at yields
          have only {slot : CertSlot} (selection : readProductionSlotSelector nvs = .ok (some slot)) :
              slot = selected := by
            rw [read] at selection
            exact (Option.some.inj (Except.ok.inj selection)).symm
          split at yields
          next valid =>
            obtain rfl := Option.some.inj yields
            refine ⟨fun _ _ slot selection => .inl ?_, fun _ => atomic_of_selected accepted read valid⟩
            rw [only selection]
            exact valid
          next invalid =>
            split at yields
            next fallback =>
              obtain rfl := Option.some.inj yields
              rw [atomic_of_fallback_iff accepted read invalid fallback]
              constructor
              · intro others _ slot selection
                rw [only selection]
                exact .inr others
              · intro safe
                exact (safe accepted selected read).resolve_left invalid
            · cases yields

def plainLibrary : CertLibrary where
  parseChain pem := some pem
  importKey _ := true
  exportPublicKey key := some (0x04 :: (key ++ key))

def plainKey (byte : UInt8) : CertPrivateKey := ⟨List.replicate 32 byte, List.length_replicate⟩

def plainPem (key : CertPrivateKey) (serial : UInt8) : Bytes :=
  [0x82, 0x01, 0x61, 0x04] ++ key.bytes ++ key.bytes ++ [serial]

def plainMaterial (key serial : UInt8) : CertMaterial := ⟨plainKey key, plainPem (plainKey key) serial, [0x61]⟩

def keyLost : CertNvs where
  legacy := ⟨none, none, none⟩
  slotA := { newStored (plainMaterial 1 1) with key := none }
  slotB := newStored (plainMaterial 2 2)
  activeSlot := some 0

theorem keyLost_yields : Yields plainLibrary keyLost (newStored (plainMaterial 2 2)) := by
  rw [yields_iff]
  decide +kernel

theorem renewed_certificate_mixes :
    Yields plainLibrary keyLost (newStored (plainMaterial 2 2)) ∧
      ¬AtomicReplacement plainLibrary keyLost (plainMaterial 1 3) (newStored (plainMaterial 2 2)) := by
  refine ⟨keyLost_yields, fun atomic => ?_⟩
  have written : Interrupted (storeCertificateMaterial plainLibrary keyLost (plainMaterial 1 3)).2 keyLost
      { keyLost with slotA := newStored (plainMaterial 1 1) } := by
    have accepted : validateCertificateMaterial plainLibrary (plainMaterial 1 3) = .ok := by decide +kernel
    have resolved : resolveProductionSlot plainLibrary keyLost = (.ok .b, []) := by
      rw [resolve_selected rfl]
      rw [if_neg (by decide +kernel), if_pos (by decide +kernel)]
      rfl
    rw [store_accepted accepted resolved rfl]
    exact interrupted_install.mpr (.writing ⟨.inr rfl, .inl rfl, .inl rfl⟩)
  have in_force := atomic.interrupted _ written
  rw [yields_iff, yields_iff] at in_force
  revert in_force
  decide +kernel

theorem keyLost_atomic_iff :
    AtomicReplacement plainLibrary keyLost (plainMaterial 1 3) (newStored (plainMaterial 2 2)) ↔
      MixturesInvalid plainLibrary keyLost (plainMaterial 1 3) :=
  replacement_atomic_iff keyLost_yields

/-! ## Material that can be installed -/

def Installs (lib : CertLibrary) (nvs : CertNvs) (material : CertMaterial) : Prop :=
  (storeCertificateMaterial lib nvs material).1 = .ok ∧
    Yields lib (commitAll (storeCertificateMaterial lib nvs material).2 nvs) (newStored material)

def Missing (stored : StoredMaterial) : Prop :=
  stored.key = none ∨ stored.pem = none ∨ stored.host = none

def Replaceable (lib : CertLibrary) (nvs : CertNvs) : Prop :=
  match readProductionSlotSelector nvs with
  | .error _ => False
  | .ok none => Missing nvs.legacy ∨ Valid lib nvs.legacy
  | .ok (some _) => Valid lib nvs.slotA ∨ Valid lib nvs.slotB

theorem dnsNameIsValid_length {name : Bytes} (valid : dnsNameIsValid name = true) :
    1 ≤ name.length ∧ name.length ≤ acmeDnsNameMaxLength := by
  unfold dnsNameIsValid at valid
  split at valid
  · cases valid
  next shape =>
    simp only [not_or] at shape
    omega

theorem semanticPem_append_zero (pem : Bytes) : semanticPem (pem ++ [0]) = pem := by
  simp [semanticPem]

theorem newStored_valid_iff (accepted : validateCertificateMaterial lib material = .ok) :
    Valid lib (newStored material) ↔ material.pem.length + 1 ≤ acmeResponseMax := by
  obtain ⟨name, long⟩ := validateCertificateMaterial_ok accepted
  obtain ⟨nonempty, short⟩ := dnsNameIsValid_length name
  have length : (material.pem ++ [0]).length = material.pem.length + 1 := by simp
  rw [Valid, validateStoredMaterial, newStored, loadMaterialByNames]
  simp only [length]
  split
  next err load =>
    split at load
    next wrong =>
      obtain rfl := Except.error.inj load
      constructor
      · intro valid
        cases valid
      · intro fits
        have key := material.key.length
        omega
    · cases load
  next loaded load =>
    split at load
    · cases load
    next right =>
      obtain rfl := Except.ok.inj load
      refine ⟨fun _ => by omega, fun _ => ?_⟩
      rw [semanticPem_append_zero]
      exact accepted

theorem notFound_iff_missing (stored : StoredMaterial) :
    validateStoredMaterial lib stored = .notFound ↔ Missing stored := by
  obtain ⟨_ | key, _ | pem, _ | host⟩ := stored
  case some.some.some =>
      refine ⟨fun missing => ?_, nofun⟩
      rw [validateStoredMaterial, loadMaterialByNames] at missing
      split at missing
      next load =>
        subst missing
        split at load <;> cases load
      · exact absurd missing (validateCertificateMaterial_ne_notFound lib _)
  all_goals simp [validateStoredMaterial, loadMaterialByNames, Missing]

theorem install_iff (accepted : validateCertificateMaterial lib material = .ok)
    {resolved : Except EspErr CertSlot} {batches : List (List CertWrite)}
    (resolution : resolveProductionSlot lib nvs = (resolved, batches)) {active : CertSlot}
    (kept : keptSlot resolved = .ok active) :
    Installs lib nvs material ↔ material.pem.length + 1 ≤ acmeResponseMax := by
  rw [Installs, store_accepted accepted resolution kept, ← newStored_valid_iff accepted]
  constructor
  · rintro ⟨ok, -⟩
    exact (@install_done lib nvs material _ ok).1
  · intro valid
    have ok : (install lib material active.other).1 = .ok := by rw [install, if_pos valid]
    refine ⟨ok, ?_⟩
    rw [yields_iff, commitAll_append, (install_done ok).2, effective_selected (selector_selected _ _),
      slot_selected, slot_setSlot, if_pos valid]

theorem not_installs (accepted : validateCertificateMaterial lib material = .ok) {err : EspErr}
    (failed : err ≠ .ok) {batches : List (List CertWrite)}
    (resolution : resolveProductionSlot lib nvs = (.error err, batches)) (other : err ≠ .notFound) :
    ¬Installs lib nvs material := by
  have name := validateCertificateMaterial_ok accepted
  have kept : keptSlot (.error err) = .error err := by cases err <;> first | rfl | exact absurd rfl other
  have nonempty : material.pem.length ≠ 0 := by omega
  rintro ⟨ok, -⟩
  rw [storeCertificateMaterial, if_neg (by simp [name.1, nonempty])] at ok
  simp only [accepted, resolution, kept] at ok
  exact failed ok

theorem readProductionSlotSelector_error {err : EspErr}
    (read : readProductionSlotSelector nvs = .error err) : err = .invalidState := by
  unfold readProductionSlotSelector at read
  split at read
  · cases read
  · split at read
    · exact (Except.error.inj read).symm
    · cases read

theorem installs_iff (accepted : validateCertificateMaterial lib material = .ok) :
    Installs lib nvs material ↔ material.pem.length + 1 ≤ acmeResponseMax ∧ Replaceable lib nvs := by
  cases read : readProductionSlotSelector nvs with
  | error err =>
      obtain rfl := readProductionSlotSelector_error read
      simp only [Replaceable, read, and_false, iff_false]
      exact not_installs accepted (by decide) (resolve_bad_selector read) (by decide)
  | ok selection =>
      cases selection with
      | none =>
          by_cases valid : Valid lib nvs.legacy
          · obtain ⟨legacy, loaded⟩ := valid_loads valid
            rw [install_iff accepted (resolve_migrated read loaded valid) rfl]
            simp [Replaceable, read, valid]
          · have resolution := resolve_not_migrated read valid
            by_cases missing : Missing nvs.legacy
            · rw [(notFound_iff_missing nvs.legacy).mpr missing] at resolution
              rw [install_iff accepted resolution rfl]
              simp [Replaceable, read, missing]
            · have other : validateStoredMaterial lib nvs.legacy ≠ .notFound :=
                fun notFound => missing ((notFound_iff_missing nvs.legacy).mp notFound)
              simp only [Replaceable, read, missing, valid, or_self, and_false, iff_false]
              exact not_installs accepted valid resolution other
      | some selected =>
          have resolution := @resolve_selected lib nvs selected read
          have slots : Valid lib nvs.slotA ∨ Valid lib nvs.slotB ↔
              Valid lib (nvs.slot selected) ∨ Valid lib (nvs.slot selected.other) := by
            cases selected with
            | a => rfl
            | b => exact or_comm
          simp only [Replaceable, read, slots]
          by_cases first : Valid lib (nvs.slot selected)
          · rw [if_pos first] at resolution
            rw [install_iff accepted resolution rfl]
            simp [first]
          · by_cases second : Valid lib (nvs.slot selected.other)
            · rw [if_neg first, if_pos second] at resolution
              rw [install_iff accepted resolution rfl]
              simp [second]
            · rw [if_neg first, if_neg second] at resolution
              simp only [first, second, or_self, and_false, iff_false]
              exact not_installs accepted (by decide) resolution (by decide)

def bothBroken : CertNvs where
  legacy := ⟨none, none, none⟩
  slotA := { newStored (plainMaterial 1 1) with pem := none }
  slotB := { newStored (plainMaterial 2 2) with pem := none }
  activeSlot := some 1

theorem plainMaterial_accepted :
    validateCertificateMaterial plainLibrary (plainMaterial 1 3) = .ok := by decide +kernel

theorem bothBroken_refuses_all : validateCertificateMaterial plainLibrary (plainMaterial 1 3) = .ok ∧
    ¬Installs plainLibrary bothBroken (plainMaterial 1 3) := by
  refine ⟨plainMaterial_accepted, fun installs => ?_⟩
  have failed : (storeCertificateMaterial plainLibrary bothBroken (plainMaterial 1 3)).1 ≠ .ok := by
    decide +kernel
  exact failed installs.1

theorem keyLost_installs_iff : Installs plainLibrary keyLost (plainMaterial 1 3) ↔
    (plainMaterial 1 3).pem.length + 1 ≤ acmeResponseMax ∧ Replaceable plainLibrary keyLost :=
  installs_iff plainMaterial_accepted

end NtsTimeServer.Proof
