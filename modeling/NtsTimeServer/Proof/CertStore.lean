import NtsTimeServer.Model.CertStore

namespace NtsTimeServer.Proof
open Model Lib

variable {lib : CertLibrary} {nvs : CertNvs} {material : CertMaterial}

@[simp] theorem other_other (slot : CertSlot) : slot.other.other = slot := by cases slot <;> rfl

theorem slot_setSlot (nvs : CertNvs) (slot : CertSlot) (change : StoredMaterial → StoredMaterial) :
    (nvs.setSlot slot change).slot slot = change (nvs.slot slot) := by cases slot <;> rfl

theorem slot_other_setSlot (nvs : CertNvs) (slot : CertSlot) (change : StoredMaterial → StoredMaterial) :
    (nvs.setSlot slot change).slot slot.other = nvs.slot slot.other := by cases slot <;> rfl

theorem setSlot_setSlot (nvs : CertNvs) (slot : CertSlot) (first second : StoredMaterial → StoredMaterial) :
    (nvs.setSlot slot first).setSlot slot second = nvs.setSlot slot (second ∘ first) := by
  cases slot <;> rfl

theorem legacy_setSlot (nvs : CertNvs) (slot : CertSlot) (change : StoredMaterial → StoredMaterial) :
    (nvs.setSlot slot change).legacy = nvs.legacy := by cases slot <;> rfl

theorem selector_setSlot (nvs : CertNvs) (slot : CertSlot) (change : StoredMaterial → StoredMaterial) :
    readProductionSlotSelector (nvs.setSlot slot change) = readProductionSlotSelector nvs := by
  cases slot <;> rfl

theorem selector_selected (slot : CertSlot) (nvs : CertNvs) :
    readProductionSlotSelector (applyAll (commitProductionSlotSelector slot) nvs) =
      .ok (some slot) := by cases slot <;> rfl

theorem slot_selected (target slot : CertSlot) (nvs : CertNvs) :
    (applyAll (commitProductionSlotSelector target) nvs).slot slot = nvs.slot slot := by
  cases slot <;> rfl

theorem applyAll_writeSlot (slot : CertSlot) (key pem host : Bytes) (nvs : CertNvs) :
    applyAll (writeSlot slot key pem host) nvs =
      nvs.setSlot slot fun _ => ⟨some key, some pem, some host⟩ := by cases slot <;> rfl

def Valid (lib : CertLibrary) (stored : StoredMaterial) : Prop := validateStoredMaterial lib stored = .ok

instance (lib : CertLibrary) (stored : StoredMaterial) : Decidable (Valid lib stored) :=
  inferInstanceAs (Decidable (_ = _))

theorem loadMaterialByNames_ok {stored : StoredMaterial} {material : CertMaterial}
    (loaded : loadMaterialByNames stored = .ok material) :
    stored = ⟨some material.key.bytes, some material.pem, some material.host⟩ := by
  unfold loadMaterialByNames at loaded
  split at loaded
  · split at loaded
    · cases loaded
    · obtain rfl := Except.ok.inj loaded
      rfl
  · cases loaded

theorem validateCertificateMaterial_ne_notFound (lib : CertLibrary) (material : CertMaterial) :
    validateCertificateMaterial lib material ≠ .notFound := by
  unfold validateCertificateMaterial
  repeat' split
  all_goals nofun

theorem validateCertificateMaterial_ok (accepted : validateCertificateMaterial lib material = .ok) :
    dnsNameIsValid material.host = true ∧ 64 ≤ material.pem.length := by
  unfold validateCertificateMaterial at accepted
  split at accepted
  · cases accepted
  next checked =>
    rw [not_or, not_not] at checked
    exact ⟨checked.1, by omega⟩

/-! ## What the resolution yields -/

def effective (lib : CertLibrary) (nvs : CertNvs) : Option StoredMaterial :=
  match readProductionSlotSelector nvs with
  | .error _ => none
  | .ok none => if Valid lib nvs.legacy then some nvs.legacy else none
  | .ok (some selected) =>
      if Valid lib (nvs.slot selected) then some (nvs.slot selected)
      else if Valid lib (nvs.slot selected.other) then some (nvs.slot selected.other)
      else none

def Yields (lib : CertLibrary) (nvs : CertNvs) (stored : StoredMaterial) : Prop :=
  ∃ slot, (resolveProductionSlot lib nvs).1 = .ok slot ∧
    (commitAll (resolveProductionSlot lib nvs).2 nvs).slot slot = stored

theorem resolve_selected {selected : CertSlot}
    (read : readProductionSlotSelector nvs = .ok (some selected)) :
    resolveProductionSlot lib nvs =
      (if Valid lib (nvs.slot selected) then .ok selected
        else if Valid lib (nvs.slot selected.other) then .ok selected.other
        else .error .invalidState, []) := by
  have migrated : migrateLegacyProductionMaterial lib nvs = (.ok, []) := by
    rw [migrateLegacyProductionMaterial, read]
  rw [resolveProductionSlot, migrated]
  by_cases first : Valid lib (nvs.slot selected)
  · have checked : validateProductionSlot lib nvs selected = .ok := first
    simp [read, checked, first]
  · have checked : ¬validateProductionSlot lib nvs selected = .ok := first
    by_cases second : Valid lib (nvs.slot selected.other)
    · have fallback : validateProductionSlot lib nvs selected.other = .ok := second
      simp [read, checked, first, fallback, second]
    · have fallback : ¬validateProductionSlot lib nvs selected.other = .ok := second
      simp [read, checked, first, fallback, second]

def migrationBatches (material : CertMaterial) : List (List CertWrite) :=
  [writeSlot .a material.key.bytes material.pem material.host, commitProductionSlotSelector .a]

theorem migrate_valid (read : readProductionSlotSelector nvs = .ok none)
    (loaded : loadMaterialByNames nvs.legacy = .ok material) (valid : Valid lib nvs.legacy) :
    migrateLegacyProductionMaterial lib nvs = (.ok, migrationBatches material) := by
  have valid' := valid
  rw [Valid, validateStoredMaterial, loaded] at valid'
  have written : validateProductionSlot lib
      (applyAll (writeSlot .a material.key.bytes material.pem material.host) nvs) .a = .ok := by
    rw [validateProductionSlot, applyAll_writeSlot, slot_setSlot, ← loadMaterialByNames_ok loaded]
    exact valid
  rw [migrateLegacyProductionMaterial, read]
  simp only [loaded, valid', written]
  rfl

theorem migrated_slot (loaded : loadMaterialByNames nvs.legacy = .ok material) :
    (commitAll (migrationBatches material) nvs).slot .a = nvs.legacy := by
  rw [loadMaterialByNames_ok loaded]
  rfl

theorem migrated_selector (material : CertMaterial) (nvs : CertNvs) :
    readProductionSlotSelector (commitAll (migrationBatches material) nvs) = .ok (some .a) := rfl

theorem resolve_migrated (read : readProductionSlotSelector nvs = .ok none)
    (loaded : loadMaterialByNames nvs.legacy = .ok material) (valid : Valid lib nvs.legacy) :
    resolveProductionSlot lib nvs = (.ok .a, migrationBatches material) := by
  have slot : validateProductionSlot lib (commitAll (migrationBatches material) nvs) .a = .ok := by
    rw [validateProductionSlot, migrated_slot loaded]
    exact valid
  rw [resolveProductionSlot, migrate_valid read loaded valid]
  simp only [migrated_selector, slot]
  rfl

theorem migrate_invalid (read : readProductionSlotSelector nvs = .ok none)
    (invalid : ¬Valid lib nvs.legacy) :
    migrateLegacyProductionMaterial lib nvs = (validateStoredMaterial lib nvs.legacy, []) := by
  rw [migrateLegacyProductionMaterial, read, validateStoredMaterial]
  cases loaded : loadMaterialByNames nvs.legacy with
  | error err => rfl
  | ok material =>
      rw [Valid, validateStoredMaterial, loaded] at invalid
      simp only [if_pos invalid]

theorem resolve_not_migrated (read : readProductionSlotSelector nvs = .ok none)
    (invalid : ¬Valid lib nvs.legacy) :
    resolveProductionSlot lib nvs = (.error (validateStoredMaterial lib nvs.legacy), []) := by
  rw [resolveProductionSlot, migrate_invalid read invalid]
  simp only [commitAll_nil, read]
  split
  · rfl
  next tolerated =>
    have missing := not_not.mp ((not_and.mp tolerated) invalid)
    rw [missing]

theorem loadMaterialByNames_error {stored : StoredMaterial} {err : EspErr}
    (failed : loadMaterialByNames stored = .error err) : err = .invalidSize ∨ err = .notFound := by
  unfold loadMaterialByNames at failed
  split at failed
  · split at failed
    · exact .inl (Except.error.inj failed).symm
    · cases failed
  · exact .inr (Except.error.inj failed).symm

theorem valid_loads {stored : StoredMaterial} (valid : Valid lib stored) :
    ∃ material, loadMaterialByNames stored = .ok material := by
  rw [Valid, validateStoredMaterial] at valid
  cases loaded : loadMaterialByNames stored with
  | error err =>
      rw [loaded] at valid
      obtain rfl | rfl := loadMaterialByNames_error loaded <;> cases valid
  | ok material => exact ⟨material, rfl⟩

theorem resolve_bad_selector {err : EspErr} (read : readProductionSlotSelector nvs = .error err) :
    resolveProductionSlot lib nvs = (.error err, []) := by
  have migrated : migrateLegacyProductionMaterial lib nvs = (err, []) := by
    rw [migrateLegacyProductionMaterial, read]
  rw [resolveProductionSlot, migrated]
  simp only [commitAll_nil, read]
  split <;> rfl

theorem yields_iff (stored : StoredMaterial) : Yields lib nvs stored ↔ effective lib nvs = some stored := by
  rw [Yields, effective]
  cases read : readProductionSlotSelector nvs with
  | error err =>
      rw [resolve_bad_selector read]
      simp
  | ok selected =>
      cases selected with
      | none =>
          by_cases valid : Valid lib nvs.legacy
          · obtain ⟨material, loaded⟩ := valid_loads valid
            rw [resolve_migrated read loaded valid]
            simp only [if_pos valid, Except.ok.injEq, exists_eq_left', migrated_slot loaded,
              Option.some.injEq]
          · rw [resolve_not_migrated read valid]
            simp only [if_neg valid]
            simp
      | some selected =>
          rw [resolve_selected read]
          by_cases first : Valid lib (nvs.slot selected)
          · simp only [if_pos first]
            simp
          · by_cases second : Valid lib (nvs.slot selected.other)
            · simp only [if_neg first, if_pos second]
              simp
            · simp only [if_neg first, if_neg second]
              simp

def newStored (material : CertMaterial) : StoredMaterial :=
  ⟨some material.key.bytes, some (material.pem ++ [0]), some material.host⟩

structure Mixture (old new mixed : StoredMaterial) : Prop where
  key : mixed.key = old.key ∨ mixed.key = new.key
  pem : mixed.pem = old.pem ∨ mixed.pem = new.pem
  host : mixed.host = old.host ∨ mixed.host = new.host

def install (lib : CertLibrary) (material : CertMaterial) (target : CertSlot) :
    EspErr × List (List CertWrite) :=
  let written := writeSlot target material.key.bytes (material.pem ++ [0]) material.host
  if Valid lib (newStored material) then (.ok, [written, commitProductionSlotSelector target])
  else (validateStoredMaterial lib (newStored material), [written])

theorem store_refused (refused : validateCertificateMaterial lib material ≠ .ok) :
    (storeCertificateMaterial lib nvs material).1 ≠ .ok ∧
      (storeCertificateMaterial lib nvs material).2 = [] := by
  rw [storeCertificateMaterial]
  split
  · exact ⟨nofun, rfl⟩
  · simp only [if_pos refused]
    exact ⟨refused, trivial⟩

theorem store_accepted (accepted : validateCertificateMaterial lib material = .ok)
    {resolved : Except EspErr CertSlot} {batches : List (List CertWrite)}
    (resolution : resolveProductionSlot lib nvs = (resolved, batches)) {active : CertSlot}
    (kept : keptSlot resolved = .ok active) :
    storeCertificateMaterial lib nvs material =
      ((install lib material active.other).1, batches ++ (install lib material active.other).2) := by
  have name := validateCertificateMaterial_ok accepted
  have written : validateProductionSlot lib (applyAll (writeSlot active.other material.key.bytes
      (material.pem ++ [0]) material.host) (commitAll batches nvs)) active.other =
      validateStoredMaterial lib (newStored material) := by
    rw [validateProductionSlot, applyAll_writeSlot, slot_setSlot]
    rfl
  have nonempty : material.pem.length ≠ 0 := by omega
  rw [storeCertificateMaterial, if_neg (by simp [name.1, nonempty]), install]
  simp only [accepted, resolution, kept, written]
  by_cases valid : Valid lib (newStored material)
  · have checked : validateStoredMaterial lib (newStored material) = .ok := valid
    simp [valid, checked]
  · have checked : ¬validateStoredMaterial lib (newStored material) = .ok := valid
    simp [valid, checked]

/-! ## Interrupted writes of a slot -/

theorem Mixture.refl (old new : StoredMaterial) : Mixture old new old := ⟨.inl rfl, .inl rfl, .inl rfl⟩

theorem mixture_of_sublist {target : CertSlot} {key pem host : Bytes} {done : List CertWrite}
    (part : done.Sublist (writeSlot target key pem host)) (nvs : CertNvs) :
    ∃ mixed, Mixture (nvs.slot target) ⟨some key, some pem, some host⟩ mixed ∧
      applyAll done nvs = nvs.setSlot target fun _ => mixed := by
  refine applyAll_sublist_rule (fun t => ∃ mixed,
    Mixture (nvs.slot target) ⟨some key, some pem, some host⟩ mixed ∧
      t = nvs.setSlot target fun _ => mixed) ?_ part ⟨nvs.slot target, .refl _ _, ?_⟩
  · rintro write member _ ⟨mixed, mixture, rfl⟩
    simp only [writeSlot, List.mem_cons, List.not_mem_nil, or_false] at member
    obtain rfl | rfl | rfl := member <;> rw [setSlot_setSlot]
    · exact ⟨{ mixed with key := some key }, ⟨.inr rfl, mixture.pem, mixture.host⟩, rfl⟩
    · exact ⟨{ mixed with pem := some pem }, ⟨mixture.key, .inr rfl, mixture.host⟩, rfl⟩
    · exact ⟨{ mixed with host := some host }, ⟨mixture.key, mixture.pem, .inr rfl⟩, rfl⟩
  · cases target <;> rfl

theorem sublist_of_mixture {target : CertSlot} {key pem host : Bytes} {nvs : CertNvs}
    {mixed : StoredMaterial}
    (mixture : Mixture (nvs.slot target) ⟨some key, some pem, some host⟩ mixed) :
    ∃ done : List CertWrite, done.Sublist (writeSlot target key pem host) ∧
      applyAll done nvs = nvs.setSlot target fun _ => mixed := by
  have entry {old new value : Option Bytes} (either : value = old ∨ value = new)
      (write : CertWrite) : ∃ done : List CertWrite, done.Sublist [write] ∧
        (done = [] ∧ value = old ∨ done = [write] ∧ value = new) := by
    obtain same | changed := either
    · exact ⟨[], List.nil_sublist _, .inl ⟨rfl, same⟩⟩
    · exact ⟨[write], List.Sublist.refl _, .inr ⟨rfl, changed⟩⟩
  obtain ⟨mixedKey, mixedPem, mixedHost⟩ := mixed
  obtain ⟨keys, keysPart, keyWritten⟩ := entry mixture.key
    (CertNvs.setSlot target fun stored => { stored with key := some key })
  obtain ⟨pems, pemsPart, pemWritten⟩ := entry mixture.pem
    (CertNvs.setSlot target fun stored => { stored with pem := some pem })
  obtain ⟨hosts, hostsPart, hostWritten⟩ := entry mixture.host
    (CertNvs.setSlot target fun stored => { stored with host := some host })
  refine ⟨keys ++ (pems ++ hosts), keysPart.append (pemsPart.append hostsPart), ?_⟩
  dsimp only at keyWritten pemWritten hostWritten
  obtain ⟨rfl, rfl⟩ | ⟨rfl, rfl⟩ := keyWritten <;> obtain ⟨rfl, rfl⟩ | ⟨rfl, rfl⟩ := pemWritten <;>
    obtain ⟨rfl, rfl⟩ | ⟨rfl, rfl⟩ := hostWritten <;> cases target <;> rfl

theorem effective_selected {selected : CertSlot}
    (read : readProductionSlotSelector nvs = .ok (some selected)) :
    effective lib nvs = if Valid lib (nvs.slot selected) then some (nvs.slot selected)
      else if Valid lib (nvs.slot selected.other) then some (nvs.slot selected.other) else none := by
  rw [effective, read]

/-- The states that an interrupted installation can leave. -/
inductive Installing (lib : CertLibrary) (nvs : CertNvs) (material : CertMaterial) (target : CertSlot) :
    CertNvs → Prop
  | writing {mixed : StoredMaterial} : Mixture (nvs.slot target) (newStored material) mixed →
      Installing lib nvs material target (nvs.setSlot target fun _ => mixed)
  | selected : Valid lib (newStored material) → Installing lib nvs material target
      (applyAll (commitProductionSlotSelector target) (nvs.setSlot target fun _ => newStored material))

theorem interrupted_install {target : CertSlot} {t : CertNvs} :
    Interrupted (install lib material target).2 nvs t ↔ Installing lib nvs material target t := by
  have whole := applyAll_writeSlot target material.key.bytes (material.pem ++ [0]) material.host nvs
  have written : Installing lib nvs material target (nvs.setSlot target fun _ => newStored material) :=
    .writing ⟨.inr rfl, .inr rfl, .inr rfl⟩
  constructor
  · intro interrupted
    rw [install] at interrupted
    split at interrupted
    next valid =>
      rw [interrupted_cons, interrupted_cons, interrupted_nil, whole] at interrupted
      obtain ⟨done, part, rfl⟩ | ⟨done, part, rfl⟩ | rfl := interrupted
      · obtain ⟨mixed, mixture, same⟩ := mixture_of_sublist part nvs
        exact same ▸ .writing mixture
      · obtain rfl | rfl := List.sublist_singleton.mp part
        · exact written
        · exact .selected valid
      · exact .selected valid
    next invalid =>
      rw [interrupted_cons, interrupted_nil, whole] at interrupted
      obtain ⟨done, part, rfl⟩ | rfl := interrupted
      · obtain ⟨mixed, mixture, same⟩ := mixture_of_sublist part nvs
        exact same ▸ .writing mixture
      · exact written
  · intro installing
    rw [install]
    cases installing with
    | writing mixture =>
        obtain ⟨done, part, same⟩ := sublist_of_mixture mixture
        rw [← same]
        split <;> exact .within part
    | selected valid =>
        rw [if_pos valid]
        refine .later (.later ?_)
        rw [whole]
        exact .finished

theorem install_done {target : CertSlot} (ok : (install lib material target).1 = .ok) :
    Valid lib (newStored material) ∧ commitAll (install lib material target).2 nvs =
      applyAll (commitProductionSlotSelector target)
        (nvs.setSlot target fun _ => newStored material) := by
  rw [install] at ok ⊢
  split at ok
  next valid =>
    refine ⟨valid, ?_⟩
    rw [if_pos valid, commitAll_cons, applyAll_writeSlot, commitAll_cons, commitAll_nil]
    rfl
  next invalid => exact absurd ok invalid

theorem installing_other {selected : CertSlot}
    (read : readProductionSlotSelector nvs = .ok (some selected)) (valid : Valid lib (nvs.slot selected))
    {t : CertNvs} (installing : Installing lib nvs material selected.other t) :
    effective lib t = some (nvs.slot selected) ∨ effective lib t = some (newStored material) := by
  cases installing with
  | @writing mixed mixture =>
      left
      have kept := slot_other_setSlot nvs selected.other fun _ => mixed
      rw [other_other] at kept
      rw [effective_selected ((selector_setSlot _ _ _).trans read), kept, if_pos valid]
  | selected newValid =>
      right
      rw [effective_selected (selector_selected _ _), slot_selected, slot_setSlot, if_pos newValid]

theorem effective_mixture {selected : CertSlot}
    (read : readProductionSlotSelector nvs = .ok (some selected)) (mixed : StoredMaterial)
    (fallback : Valid lib (nvs.slot selected.other)) :
    effective lib (nvs.setSlot selected fun _ => mixed) =
      some (if Valid lib mixed then mixed else nvs.slot selected.other) := by
  rw [effective_selected ((selector_setSlot _ _ _).trans read), slot_setSlot, slot_other_setSlot,
    if_pos fallback]
  split <;> rfl

end NtsTimeServer.Proof
