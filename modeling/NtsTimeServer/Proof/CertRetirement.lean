import NtsTimeServer.Proof.CertReplacement

namespace NtsTimeServer.Proof
open Model Lib

variable {lib : CertLibrary} {nvs t : CertNvs}

/-- `resolve_production_slot` selects the same key, PEM and host, or none, in both states. -/
def SameCredential (lib : CertLibrary) (nvs t : CertNvs) : Prop :=
  ∀ stored, Yields lib t stored ↔ Yields lib nvs stored

theorem sameCredential_of_effective (same : effective lib t = effective lib nvs) :
    SameCredential lib nvs t := by
  intro stored
  rw [yields_iff, yields_iff, same]

/-! ## Retirement -/

structure Superseded (lib : CertLibrary) (nvs : CertNvs) (legacy : StoredMaterial) : Prop where
  slotA : Valid lib nvs.slotA
  slotB : Valid lib nvs.slotB
  yields : Yields lib nvs legacy

theorem retire_cases (lib : CertLibrary) (nvs : CertNvs) :
    (retireLegacyProductionMaterialIfSafe lib nvs).2 = [] ∨
      (retireLegacyProductionMaterialIfSafe lib nvs).2 = [eraseLegacyKeys] ∧
        (∃ selected, readProductionSlotSelector nvs = .ok (some selected)) ∧
        Superseded lib nvs nvs.legacy := by
  rw [retireLegacyProductionMaterialIfSafe]
  split
  · exact .inl rfl
  next slots =>
    rw [not_or, not_not, not_not] at slots
    obtain ⟨slotA, slotB⟩ := slots
    cases read : readProductionSlotSelector nvs with
    | error err => exact .inl rfl
    | ok selection =>
        cases selection with
        | none => exact .inl rfl
        | some selected =>
            have valid : validateProductionSlot lib nvs selected = .ok := by
              cases selected with
              | a => exact slotA
              | b => exact slotB
            have in_force : Valid lib (nvs.slot selected) := valid
            simp only [valid, ne_eq, not_true_eq_false, if_false]
            split
            · exact .inl rfl
            · exact .inl rfl
            next legacy loaded =>
              split
              · exact .inl rfl
              split
              · exact .inl rfl
              next active loadedActive =>
                split
                · exact .inl rfl
                next same =>
                  simp only [not_or, not_not] at same
                  obtain ⟨host, key, -, pem⟩ := same
                  refine .inr ⟨rfl, ⟨selected, rfl⟩, slotA, slotB, ?_⟩
                  rw [yields_iff, effective_selected read, if_pos in_force, Option.some.injEq,
                    loadMaterialByNames_ok loaded, loadMaterialByNames_ok loadedActive, host, key, pem]

theorem erased_of_sublist {done : List CertWrite} (part : done.Sublist eraseLegacyKeys) (nvs : CertNvs) :
    ∃ legacy, applyAll done nvs = { nvs with legacy } := by
  refine applyAll_sublist_rule (fun t => ∃ legacy, t = { nvs with legacy }) ?_ part ⟨nvs.legacy, rfl⟩
  rintro write member _ ⟨legacy, rfl⟩
  simp only [eraseLegacyKeys, List.mem_cons, List.not_mem_nil, or_false] at member
  obtain rfl | rfl | rfl := member <;> exact ⟨_, rfl⟩

theorem effective_legacy {selected : CertSlot}
    (read : readProductionSlotSelector nvs = .ok (some selected)) (legacy : StoredMaterial) :
    effective lib { nvs with legacy } = effective lib nvs := by
  have read' : readProductionSlotSelector { nvs with legacy } = .ok (some selected) := read
  rw [effective_selected read, effective_selected read']
  cases selected <;> rfl

theorem retire_keeps
    (interrupted : Interrupted (retireLegacyProductionMaterialIfSafe lib nvs).2 nvs t) :
    effective lib t = effective lib nvs ∧
      (t.legacy = nvs.legacy ∨ Superseded lib nvs nvs.legacy ∧ Superseded lib t nvs.legacy) := by
  obtain none | ⟨erasing, ⟨selected, read⟩, superseded⟩ := retire_cases lib nvs
  · rw [none, interrupted_nil] at interrupted
    simp [interrupted]
  · have erased : ∃ legacy, t = { nvs with legacy } := by
      rw [erasing, interrupted_cons, interrupted_nil] at interrupted
      obtain ⟨done, part, rfl⟩ | rfl := interrupted
      · exact erased_of_sublist part nvs
      · exact erased_of_sublist (List.Sublist.refl _) nvs
    obtain ⟨legacy, rfl⟩ := erased
    have kept := @effective_legacy lib nvs selected read legacy
    refine ⟨kept, .inr ⟨superseded, superseded.slotA, superseded.slotB, ?_⟩⟩
    rw [yields_iff, kept, ← yields_iff]
    exact superseded.yields

/-- Neither the migration nor the retirement nor both changes the credential that a resolution selects, and
legacy entries differ from what they were only if both slots validate and what is in force is what the
legacy entries were. -/
theorem legacy_never_changes_credential (lib : CertLibrary) (nvs t : CertNvs) :
    (Interrupted (migrateLegacyProductionMaterial lib nvs).2 nvs t →
      SameCredential lib nvs t ∧ t.legacy = nvs.legacy) ∧
    (Interrupted (retireLegacyProductionMaterialIfSafe lib nvs).2 nvs t →
      SameCredential lib nvs t ∧
        (t.legacy ≠ nvs.legacy → Superseded lib nvs nvs.legacy ∧ Superseded lib t nvs.legacy)) ∧
    (Interrupted (acmeClientPrepareProductionStorage lib nvs).2 nvs t →
      SameCredential lib nvs t ∧ (t.legacy ≠ nvs.legacy → Superseded lib t nvs.legacy)) := by
  refine ⟨fun interrupted => ?_, fun interrupted => ?_, fun interrupted => ?_⟩
  · obtain ⟨same, legacy⟩ := migrate_keeps interrupted
    exact ⟨sameCredential_of_effective same, legacy⟩
  · obtain ⟨same, legacy⟩ := retire_keeps interrupted
    exact ⟨sameCredential_of_effective same, fun changed => legacy.resolve_left changed⟩
  · have migrated {u : CertNvs} (interrupted : Interrupted (resolveProductionSlot lib nvs).2 nvs u) :
        effective lib u = effective lib nvs ∧ u.legacy = nvs.legacy := by
      rw [resolve_batches] at interrupted
      exact migrate_keeps interrupted
    rw [acmeClientPrepareProductionStorage] at interrupted
    cases resolved : (resolveProductionSlot lib nvs).1 with
    | error err =>
        simp only [resolved] at interrupted
        obtain ⟨same, legacy⟩ := migrated interrupted
        exact ⟨sameCredential_of_effective same, fun changed => absurd legacy changed⟩
    | ok slot =>
        simp only [resolved, interrupted_append] at interrupted
        obtain early | late := interrupted
        · obtain ⟨same, legacy⟩ := migrated early
          exact ⟨sameCredential_of_effective same, fun changed => absurd legacy changed⟩
        · obtain ⟨before, legacy⟩ := migrated (interrupted_end _ nvs)
          obtain ⟨same, erased⟩ := retire_keeps late
          rw [before] at same
          rw [legacy] at erased
          exact ⟨sameCredential_of_effective same, fun changed => (erased.resolve_left changed).2⟩

def twins : CertNvs where
  legacy := newStored (plainMaterial 1 1)
  slotA := newStored (plainMaterial 1 1)
  slotB := newStored (plainMaterial 2 2)
  activeSlot := some 0

def twinsErasing : CertNvs := eraseLegacy (fun stored => { stored with key := none }) twins

theorem twins_erasing :
    Interrupted (retireLegacyProductionMaterialIfSafe plainLibrary twins).2 twins twinsErasing ∧
      SameCredential plainLibrary twins twinsErasing ∧
      Superseded plainLibrary twinsErasing twins.legacy := by
  have erases : (retireLegacyProductionMaterialIfSafe plainLibrary twins).2.length = 1 := by decide +kernel
  have interrupted :
      Interrupted (retireLegacyProductionMaterialIfSafe plainLibrary twins).2 twins twinsErasing := by
    obtain none | ⟨erasing, -⟩ := retire_cases plainLibrary twins
    · simp [none] at erases
    · rw [erasing]
      exact .within (List.singleton_sublist.mpr List.mem_cons_self)
  have changed : twinsErasing.legacy ≠ twins.legacy := by decide
  have kept := (legacy_never_changes_credential plainLibrary twins twinsErasing).2.1 interrupted
  exact ⟨interrupted, kept.1, (kept.2 changed).2⟩

end NtsTimeServer.Proof
