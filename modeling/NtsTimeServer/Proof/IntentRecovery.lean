import NtsTimeServer.Model.AutomaticRenewal
import NtsTimeServer.Proof.CertReplacement
import NtsTimeServer.Proof.TlsTransition

/-!
# The activation intent after a loss of power

While an intent is pending, the previous credential or its replacement is in force, and a target that is
stored is the leaf of the replacement, which is in force then. The boot tells the cases apart by the leaf of
the running credential.
-/

namespace NtsTimeServer.Proof
open Model Lib

variable {lib : InspectionLibrary} {old : StoredMaterial} {issued : Option CertMaterial}

theorem fingerprintHex_length (digest : Bytes) : (fingerprintHex digest).length = 2 * digest.length := by
  induction digest with
  | nil => rfl
  | cons byte rest ih =>
      simp only [fingerprintHex, List.flatMap_cons, List.length_append, List.length_cons,
        List.length_nil] at ih ⊢
      omega

theorem inspectMaterial_length {stored : StoredMaterial} {leaf : Bytes}
    (inspected : inspectMaterial lib stored = .ok leaf) : leaf.length = 64 := by
  unfold inspectMaterial at inspected
  cases loaded : loadMaterialByNames stored with
  | error err => simp [loaded] at inspected
  | ok material =>
      cases parsed : lib.parseBlob material.pem with
      | none => simp [loaded, parsed] at inspected
      | some der =>
          cases exported : lib.exportPublicKey material.key.bytes with
          | none =>
              simp only [loaded, parsed, exported] at inspected
              split at inspected <;> cases inspected
          | some publicKey =>
              simp only [loaded, parsed, exported] at inspected
              split_ifs at inspected
              rw [← Except.ok.inj inspected, fingerprintHex_length, lib.sha256_length]

theorem inspectMaterial_ne_nil {stored : StoredMaterial} {leaf : Bytes}
    (inspected : inspectMaterial lib stored = .ok leaf) : leaf ≠ [] := by
  rintro rfl
  cases inspectMaterial_length inspected

theorem formatted_leaf {leaf : Bytes} (length : leaf.length = 64) : formatted leafSha256Size leaf = leaf := by
  apply List.take_of_length_le
  simp [leafSha256Size, length]

/-! ## The credential in force -/

/-- The slot in force is the one that is selected, or the material was never migrated. -/
def Uncorrupted (lib : CertLibrary) (nvs : CertNvs) (stored : StoredMaterial) : Prop :=
  Valid lib stored ∧
    ((∃ slot, readProductionSlotSelector nvs = .ok (some slot) ∧ nvs.slot slot = stored) ∨
      (readProductionSlotSelector nvs = .ok none ∧ nvs.legacy = stored))

theorem Uncorrupted.effective {lib : CertLibrary} {nvs : CertNvs} {stored : StoredMaterial}
    (uncorrupted : Uncorrupted lib nvs stored) : effective lib nvs = some stored := by
  obtain ⟨valid, ⟨slot, read, rfl⟩ | ⟨read, rfl⟩⟩ := uncorrupted
  · rw [effective_selected read, if_pos valid]
  · simp [Proof.effective, read, valid]

theorem resolve_keeps {lib : CertLibrary} {nvs t : CertNvs} {stored : StoredMaterial}
    (uncorrupted : Uncorrupted lib nvs stored)
    (interrupted : Interrupted (resolveProductionSlot lib nvs).2 nvs t) : effective lib t = some stored := by
  rw [resolve_batches] at interrupted
  rw [(migrate_keeps interrupted).1, uncorrupted.effective]

theorem resolve_uncorrupted {lib : CertLibrary} {nvs : CertNvs} {stored : StoredMaterial}
    (uncorrupted : Uncorrupted lib nvs stored) :
    Uncorrupted lib (commitAll (resolveProductionSlot lib nvs).2 nvs) stored := by
  obtain ⟨valid, ⟨slot, read, rfl⟩ | ⟨read, rfl⟩⟩ := uncorrupted
  · rw [resolve_selected read]
    exact ⟨valid, .inl ⟨slot, read, rfl⟩⟩
  · obtain ⟨material, loaded⟩ := valid_loads valid
    rw [resolve_migrated read loaded valid]
    exact ⟨valid, .inl ⟨.a, migrated_selector material nvs, migrated_slot loaded⟩⟩

theorem inspect_yields {nvs : CertNvs} {leaf : Bytes}
    (inspected : (inspectStoredProductionCertificate lib nvs).1 = .ok leaf) :
    ∃ stored, effective lib.toCertLibrary nvs = some stored ∧ inspectMaterial lib stored = .ok leaf := by
  unfold inspectStoredProductionCertificate at inspected
  cases resolved : (resolveProductionSlot lib.toCertLibrary nvs).1 with
  | error err => simp [resolved] at inspected
  | ok slot =>
      simp only [resolved] at inspected
      exact ⟨_, (yields_iff _).mp ⟨slot, resolved, rfl⟩, inspected⟩

theorem store_atomic {lib : CertLibrary} {nvs : CertNvs} {material : CertMaterial}
    (uncorrupted : Uncorrupted lib nvs old) : AtomicReplacement lib nvs material old := by
  by_cases accepted : validateCertificateMaterial lib material = .ok
  · obtain ⟨valid, ⟨slot, read, rfl⟩ | ⟨read, rfl⟩⟩ := uncorrupted
    · exact atomic_of_selected accepted read valid
    · exact atomic_of_migrated accepted read valid
  · exact atomic_of_refused ((yields_iff _).mpr uncorrupted.effective) accepted

theorem store_uncorrupted {lib : CertLibrary} {nvs : CertNvs} {material : CertMaterial}
    (uncorrupted : Uncorrupted lib nvs old) (ok : (storeCertificateMaterial lib nvs material).1 = .ok) :
    Uncorrupted lib (commitAll (storeCertificateMaterial lib nvs material).2 nvs) (newStored material) := by
  have accepted : validateCertificateMaterial lib material = .ok := by
    by_contra refused
    exact (store_refused refused).1 ok
  obtain ⟨active, batches, stored⟩ : ∃ (active : CertSlot) (batches : List (List CertWrite)),
      storeCertificateMaterial lib nvs material =
        ((install lib material active.other).1, batches ++ (install lib material active.other).2) := by
    obtain ⟨valid, ⟨slot, read, rfl⟩ | ⟨read, rfl⟩⟩ := uncorrupted
    · exact ⟨slot, [], store_accepted accepted ((resolve_selected read).trans (by rw [if_pos valid])) rfl⟩
    · obtain ⟨legacy, loaded⟩ := valid_loads valid
      exact ⟨.a, _, store_accepted accepted (resolve_migrated read loaded valid) rfl⟩
  rw [stored] at ok ⊢
  obtain ⟨valid, done⟩ := @install_done lib (commitAll batches nvs) material active.other ok
  rw [commitAll_append, done]
  refine ⟨valid, .inl ⟨active.other, selector_selected _ _, ?_⟩⟩
  rw [slot_selected, slot_setSlot]

def Replaced (lib : InspectionLibrary) (issued : Option CertMaterial) (certs : CertNvs) : Prop :=
  ∃ material, issued = some material ∧ effective lib.toCertLibrary certs = some (newStored material)

def IntentIdle (s : TlsRecords) : Prop :=
  ∃ record, loadTlsActivationIntent .ok s = .ok record ∧ record.pending = false

def IntentPending (s : TlsRecords) : Prop :=
  ∃ record, loadTlsActivationIntent .ok s = .ok record ∧ record.pending = true

def IntentBegun (previous : Bytes) (s : TlsRecords) : Prop :=
  ∃ record, loadTlsActivationIntent .ok s = .ok record ∧ record.pending = true ∧
    record.previousLeafSha256 = previous ∧ record.targetLeafSha256 = []

def IntentTargeted (target : Bytes) (s : TlsRecords) : Prop :=
  ∃ record, loadTlsActivationIntent .ok s = .ok record ∧ record.pending = true ∧
    record.targetLeafSha256 = target

inductive IntentHolds (lib : InspectionLibrary) (old : StoredMaterial) (issued : Option CertMaterial)
    (certs : CertNvs) (s : TlsRecords) : Prop
  | idle : IntentIdle s → IntentHolds lib old issued certs s
  | begun {previous : Bytes} : IntentBegun previous s → inspectMaterial lib old = .ok previous →
      effective lib.toCertLibrary certs = some old ∨ Replaced lib issued certs →
      IntentHolds lib old issued certs s
  | targeted {material : CertMaterial} {target : Bytes} : IntentTargeted target s →
      issued = some material → inspectMaterial lib (newStored material) = .ok target →
      effective lib.toCertLibrary certs = some (newStored material) → IntentHolds lib old issued certs s

theorem loadTlsActivationIntent_blob {s : TlsRecords} {record : TlsIntentRecord}
    (stored : s.intent = some record.blob) :
    loadTlsActivationIntent .ok s = .ok record.terminated := by
  simp [loadTlsActivationIntent, stored, TlsBlob.read, TlsIntentRecord.blob, Except.map]

theorem storeTlsActivationIntent_intent (record : TlsIntentRecord) (result : String)
    (write : StoreOutcome) (s : TlsRecords) :
    (storeTlsActivationIntent record result write s).2.intent =
      if write.durable then some record.blob else s.intent := by
  cases write <;> simp [storeTlsActivationIntent, StoreOutcome.err, StoreOutcome.durable, TlsRecords.publish]

theorem intentClear_intent (bootReconciled : Bool) (write : StoreOutcome) (s : TlsRecords) :
    (tlsActivationIntentClear bootReconciled write s).2.intent =
      if write.durable then some (TlsIntentRecord.blob ⟨false, bootReconciled, 0, [], []⟩) else s.intent :=
  storeTlsActivationIntent_intent _ _ write s

theorem intentClear_idle (bootReconciled : Bool) (s : TlsRecords) :
    IntentIdle (tlsActivationIntentClear bootReconciled .stored s).2 :=
  ⟨_, loadTlsActivationIntent_blob (intentClear_intent bootReconciled .stored s), rfl⟩

theorem intentBegin_begun {previous : Bytes} (length : previous.length = 64) (now : Int)
    (s : TlsRecords) : IntentBegun previous (tlsActivationIntentBegin previous now .stored s).2 := by
  have nonempty : previous ≠ [] := by
    rintro rfl
    cases length
  unfold tlsActivationIntentBegin
  rw [if_neg nonempty]
  refine ⟨_, loadTlsActivationIntent_blob (storeTlsActivationIntent_intent _ _ .stored s), rfl, ?_, rfl⟩
  simp only [TlsIntentRecord.terminated, formatted_leaf length]

theorem intentSetTarget_targeted {previous target : Bytes} {s : TlsRecords} (length : target.length = 64)
    (begun : IntentBegun previous s) :
    IntentTargeted target (tlsActivationIntentSetTarget target ⟨.ok, .stored⟩ s).2 := by
  obtain ⟨record, loaded, pending, -, -⟩ := begun
  have nonempty : target ≠ [] := by
    rintro rfl
    cases length
  unfold tlsActivationIntentSetTarget
  rw [if_neg nonempty]
  simp only [loaded, pending, not_true_eq_false, if_false]
  refine ⟨_, loadTlsActivationIntent_blob (storeTlsActivationIntent_intent _ _ .stored s), rfl, ?_⟩
  simp only [TlsIntentRecord.terminated, formatted_leaf length]

/-! ## The scheduler's part -/

theorem certs_part : StoragePart Device.certs Device.setCerts := ⟨fun _ _ => rfl, fun _ => rfl, fun _ _ _ => rfl⟩

theorem recordCall_survives {call : TlsRecords → EspErr × TlsRecords} {before lost : Device → Prop}
    {after : EspErr → Device → Prop}
    (holds : ∀ d, before d → lost d ∧ lost (d.setRecords (call d.web.records).2) ∧
      after (call d.web.records).1 (d.setRecords (call d.web.records).2)) :
    Survives before (recordCall call) lost after := by
  unfold recordCall
  refine Survives.bind (fun err d => before d ∧ err = (call d.web.records).1)
    (Survives.read fun d here => ⟨(holds d here).1, here, rfl⟩) fun err => ?_
  refine Survives.bind (fun _ d => lost d ∧ after err d) (Survives.commit ?_) fun _ =>
    Survives.pure fun _ => id
  rintro d ⟨here, rfl⟩
  obtain ⟨unwritten, written, returned⟩ := holds d here
  exact ⟨unwritten, written, written, returned⟩

theorem inspect_survives (stored : StoredMaterial) (kept : WebTls → Prop) :
    Survives (fun d => Uncorrupted lib.toCertLibrary d.certs stored ∧ kept d.web)
      (Committing.within Device.certs Device.setCerts (inspectStoredProductionCertificate lib))
      (fun d => effective lib.toCertLibrary d.certs = some stored ∧ kept d.web)
      (fun inspection d => (Uncorrupted lib.toCertLibrary d.certs stored ∧ kept d.web) ∧
        ∀ leaf, inspection = .ok leaf → inspectMaterial lib stored = .ok leaf) := by
  have batches (nvs : CertNvs) : (inspectStoredProductionCertificate lib nvs).2 =
      (resolveProductionSlot lib.toCertLibrary nvs).2 := by
    unfold inspectStoredProductionCertificate
    rcases resolveProductionSlot lib.toCertLibrary nvs with ⟨_ | _, _⟩ <;> rfl
  refine Survives.within certs_part fun d ⟨uncorrupted, web⟩ => ⟨?_, ?_⟩
  · rintro _ rfl t interrupted
    rw [batches] at interrupted
    exact ⟨resolve_keeps uncorrupted interrupted, web⟩
  · rintro _ rfl
    refine ⟨⟨?_, web⟩, fun leaf inspected => ?_⟩
    · simp only [batches]
      exact resolve_uncorrupted uncorrupted
    · obtain ⟨found, force, yielded⟩ := inspect_yields inspected
      rw [uncorrupted.effective, Option.some.injEq] at force
      exact force ▸ yielded

theorem store_survives {previous : Bytes} (leaf : inspectMaterial lib old = .ok previous)
    (material : CertMaterial) :
    Survives (fun d => Uncorrupted lib.toCertLibrary d.certs old ∧ IntentBegun previous d.web.records)
      (Committing.within Device.certs Device.setCerts fun nvs =>
        storeCertificateMaterial lib.toCertLibrary nvs material)
      (fun d => IntentHolds lib old (some material) d.certs d.web.records)
      (fun err d => IntentBegun previous d.web.records ∧
        (err = .ok → Uncorrupted lib.toCertLibrary d.certs (newStored material))) := by
  refine Survives.within certs_part fun d ⟨uncorrupted, begun⟩ => ⟨?_, ?_⟩
  · rintro _ rfl t interrupted
    obtain kept | replaced := (store_atomic uncorrupted).interrupted t interrupted
    · exact .begun begun leaf (.inl ((yields_iff _).mp kept))
    · exact .begun begun leaf (.inr ⟨material, rfl, (yields_iff _).mp replaced⟩)
  · rintro _ rfl
    exact ⟨begun, store_uncorrupted uncorrupted⟩

theorem transaction_survives {inputs : RenewalInputs} {previous : Bytes}
    (leaf : inspectMaterial lib old = .ok previous) :
    Survives (fun d => Uncorrupted lib.toCertLibrary d.certs old ∧ IntentBegun previous d.web.records)
      (productionTransaction lib inputs)
      (fun d => IntentHolds lib old inputs.issued d.certs d.web.records)
      (fun stored d => IntentBegun previous d.web.records ∧
        (stored = true → ∃ material, inputs.issued = some material ∧
          Uncorrupted lib.toCertLibrary d.certs (newStored material)) ∧
        IntentHolds lib old inputs.issued d.certs d.web.records) := by
  unfold productionTransaction
  cases inputs.issued with
  | none =>
      apply Survives.pure
      rintro d ⟨uncorrupted, begun⟩
      have holds : IntentHolds lib old none d.certs d.web.records :=
        .begun begun leaf (.inl uncorrupted.effective)
      exact ⟨holds, begun, nofun, holds⟩
  | some material =>
      refine Survives.bind _ (store_survives leaf material).returns fun err => Survives.pure ?_
      rintro d ⟨holds, begun, stored⟩
      exact ⟨holds, begun, fun ok => ⟨material, rfl, stored (by simpa using ok)⟩, holds⟩

theorem target_survives {previous : Bytes} (leaf : inspectMaterial lib old = .ok previous)
    {material : CertMaterial} (known : issued = some material) :
    Survives (fun d => Uncorrupted lib.toCertLibrary d.certs (newStored material) ∧
        IntentBegun previous d.web.records)
      (do
        let replacement ← Committing.within Device.certs Device.setCerts
          (inspectStoredProductionCertificate lib)
        match replacement with
        | .error _ => return false
        | .ok replacement =>
            let err ← recordCall (tlsActivationIntentSetTarget replacement ⟨.ok, .stored⟩)
            return err == .ok)
      (fun d => IntentHolds lib old issued d.certs d.web.records)
      (fun _ d => IntentHolds lib old issued d.certs d.web.records) := by
  have here {d : Device} (force : effective lib.toCertLibrary d.certs = some (newStored material))
      (begun : IntentBegun previous d.web.records) :
      IntentHolds lib old issued d.certs d.web.records := .begun begun leaf (.inr ⟨material, known, force⟩)
  refine Survives.bind _ ((inspect_survives (newStored material) fun w => IntentBegun previous w.records).weaken
    (fun _ => id) (fun d ⟨force, begun⟩ => here force begun) fun _ _ => id) fun replacement => ?_
  cases replacement with
  | error err =>
      apply Survives.pure
      rintro d ⟨⟨uncorrupted, begun⟩, _⟩
      exact ⟨here uncorrupted.effective begun, here uncorrupted.effective begun⟩
  | ok replacement =>
      refine Survives.bind (fun _ d => IntentHolds lib old issued d.certs d.web.records)
        (recordCall_survives ?_) fun err => Survives.pure fun _ holds => ⟨holds, holds⟩
      rintro d ⟨⟨uncorrupted, begun⟩, inspected⟩
      have yielded := inspected replacement rfl
      have targeted := intentSetTarget_targeted (inspectMaterial_length yielded) begun
      have holds : IntentHolds lib old issued d.certs
          (tlsActivationIntentSetTarget replacement ⟨.ok, .stored⟩ d.web.records).2 :=
        .targeted targeted known yielded uncorrupted.effective
      exact ⟨here uncorrupted.effective begun, holds, holds⟩

theorem renewalExecute_survives (inputs : RenewalInputs) :
    Survives (fun d => Uncorrupted lib.toCertLibrary d.certs old ∧ IntentIdle d.web.records)
      (renewalExecute lib inputs) (fun d => IntentHolds lib old inputs.issued d.certs d.web.records)
      (fun _ d => IntentHolds lib old inputs.issued d.certs d.web.records) := by
  unfold renewalExecute
  refine Survives.bind _ ((inspect_survives old fun w => IntentIdle w.records).weaken (fun _ => id)
    (fun d ⟨_, idle⟩ => .idle idle) fun _ _ => id) fun inspection => ?_
  cases inspection with
  | error err =>
      apply Survives.pure
      rintro d ⟨⟨_, idle⟩, _⟩
      exact ⟨.idle idle, .idle idle⟩
  | ok previous =>
      refine Survives.given fun inspected => ?_
      have leaf := inspected previous rfl
      have idle {d : Device} (here : IntentIdle d.web.records) :
          IntentHolds lib old inputs.issued d.certs d.web.records := .idle here
      simp only
      split
      · exact Survives.pure fun d ⟨_, here⟩ => ⟨idle here, idle here⟩
      refine Survives.bind (fun _ d => Uncorrupted lib.toCertLibrary d.certs old ∧
        IntentBegun previous d.web.records) (recordCall_survives ?_) fun err => ?_
      · rintro d ⟨uncorrupted, here⟩
        have begun := intentBegin_begun (inspectMaterial_length leaf) inputs.now d.web.records
        exact ⟨idle here, .begun begun leaf (.inl uncorrupted.effective), uncorrupted, begun⟩
      split
      · refine Survives.pure fun d ⟨uncorrupted, begun⟩ => ?_
        have holds : IntentHolds lib old inputs.issued d.certs d.web.records :=
          .begun begun leaf (.inl uncorrupted.effective)
        exact ⟨holds, holds⟩
      refine Survives.bind _ (transaction_survives leaf) fun stored => ?_
      cases stored with
      | true =>
          refine (Survives.some fun material : CertMaterial =>
            Survives.given fun known : inputs.issued = some material =>
              target_survives leaf known).weaken ?_ (fun _ => id) fun _ _ => id
          rintro d ⟨begun, stored, _⟩
          obtain ⟨material, known, uncorrupted⟩ := stored rfl
          exact ⟨material, ⟨uncorrupted, begun⟩, known⟩
      | false =>
          refine Survives.bind (fun _ d => IntentIdle d.web.records) (recordCall_survives ?_)
            fun _ => Survives.pure fun _ here => ⟨idle here, idle here⟩
          rintro d ⟨_, _, holds⟩
          have cleared := intentClear_idle false d.web.records
          exact ⟨holds, .idle cleared, cleared⟩

def KeepsIntent (s t : TlsRecords) : Prop := t.intent = s.intent ∨ IntentIdle t

theorem KeepsIntent.holds {certs : CertNvs} {s t : TlsRecords} (keeps : KeepsIntent s t)
    (holds : IntentHolds lib old issued certs s) : IntentHolds lib old issued certs t := by
  obtain same | idle := keeps
  · have loaded : loadTlsActivationIntent .ok t = loadTlsActivationIntent .ok s := by
      simp [loadTlsActivationIntent, same]
    cases holds with
    | idle here => exact .idle (by rwa [IntentIdle, loaded])
    | begun here leaf force => exact .begun (by rwa [IntentBegun, loaded]) leaf force
    | targeted here known leaf force => exact .targeted (by rwa [IntentTargeted, loaded]) known leaf force
  · exact .idle idle

theorem KeepsIntent.trans {s t u : TlsRecords} (first : KeepsIntent s t) (second : KeepsIntent t u) :
    KeepsIntent s u := by
  obtain same | idle := second
  · obtain before | idle := first
    · exact .inl (same.trans before)
    · obtain ⟨record, loaded, here⟩ := idle
      refine .inr ⟨record, ?_, here⟩
      simpa [loadTlsActivationIntent, same] using loaded
  · exact .inr idle

theorem tlsHandoffFinish_intent (success : Bool) (now : Int) (nvs : RecordAnswers) (s : TlsRecords) :
    (tlsHandoffFinish success now nvs s).2.intent = s.intent :=
  (tlsHandoffFinish_keeps success now nvs s).1

theorem tlsHandoffBegin_intent (target : Bytes) (now : Int) (nvs : RecordAnswers) (s : TlsRecords) :
    (tlsHandoffBegin target now nvs s).2.intent = s.intent := by
  unfold tlsHandoffBegin
  split
  · rfl
  cases tlsHandoffRead nvs.read s with
  | error err => rfl
  | ok record =>
      dsimp only
      split
      · rfl
      split
      · rfl
      · exact (tlsHandoffWrite_keeps ..).1

theorem transitionRecorded_intent (success lkgRestored : Bool) (result : EspErr) (target : Bytes)
    (answers : TransitionAnswers) (w : WebTls) :
    (transitionRecorded success lkgRestored result target answers w).records.intent = w.records.intent := by
  simp only [transitionRecorded, tlsHandoffFinish_intent, tlsActivationOutcomeStore]
  split <;> rfl

theorem intentClear_keeps (bootReconciled : Bool) (write : StoreOutcome) (s : TlsRecords) :
    KeepsIntent s (tlsActivationIntentClear bootReconciled write s).2 := by
  have stored := intentClear_intent bootReconciled write s
  split at stored
  · exact .inr ⟨_, loadTlsActivationIntent_blob stored, rfl⟩
  · exact .inl stored

theorem activatedIntentCleared_keeps (answers : TransitionAnswers) (w : WebTls) :
    KeepsIntent w.records (activatedIntentCleared answers w).records := by
  unfold activatedIntentCleared
  cases loadTlsActivationIntent answers.intentRead w.records with
  | error err => exact .inl rfl
  | ok intent =>
      have keeps := intentClear_keeps false answers.intentClear w.records
      simp only
      split_ifs
      · exact keeps
      · exact keeps
      · exact .inl rfl

theorem transitionSucceeded_keeps (target : WebTlsSource) (automatic : Bool) (leaf : Bytes)
    (answers : TransitionAnswers) (w : WebTls) :
    KeepsIntent w.records (transitionSucceeded target automatic leaf answers w).records := by
  have cleared := activatedIntentCleared_keeps answers w
  unfold transitionSucceeded
  split_ifs
  · exact cleared.trans (.inl (transitionRecorded_intent ..))
  · exact cleared
  · exact .inl (transitionRecorded_intent ..)
  · exact .inl rfl

theorem tlsTransitionTask_keeps (target : WebTlsSource) (answers : TransitionAnswers) (w : WebTls) :
    KeepsIntent w.records (tlsTransitionTask target answers w).records := by
  obtain ⟨err, v, started, records, -⟩ := transitionStarted_cases target answers (transitionStopped w)
  have same : v.records = w.records := by
    rw [records]
    simp [transitionStopped]
  simp only [tlsTransitionTask, started]
  split
  · rw [← same]
    exact transitionSucceeded_keeps ..
  · obtain ⟨rollbackErr, t, rolled, kept, -⟩ := transitionRolledBack_cases answers w
      (formatted leafSha256Size w.activeServerLeafSha256) v
    left
    rw [← same, ← kept]
    simp only [transitionFailed, rolled]
    cases loadTlsActivationIntent answers.failedIntentRead _ with
    | error err => simp only; split <;> simp [transitionRecorded_intent]
    | ok intent => simp only; split_ifs <;> simp [transitionRecorded_intent, TlsRecords.publish]

theorem schedule_keeps (answers : ScheduleAnswers) (w : WebTls) :
    KeepsIntent w.records (tlsActivationSchedulePendingTarget answers w).2.records := by
  left
  unfold tlsActivationSchedulePendingTarget
  cases loadTlsActivationIntent answers.intentRead w.records with
  | error err => rfl
  | ok intent =>
      let kept (result : EspErr × WebTls) : Prop := result.2.records.intent = w.records.intent
      have begun := tlsHandoffBegin_intent intent.targetLeafSha256 answers.now answers.begin w.records
      dsimp only
      generalize tlsHandoffBegin intent.targetLeafSha256 answers.now answers.begin w.records = result
        at begun
      obtain ⟨beginErr, records⟩ := result
      -- the six refusals before the handoff begins
      iterate 6 refine iteInduction (motive := kept) (fun _ => rfl) fun _ => ?_
      refine iteInduction (motive := kept) (fun _ => begun) fun _ => ?_
      have unscheduled := (tlsHandoffFinish_intent false answers.now answers.finish records).trans begun
      refine iteInduction (motive := kept) (fun _ => unscheduled) fun _ => ?_
      exact iteInduction (motive := kept) (fun _ => unscheduled) fun _ => begun

theorem handoff_keeps (answers : HandoffAnswers) (w : WebTls) :
    KeepsIntent w.records (handoff answers w).records := by
  have scheduled := schedule_keeps answers.schedule w
  unfold handoff
  simp only
  split
  · exact scheduled.trans (tlsTransitionTask_keeps ..)
  · exact scheduled

theorem handoffs_keep (all : List HandoffAnswers) (w : WebTls) :
    KeepsIntent w.records (all.foldl (fun w answers => handoff answers w) w).records := by
  induction all generalizing w with
  | nil => exact .inl rfl
  | cons answers rest ih => exact (handoff_keeps answers w).trans (ih _)

theorem powerLost_holds {inputs : RenewalInputs} {d t : Device}
    (uncorrupted : Uncorrupted lib.toCertLibrary d.certs old) (idle : IntentIdle d.web.records)
    (lost : PowerLost lib inputs d t) : IntentHolds lib old inputs.issued t.certs t.web.records := by
  have survives := @renewalExecute_survives lib old inputs
  cases lost with
  | scheduler interrupted => exact survives.lost d ⟨uncorrupted, idle⟩ t interrupted
  | handoff earlier last writes _ executed =>
      subst executed
      have before := survives.after d ⟨uncorrupted, idle⟩
      exact ((handoffs_keep earlier _).trans (handoff_keeps (last.powered writes) _)).holds before

/-! ## The boot -/

theorem bootsProduction_runs {d : Device} {answers : ServerAnswers} {w : WebTls}
    (boots : BootsProduction lib d answers w) : w.source = .production ∧
      w.activeServerLeafSha256 =
        (if answers.inspect = .ok then formatted leafSha256Size answers.leafSha256 else []) ∧
      w.records.intent = d.web.records.intent := by
  have started := boots.started
  by_cases starts : Starts .production answers
  · obtain ⟨t, ran, _, active, records, source⟩ := startHttpsServer_starts starts d.web.rebooted
    rw [started] at ran
    cases ran
    exact ⟨source, active rfl, by simp [records, WebTls.rebooted]⟩
  · obtain ⟨err, failed, wrong⟩ := startHttpsServer_fails starts d.web.rebooted
    rw [started] at failed
    cases failed
    exact absurd rfl wrong

theorem bootsProduction_inspects {d : Device} {answers : ServerAnswers} {w : WebTls}
    (boots : BootsProduction lib d answers w) (answered : answers.inspect = .ok) :
    w.activeServerLeafSha256 = answers.leafSha256 ∧
      ∃ stored, effective lib.toCertLibrary d.certs = some stored ∧
        inspectMaterial lib stored = .ok answers.leafSha256 := by
  obtain ⟨stored, force, leaf⟩ := inspect_yields (boots.inspected answered)
  refine ⟨?_, stored, force, leaf⟩
  rw [(bootsProduction_runs boots).2.1, if_pos answered, formatted_leaf (inspectMaterial_length leaf)]

/-- What the boot makes of an intent: none is pending, and it is marked as resolved exactly where the
replacement is in force. -/
structure Reconciled (lib : InspectionLibrary) (issued : Option CertMaterial) (d : Device) (w : WebTls) :
    Prop where
  ok : (tlsActivationIntentLoadAndReconcile w.source w.activeServerLeafSha256 ⟨.ok, .stored⟩ w.records).1 =
    .ok
  marked : ∃ record, loadTlsActivationIntent .ok (tlsActivationIntentLoadAndReconcile w.source
      w.activeServerLeafSha256 ⟨.ok, .stored⟩ w.records).2 = .ok record ∧ record.pending = false ∧
    (IntentPending d.web.records → (record.bootReconciled = true ↔ Replaced lib issued d.certs))

theorem intentClear_reconciles {d : Device} {w : WebTls} (bootReconciled : Bool)
    (clears : tlsActivationIntentLoadAndReconcile w.source w.activeServerLeafSha256 ⟨.ok, .stored⟩
      w.records = tlsActivationIntentClear bootReconciled .stored w.records)
    (right : bootReconciled = true ↔ Replaced lib issued d.certs) : Reconciled lib issued d w := by
  constructor
  · rw [clears]
    rfl
  · rw [clears]
    exact ⟨_, loadTlsActivationIntent_blob (intentClear_intent bootReconciled .stored w.records), rfl,
      fun _ => right⟩

theorem reconciles {d : Device} {answers : ServerAnswers} {w : WebTls}
    (renewed : ∀ material leaf, issued = some material → inspectMaterial lib old = .ok leaf →
      inspectMaterial lib (newStored material) ≠ .ok leaf)
    (holds : IntentHolds lib old issued d.certs d.web.records) (boots : BootsProduction lib d answers w)
    (answered : answers.inspect = .ok) : Reconciled lib issued d w := by
  obtain ⟨source, -, same⟩ := bootsProduction_runs boots
  obtain ⟨active, stored, force, leaf⟩ := bootsProduction_inspects boots answered
  have loads : loadTlsActivationIntent .ok w.records = loadTlsActivationIntent .ok d.web.records := by
    simp [loadTlsActivationIntent, same]
  have known : answers.leafSha256 ≠ [] := inspectMaterial_ne_nil leaf
  cases holds with
  | idle idle =>
      obtain ⟨record, loaded, idle⟩ := idle
      have left : tlsActivationIntentLoadAndReconcile w.source w.activeServerLeafSha256 ⟨.ok, .stored⟩
          w.records = (.ok, w.records.publish (.intent record
            (if record.bootReconciled then "resolved_on_boot" else "none"))) := by
        simp [tlsActivationIntentLoadAndReconcile, loads, loaded, idle]
      constructor
      · rw [left]
      · rw [left]
        refine ⟨record, loads.trans loaded, idle, ?_⟩
        rintro ⟨other, same, pending⟩
        rw [loaded] at same
        cases same
        simp [idle] at pending
  | @begun previous begun oldLeaf force' =>
      obtain ⟨record, loaded, pending, rfl, target⟩ := begun
      have previous : record.previousLeafSha256 ≠ [] := inspectMaterial_ne_nil oldLeaf
      by_cases replaced : Replaced lib issued d.certs
      · -- the new certificate runs, and its leaf is not the previous one
        have differs : record.previousLeafSha256 ≠ answers.leafSha256 := by
          obtain ⟨material, issued, runs⟩ := replaced
          rw [force, Option.some.injEq] at runs
          intro same
          exact renewed material _ issued oldLeaf (by rw [← runs, leaf, same])
        refine intentClear_reconciles true ?_ (by simpa using replaced)
        simp [tlsActivationIntentLoadAndReconcile, loads, loaded, pending, target, source, active, known,
          previous, differs]
      · rw [force, Option.some.injEq] at force'
        obtain rfl := force'.resolve_right replaced
        have same : record.previousLeafSha256 = answers.leafSha256 := by
          rw [oldLeaf] at leaf
          exact Except.ok.inj leaf
        refine intentClear_reconciles false ?_ (by simpa using replaced)
        simp [tlsActivationIntentLoadAndReconcile, loads, loaded, pending, target, source, active, known,
          same]
  | @targeted material target targeted known' newLeaf force' =>
      obtain ⟨record, loaded, pending, rfl⟩ := targeted
      have runs := force'
      rw [force, Option.some.injEq] at runs
      have same : record.targetLeafSha256 = answers.leafSha256 := by
        rw [← runs, leaf] at newLeaf
        exact (Except.ok.inj newLeaf).symm
      refine intentClear_reconciles true ?_ (by simpa using ⟨material, known', force'⟩)
      simp [tlsActivationIntentLoadAndReconcile, loads, loaded, pending, source, active, known, same]

/-- Where nothing is known of the leaf that runs, the boot leaves the intent in NVS as it is. -/
structure Unsettled (d : Device) (w : WebTls) : Prop where
  ok : (tlsActivationIntentLoadAndReconcile w.source w.activeServerLeafSha256 ⟨.ok, .stored⟩ w.records).1 =
    .ok
  kept : (tlsActivationIntentLoadAndReconcile w.source w.activeServerLeafSha256 ⟨.ok, .stored⟩
    w.records).2.intent = d.web.records.intent

theorem IntentHolds.loads {certs : CertNvs} {s : TlsRecords}
    (holds : IntentHolds lib old issued certs s) : ∃ record, loadTlsActivationIntent .ok s = .ok record := by
  cases holds with
  | idle idle => exact idle.imp fun _ here => here.1
  | begun begun => exact begun.imp fun _ here => here.1
  | targeted targeted => exact targeted.imp fun _ here => here.1

theorem leaves_intent {d : Device} {answers : ServerAnswers} {w : WebTls}
    (holds : IntentHolds lib old issued d.certs d.web.records) (boots : BootsProduction lib d answers w)
    (failed : answers.inspect ≠ .ok) : Unsettled d w := by
  obtain ⟨-, unknown, same⟩ := bootsProduction_runs boots
  rw [if_neg failed] at unknown
  obtain ⟨record, loaded⟩ := holds.loads
  have loads : loadTlsActivationIntent .ok w.records = .ok record := by
    rw [← loaded]
    simp [loadTlsActivationIntent, same]
  by_cases pending : record.pending = true
  · constructor <;> simp [tlsActivationIntentLoadAndReconcile, loads, pending, unknown,
      TlsRecords.publish, same]
  · constructor <;> simp [tlsActivationIntentLoadAndReconcile, loads, pending, TlsRecords.publish, same]

/-- Wherever the power is lost in a renewal, a boot that starts production settles the intent if it
can inspect the certificate, and otherwise leaves it. -/
theorem intent_settled_after_power_loss {inputs : RenewalInputs} {d t : Device} {answers : ServerAnswers}
    {w : WebTls} (uncorrupted : Uncorrupted lib.toCertLibrary d.certs old)
    (idle : IntentIdle d.web.records)
    (renewed : ∀ material leaf, inputs.issued = some material → inspectMaterial lib old = .ok leaf →
      inspectMaterial lib (newStored material) ≠ .ok leaf)
    (lost : PowerLost lib inputs d t) (boots : BootsProduction lib t answers w) :
    (answers.inspect = .ok → Reconciled lib inputs.issued t w) ∧
      (answers.inspect ≠ .ok → Unsettled t w) := by
  have holds := powerLost_holds uncorrupted idle lost
  exact ⟨reconciles renewed holds boots, leaves_intent holds boots⟩

def plainInspection : InspectionLibrary where
  toCertLibrary := plainLibrary
  parseUnterminated _ := none
  sha256 der := List.replicate 32 (der.foldl (fun sum byte => sum + byte) 0)
  sha256_length _ := List.length_replicate

def plainLeaf (key serial : UInt8) : Bytes :=
  fingerprintHex (plainInspection.sha256 (plainPem (plainKey key) serial))

theorem plainLeaf_inspected :
    inspectMaterial plainInspection (newStored (plainMaterial 1 1)) = .ok (plainLeaf 1 1) ∧
      inspectMaterial plainInspection (newStored (plainMaterial 2 2)) = .ok (plainLeaf 2 2) := by
  decide +kernel

def beforeRenewal : Device where
  certs := ⟨⟨none, none, none⟩, newStored (plainMaterial 1 1), ⟨none, none, none⟩, some 0⟩
  web := { renewalPending with
    activeServerLeafSha256 := plainLeaf 1 1
    transitionPending := false
    transitionAutomatic := false
    records := ⟨none, none, none, .zero⟩ }

def renewalOfSlotA : RenewalInputs := ⟨1700000000, true, some (plainMaterial 2 2)⟩

def selectorCommitted : Device :=
  commitAll ((renewalExecute plainInspection renewalOfSlotA beforeRenewal).2.take 3) beforeRenewal

def renewedBoot : ServerAnswers := ⟨.ok, ⟨[2], [2]⟩, .ok, .ok, .ok, plainLeaf 2 2⟩

theorem beforeRenewal_uncorrupted :
    Uncorrupted plainLibrary beforeRenewal.certs (newStored (plainMaterial 1 1)) :=
  ⟨by decide +kernel, .inl ⟨.a, rfl, rfl⟩⟩

theorem renewalOfSlotA_renews (material : CertMaterial) (leaf : Bytes)
    (known : renewalOfSlotA.issued = some material)
    (inspected : inspectMaterial plainInspection (newStored (plainMaterial 1 1)) = .ok leaf) :
    inspectMaterial plainInspection (newStored material) ≠ .ok leaf := by
  cases known
  rw [plainLeaf_inspected.1] at inspected
  cases inspected
  rw [plainLeaf_inspected.2]
  decide +kernel

theorem selectorCommitted_lost : PowerLost plainInspection renewalOfSlotA beforeRenewal selectorCommitted :=
  .scheduler (interrupted_take 3 _ _)

theorem selectorCommitted_settled :
    Reconciled plainInspection (some (plainMaterial 2 2)) selectorCommitted
      (startHttpsServer .production renewedBoot selectorCommitted.web.rebooted).2 := by
  have boots : BootsProduction plainInspection selectorCommitted renewedBoot
      (startHttpsServer .production renewedBoot selectorCommitted.web.rebooted).2 :=
    ⟨rfl, fun _ => by decide +kernel⟩
  exact (intent_settled_after_power_loss beforeRenewal_uncorrupted ⟨_, rfl, rfl⟩ renewalOfSlotA_renews
    selectorCommitted_lost boots).1 rfl

def uninspectedBoot : ServerAnswers := { renewedBoot with inspect := .noMem }

def uninspectedConsole : WebTls :=
  (startHttpsServer .production uninspectedBoot selectorCommitted.web.rebooted).2

theorem uninspectedConsole_pending : (loadTlsActivationIntent .ok (tlsActivationIntentLoadAndReconcile
    uninspectedConsole.source uninspectedConsole.activeServerLeafSha256 ⟨.ok, .stored⟩
      uninspectedConsole.records).2).map (·.pending) = .ok true := by
  decide +kernel

theorem uninspected_boot_leaves_intent : ¬∀ (lib : InspectionLibrary) (old : StoredMaterial)
    (inputs : RenewalInputs) (d t : Device) (answers : ServerAnswers) (w : WebTls),
    Uncorrupted lib.toCertLibrary d.certs old → IntentIdle d.web.records →
    (∀ material leaf, inputs.issued = some material → inspectMaterial lib old = .ok leaf →
      inspectMaterial lib (newStored material) ≠ .ok leaf) →
    PowerLost lib inputs d t → BootsProduction lib t answers w → Reconciled lib inputs.issued t w := by
  intro claim
  have boots : BootsProduction plainInspection selectorCommitted uninspectedBoot uninspectedConsole :=
    ⟨rfl, fun answered => by cases answered⟩
  obtain ⟨record, loaded, settled, -⟩ := (claim _ _ _ _ _ _ _ beforeRenewal_uncorrupted ⟨_, rfl, rfl⟩
    renewalOfSlotA_renews selectorCommitted_lost boots).marked
  have pending := uninspectedConsole_pending
  rw [loaded] at pending
  simp [Except.map, settled] at pending

end NtsTimeServer.Proof
