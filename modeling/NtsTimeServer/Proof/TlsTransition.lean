import NtsTimeServer.Model.TlsTransition

/-!
# What the TLS transition task ends with and records

The task ends on the target, on the previous credential, on the embedded one or without a server. Its outcome
record says success whenever the target runs, whichever leaf that is, and it says that the last-known-good
credential is restored whenever the last start worked, the emergency start with the embedded one included.
-/

namespace NtsTimeServer.Proof
open Model Lib

def targetCredential (target : WebTlsSource) (answers : TransitionAnswers) : ServerCredential :=
  if target = .embedded then .embedded else .stored answers.start.credentials

/-- What the console has for a server with the credential before the transition. -/
def previousCredential (w : WebTls) : Option ServerCredential :=
  if w.source = .embedded then some .embedded else w.activeStoredCredentials.map .stored

/-- The preference that goes with the target; a stored test credential has none. -/
def PreferenceStored (target : WebTlsSource) (t : WebTls) : Prop :=
  match target with
  | .production => t.bootSelected = some 1
  | .embedded => t.bootSelected = some 0
  | .storedTest => True

def intendedTarget (w : WebTls) : Bytes := automaticTargetLeafSha256 true .ok w.records

structure Recording (target : WebTlsSource) (answers : TransitionAnswers) (w : WebTls) : Prop where
  automatic : w.transitionAutomatic = true
  target : target = .production
  durable : answers.outcome.durable = true

structure TruthfulTransition (target : WebTlsSource) (answers : TransitionAnswers) (w t : WebTls) :
    Prop where
  ends : (t.server = some (targetCredential target answers) ∧ PreferenceStored target t) ∨
    (t.server = previousCredential w ∧ t.server.isSome) ∨ t.server = some .embedded ∨ t.server = none
  success : Recording target answers w → ∀ record : TlsOutcomeRecord,
    t.records.outcome = some record.blob → record.success = true →
      t.activeServerLeafSha256 = intendedTarget w
  restored : Recording target answers w → ∀ record : TlsOutcomeRecord,
    t.records.outcome = some record.blob → record.lkgRestored = true → t.server = previousCredential w

structure Activates (answers : TransitionAnswers) : Prop where
  load : answers.start.load = .ok
  launch : answers.start.launch = .ok
  checks : answers.preference.checks = .ok
  write : answers.preference.write = .stored

def inspectedLeaf (answers : TransitionAnswers) : Bytes :=
  if answers.start.inspect = .ok then formatted leafSha256Size answers.start.leafSha256 else []

def ActivatesOther (answers : TransitionAnswers) (w : WebTls) : Prop :=
  Activates answers ∧ inspectedLeaf answers ≠ intendedTarget w

/-- The previous credential, not the embedded one, cannot be restored, and the emergency start works. -/
structure FallsBack (answers : TransitionAnswers) (w : WebTls) : Prop where
  failed : ¬Activates answers
  previous : w.source ≠ .embedded
  restore : ¬(w.activeStoredCredentials.isSome ∧ answers.restore.launch = .ok)
  fallback : answers.fallback.launch = .ok

section
variable {answers : ServerAnswers} {w : WebTls}

def Starts (source : WebTlsSource) (answers : ServerAnswers) : Prop :=
  (source = .embedded ∨ answers.load = .ok) ∧ answers.launch = .ok

theorem startHttpsServer_starts {source : WebTlsSource} (starts : Starts source answers) (w : WebTls) :
    ∃ t, startHttpsServer source answers w = (.ok, t) ∧
      t.server = some (if source = .embedded then .embedded else .stored answers.credentials) ∧
      (source = .production → t.activeServerLeafSha256 =
        if answers.inspect = .ok then formatted leafSha256Size answers.leafSha256 else []) ∧
      t.records = w.records ∧ t.source = source := by
  obtain ⟨load, launch⟩ := starts
  refine ⟨(startHttpsServer source answers w).2, Prod.ext ?_ rfl, ?_⟩ <;> cases source <;>
    simp_all [startHttpsServer]

theorem startHttpsServer_fails {source : WebTlsSource} (fails : ¬Starts source answers) (w : WebTls) :
    ∃ err, startHttpsServer source answers w = (err, w) ∧ err ≠ .ok := by
  by_cases load : source = .embedded ∨ answers.load = .ok
  · have launch : answers.launch ≠ .ok := fun launch => fails ⟨load, launch⟩
    refine ⟨answers.launch, ?_, launch⟩
    cases source <;> simp_all [startHttpsServer]
  · obtain ⟨stored, failed⟩ := not_or.mp load
    refine ⟨answers.load, ?_, failed⟩
    cases source <;> simp_all [startHttpsServer]

theorem restore_starts {source : WebTlsSource} {credentials : Option TlsCredentials}
    {credential : ServerCredential} (launch : answers.launch = .ok)
    (previous : (if source = .embedded then some .embedded else credentials.map .stored) =
      some credential) (leaf : Bytes) (w : WebTls) :
    ∃ t, startHttpsServerWithCredentials source credentials leaf answers w = (.ok, t) ∧
      t.server = some credential ∧ t.records = w.records := by
  unfold startHttpsServerWithCredentials
  split
  · rename_i embedded
    simp only [embedded, if_true, Option.some.injEq] at previous
    have starts : Starts .embedded answers := ⟨.inl rfl, launch⟩
    obtain ⟨t, started, server, _, records, _⟩ := startHttpsServer_starts starts w
    exact ⟨t, started, by simpa [← previous] using server, records⟩
  · rename_i stored
    cases credentials with
    | none => simp [stored] at previous
    | some credentials =>
        simp only [stored, if_false, Option.map_some, Option.some.injEq] at previous
        simp [launch, previous]

theorem restore_fails {source : WebTlsSource} {credentials : Option TlsCredentials}
    (fails : ¬((source = .embedded ∨ credentials.isSome) ∧ answers.launch = .ok)) (leaf : Bytes)
    (w : WebTls) :
    ∃ err, startHttpsServerWithCredentials source credentials leaf answers w = (err, w) ∧ err ≠ .ok := by
  unfold startHttpsServerWithCredentials
  split
  · rename_i embedded
    have stays : ¬Starts .embedded answers := fun starts => fails ⟨.inl embedded, starts.2⟩
    exact startHttpsServer_fails stays w
  · cases credentials with
    | none => exact ⟨_, rfl, nofun⟩
    | some credentials =>
        have launch : answers.launch ≠ .ok := fun launch => fails ⟨.inr rfl, launch⟩
        exact ⟨answers.launch, by simp [launch], launch⟩

end

@[simp] theorem setProductionBootSelected_server (selected : Bool) (answers : PreferenceAnswers)
    (w : WebTls) : (setProductionBootSelected selected answers w).2.server = w.server := by
  unfold setProductionBootSelected
  split <;> rfl

@[simp] theorem setProductionBootSelected_records (selected : Bool) (answers : PreferenceAnswers)
    (w : WebTls) : (setProductionBootSelected selected answers w).2.records = w.records := by
  unfold setProductionBootSelected
  split <;> rfl

@[simp] theorem setProductionBootSelected_leaf (selected : Bool) (answers : PreferenceAnswers)
    (w : WebTls) : (setProductionBootSelected selected answers w).2.activeServerLeafSha256 =
      w.activeServerLeafSha256 := by
  unfold setProductionBootSelected
  split <;> rfl

theorem setProductionBootSelected_ok_iff {selected : Bool} {answers : PreferenceAnswers} {w : WebTls} :
    (setProductionBootSelected selected answers w).1 = .ok ↔
      answers.checks = .ok ∧ answers.write = .stored := by
  unfold setProductionBootSelected
  by_cases checks : answers.checks = .ok
  · cases answers.write <;> simp [checks, StoreOutcome.err]
  · simp [checks]

theorem setProductionBootSelected_stored {selected : Bool} {answers : PreferenceAnswers} {w : WebTls}
    (ok : (setProductionBootSelected selected answers w).1 = .ok) :
    (setProductionBootSelected selected answers w).2.bootSelected = some (if selected then 1 else 0) := by
  obtain ⟨checks, write⟩ := setProductionBootSelected_ok_iff.mp ok
  simp [setProductionBootSelected, checks, write, StoreOutcome.durable]

@[simp] theorem stopServer_server (w : WebTls) : (stopServer w).server = none := by
  unfold stopServer
  cases server : w.server <;> simp [server]

@[simp] theorem stopServer_records (w : WebTls) : (stopServer w).records = w.records := by
  unfold stopServer
  split <;> rfl

theorem tlsHandoffWrite_keeps (record : TlsHandoffRecord) (write : StoreOutcome) (s : TlsRecords) :
    (tlsHandoffWrite record write s).2.intent = s.intent ∧
      (tlsHandoffWrite record write s).2.outcome = s.outcome := by
  unfold tlsHandoffWrite
  simp only
  split <;> exact ⟨rfl, rfl⟩

theorem tlsHandoffFinish_keeps (success : Bool) (now : Int) (nvs : RecordAnswers) (s : TlsRecords) :
    (tlsHandoffFinish success now nvs s).2.intent = s.intent ∧
      (tlsHandoffFinish success now nvs s).2.outcome = s.outcome := by
  unfold tlsHandoffFinish
  cases tlsHandoffRead nvs.read s with
  | error err => exact ⟨rfl, rfl⟩
  | ok record => exact tlsHandoffWrite_keeps ..

@[simp] theorem tlsHandoffFinish_outcome (success : Bool) (now : Int) (nvs : RecordAnswers)
    (s : TlsRecords) : (tlsHandoffFinish success now nvs s).2.outcome = s.outcome :=
  (tlsHandoffFinish_keeps success now nvs s).2

section
variable {success lkgRestored : Bool} {result : EspErr} {leaf : Bytes} {answers : TransitionAnswers}
  {w : WebTls}

theorem transitionRecorded_outcome (success lkgRestored : Bool) (result : EspErr) (leaf : Bytes)
    (w : WebTls) (durable : answers.outcome.durable = true) :
    ∃ record : TlsOutcomeRecord,
      (transitionRecorded success lkgRestored result leaf answers w).records.outcome = some record.blob ∧
        record.success = success ∧ record.lkgRestored = lkgRestored := by
  unfold transitionRecorded
  simp only [tlsHandoffFinish_outcome, tlsActivationOutcomeStore, durable, if_true]
  split <;> exact ⟨_, rfl, rfl, rfl⟩

structure SameServer (w t : WebTls) : Prop where
  server : t.server = w.server
  leaf : t.activeServerLeafSha256 = w.activeServerLeafSha256
  bootSelected : t.bootSelected = w.bootSelected

theorem activatedIntentCleared_same (answers : TransitionAnswers) (w : WebTls) :
    SameServer w (activatedIntentCleared answers w) := by
  unfold activatedIntentCleared
  cases loadTlsActivationIntent answers.intentRead w.records with
  | error err => exact ⟨rfl, rfl, rfl⟩
  | ok intent =>
      simp only
      split <;> exact ⟨rfl, rfl, rfl⟩

theorem transitionSucceeded_same {target : WebTlsSource} {automatic : Bool} :
    SameServer w (transitionSucceeded target automatic leaf answers w) := by
  unfold transitionSucceeded
  have cleared := activatedIntentCleared_same answers w
  split_ifs
  · exact ⟨cleared.server, cleared.leaf, cleared.bootSelected⟩
  · exact cleared
  · exact ⟨rfl, rfl, rfl⟩
  · exact ⟨rfl, rfl, rfl⟩

theorem transitionSucceeded_outcome (durable : answers.outcome.durable = true) :
    ∃ record : TlsOutcomeRecord,
      (transitionSucceeded .production true leaf answers w).records.outcome = some record.blob ∧
        record.success = true ∧ record.lkgRestored = false := by
  simp only [transitionSucceeded, and_self, if_true]
  exact transitionRecorded_outcome true false .ok leaf _ durable

end

/-! ## The two halves of the task -/

section
variable {target : WebTlsSource} {answers : TransitionAnswers} {w : WebTls}

theorem transitionStarted_cases (target : WebTlsSource) (answers : TransitionAnswers) (w : WebTls) :
    ∃ err t, transitionStarted target answers w = (err, t) ∧ t.records = w.records ∧
      (err = .ok → t.server = some (targetCredential target answers) ∧ PreferenceStored target t) ∧
      (target = .production → (err = .ok ↔ Activates answers) ∧
        (err = .ok → t.activeServerLeafSha256 = inspectedLeaf answers)) := by
  unfold transitionStarted
  by_cases starts : Starts target answers.start
  · obtain ⟨t, started, server, leaf, records, _⟩ := startHttpsServer_starts starts w
    simp only [started, ne_eq, not_true_eq_false, if_false]
    cases target with
    | embedded =>
        refine ⟨(setProductionBootSelected false answers.preference t).1,
          (setProductionBootSelected false answers.preference t).2, rfl, by simp [records], fun ok => ⟨by simp [server, targetCredential], ?_⟩, nofun⟩
        exact setProductionBootSelected_stored ok
    | storedTest =>
        exact ⟨_, _, rfl, records, fun _ => ⟨by simp [server, targetCredential], trivial⟩, nofun⟩
    | production =>
        refine ⟨(setProductionBootSelected true answers.preference t).1,
          (setProductionBootSelected true answers.preference t).2, rfl, by simp [records], fun ok => ⟨by simp [server, targetCredential], ?_⟩, fun _ => ⟨?_, fun _ => ?_⟩⟩
        · exact setProductionBootSelected_stored ok
        · rw [setProductionBootSelected_ok_iff]
          constructor
          · rintro ⟨checks, write⟩
            exact ⟨starts.1.resolve_left nofun, starts.2, checks, write⟩
          · rintro ⟨_, _, checks, write⟩
            exact ⟨checks, write⟩
        · simp [leaf, inspectedLeaf]
  · obtain ⟨err, failed, wrong⟩ := startHttpsServer_fails starts w
    simp only [failed, ne_eq, wrong, not_false_eq_true, if_true]
    refine ⟨err, w, rfl, rfl, fun ok => absurd ok wrong, fun production =>
      ⟨⟨fun ok => absurd ok wrong, ?_⟩, fun ok => absurd ok wrong⟩⟩
    rintro ⟨load, launch, _, _⟩
    exact absurd ⟨.inr load, launch⟩ starts

def RestoresPrevious (answers : TransitionAnswers) (w : WebTls) : Prop :=
  (w.source = .embedded ∨ w.activeStoredCredentials.isSome) ∧ answers.restore.launch = .ok

theorem previousCredential_of (known : w.source = .embedded ∨ w.activeStoredCredentials.isSome) :
    ∃ credential, previousCredential w = some credential := by
  unfold previousCredential
  split
  · exact ⟨_, rfl⟩
  · rename_i stored
    obtain ⟨credentials, found⟩ := Option.isSome_iff_exists.mp (known.resolve_left stored)
    exact ⟨.stored credentials, by simp [found]⟩

theorem transitionRolledBack_cases (answers : TransitionAnswers) (w : WebTls) (leaf : Bytes) (v : WebTls) :
    ∃ err t, transitionRolledBack w.source (if w.source = .embedded then none else w.activeStoredCredentials)
        leaf answers v = (err, t) ∧ t.records = v.records ∧
      ((RestoresPrevious answers w ∧ err = .ok ∧ t.server = previousCredential w ∧ t.server.isSome) ∨
        (¬RestoresPrevious answers w ∧ answers.fallback.launch = .ok ∧ err = .ok ∧ t.server = some .embedded) ∨
        (¬RestoresPrevious answers w ∧ answers.fallback.launch ≠ .ok ∧ err ≠ .ok ∧ t.server = none)) := by
  -- `start_https_server_with_credentials` starts the embedded credential as `start_https_server` does
  have same (u : WebTls) : (if w.source = .embedded then startHttpsServer .embedded answers.restore u
      else startHttpsServerWithCredentials w.source
        (if w.source = .embedded then none else w.activeStoredCredentials) leaf answers.restore u) =
      startHttpsServerWithCredentials w.source w.activeStoredCredentials leaf answers.restore u := by
    by_cases embedded : w.source = .embedded <;> simp [startHttpsServerWithCredentials, embedded]
  simp only [transitionRolledBack, same]
  generalize stopped : ({ stopServer v with
    activeStoredCredentials := _, activeServerLeafSha256 := [] } : WebTls) = u
  have records : u.records = v.records := by simp [← stopped]
  have server : u.server = none := by simp [← stopped]
  by_cases restores : RestoresPrevious answers w
  · obtain ⟨credential, previous⟩ := previousCredential_of restores.1
    obtain ⟨t, started, running, kept⟩ := restore_starts restores.2 previous leaf u
    simp only [started, if_true]
    refine ⟨_, _, rfl, by simp [kept, records], .inl ⟨restores, rfl, ?_, ?_⟩⟩ <;>
      simp [running, previous]
  · obtain ⟨err, failed, wrong⟩ := restore_fails restores leaf u
    simp only [failed, if_neg wrong]
    by_cases launch : answers.fallback.launch = .ok
    · have starts : Starts .embedded answers.fallback := ⟨.inl rfl, launch⟩
      obtain ⟨t, started, running, _, kept, _⟩ := startHttpsServer_starts starts
        (setProductionBootSelected false answers.fallbackPreference u).2
      refine ⟨_, _, started, by simp [kept, records], .inr (.inl ⟨restores, launch, rfl, ?_⟩)⟩
      simpa using running
    · have stays : ¬Starts .embedded answers.fallback := fun starts => launch starts.2
      obtain ⟨err, failed, wrong⟩ := startHttpsServer_fails stays
        (setProductionBootSelected false answers.fallbackPreference u).2
      refine ⟨_, _, failed, by simp [records], .inr (.inr ⟨restores, launch, wrong, ?_⟩)⟩
      simp [server]

def Reports (t : WebTls) (success lkgRestored : Bool) : Prop :=
  ∃ record : TlsOutcomeRecord, t.records.outcome = some record.blob ∧ record.success = success ∧
    record.lkgRestored = lkgRestored

theorem Reports.eq {t : WebTls} {success lkgRestored : Bool} (told : Reports t success lkgRestored)
    {record : TlsOutcomeRecord} (stored : t.records.outcome = some record.blob) :
    record.success = success ∧ record.lkgRestored = lkgRestored := by
  obtain ⟨other, same, rfl, rfl⟩ := told
  rw [stored, Option.some.injEq] at same
  have found : record = other := congrArg TlsBlob.record same
  exact ⟨by rw [found], by rw [found]⟩

theorem transitionFailed_cases (target : WebTlsSource) (answers : TransitionAnswers) (w : WebTls)
    (err : EspErr) (leaf targetLeaf : Bytes) (v : WebTls) :
    ∃ rollbackErr t, transitionRolledBack w.source
        (if w.source = .embedded then none else w.activeStoredCredentials) leaf answers v =
          (rollbackErr, t) ∧
      (transitionFailed target w.transitionAutomatic targetLeaf err w.source
        (if w.source = .embedded then none else w.activeStoredCredentials) leaf answers v).server =
          t.server ∧
      (Recording target answers w →
        Reports (transitionFailed target w.transitionAutomatic targetLeaf err w.source
          (if w.source = .embedded then none else w.activeStoredCredentials) leaf answers v) false
          (rollbackErr == .ok)) := by
  obtain ⟨rollbackErr, t, rolled, -⟩ := transitionRolledBack_cases answers w leaf v
  refine ⟨rollbackErr, t, rolled, ?_, ?_⟩
  · simp only [transitionFailed, rolled]
    cases loadTlsActivationIntent answers.failedIntentRead _ with
    | error err => simp only; split <;> rfl
    | ok intent => simp only; split_ifs <;> rfl
  · rintro ⟨automatic, rfl, durable⟩
    simp only [transitionFailed, rolled, automatic, and_self, if_true]
    have recorded := transitionRecorded_outcome false (rollbackErr == .ok) err targetLeaf t durable
    cases loadTlsActivationIntent answers.failedIntentRead _ with
    | error err => exact recorded
    | ok intent =>
        simp only
        split
        · exact recorded
        · exact recorded

theorem fallsBack_iff (failed : ¬Activates answers) : FallsBack answers w ↔
    ¬RestoresPrevious answers w ∧ answers.fallback.launch = .ok ∧ w.source ≠ .embedded := by
  constructor
  · rintro ⟨_, previous, restore, fallback⟩
    refine ⟨?_, fallback, previous⟩
    rintro ⟨known, launch⟩
    exact restore ⟨known.resolve_left previous, launch⟩
  · rintro ⟨restores, fallback, previous⟩
    exact ⟨failed, previous, fun ⟨known, launch⟩ => restores ⟨.inr known, launch⟩, fallback⟩

theorem embedded_previous_iff : some ServerCredential.embedded = previousCredential w ↔
    w.source = .embedded := by
  unfold previousCredential
  split
  · simpa
  · rename_i stored
    cases w.activeStoredCredentials <;> simpa using stored

theorem activated_iff (ok : (transitionStarted target answers (transitionStopped w)).1 = .ok) :
    TruthfulTransition target answers w (tlsTransitionTask target answers w) ↔
      (Recording target answers w → ¬ActivatesOther answers w ∧ ¬FallsBack answers w) := by
  obtain ⟨err, v, started, -, good, production⟩ :=
    transitionStarted_cases target answers (transitionStopped w)
  rw [started] at ok
  cases ok
  obtain ⟨server, preference⟩ := good rfl
  simp only [tlsTransitionTask, started, if_true]
  generalize automaticTargetLeafSha256 _ _ _ = targetLeaf
  have same : SameServer v (transitionSucceeded target w.transitionAutomatic targetLeaf answers v) :=
    transitionSucceeded_same
  have ends : PreferenceStored target
      (transitionSucceeded target w.transitionAutomatic targetLeaf answers v) := by
    unfold PreferenceStored at preference ⊢
    rwa [same.bootSelected]
  have told : Recording target answers w →
      Reports (transitionSucceeded target w.transitionAutomatic targetLeaf answers v) true false := by
    rintro ⟨automatic, rfl, durable⟩
    rw [automatic]
    exact transitionSucceeded_outcome durable
  constructor
  · rintro ⟨_, success, _⟩ recording
    obtain ⟨activated, leaf⟩ := production recording.target
    refine ⟨fun ⟨_, other⟩ => other ?_, fun falls => falls.failed (activated.mp rfl)⟩
    obtain ⟨record, stored, succeeded, -⟩ := told recording
    rw [← leaf rfl, ← same.leaf]
    exact success recording record stored succeeded
  · intro condition
    refine ⟨.inl ⟨same.server.trans server, ends⟩, ?_, ?_⟩
    · intro recording record _ _
      obtain ⟨activated, leaf⟩ := production recording.target
      have intended : inspectedLeaf answers = intendedTarget w := by
        by_contra other
        exact (condition recording).1 ⟨activated.mp rfl, other⟩
      exact same.leaf.trans ((leaf rfl).trans intended)
    · intro recording record stored restored
      rw [((told recording).eq stored).2] at restored
      cases restored

theorem failed_iff (failed : (transitionStarted target answers (transitionStopped w)).1 ≠ .ok) :
    TruthfulTransition target answers w (tlsTransitionTask target answers w) ↔
      (Recording target answers w → ¬ActivatesOther answers w ∧ ¬FallsBack answers w) := by
  obtain ⟨err, v, started, -, -, production⟩ :=
    transitionStarted_cases target answers (transitionStopped w)
  rw [started] at failed
  simp only [tlsTransitionTask, started, if_neg failed]
  generalize automaticTargetLeafSha256 _ _ _ = targetLeaf
  obtain ⟨rollbackErr, t, rolled, server, told⟩ := transitionFailed_cases target answers
    w err (formatted leafSha256Size w.activeServerLeafSha256) targetLeaf v
  obtain ⟨_, _, rolled', -, ends⟩ := transitionRolledBack_cases answers w
    (formatted leafSha256Size w.activeServerLeafSha256) v
  rw [rolled] at rolled'
  cases rolled'
  have inactive (recording : Recording target answers w) : ¬Activates answers :=
    fun activates => failed ((production recording.target).1.mpr activates)
  constructor
  · rintro ⟨_, _, restored⟩ recording
    refine ⟨fun other => inactive recording other.1, fun falls => ?_⟩
    obtain ⟨restores, launch, previous⟩ := (fallsBack_iff (inactive recording)).mp falls
    obtain ⟨holds, _⟩ | ⟨_, _, rfl, embedded⟩ | ⟨_, fails, _⟩ := ends
    · exact restores holds
    · obtain ⟨record, stored, -, lkgRestored⟩ := told recording
      have running := restored recording record stored lkgRestored
      rw [server, embedded] at running
      exact previous (embedded_previous_iff.mp running)
    · exact fails launch
  · intro condition
    refine ⟨?_, ?_, ?_⟩
    · simp only [server]
      obtain ⟨_, _, running, some⟩ | ⟨_, _, _, embedded⟩ | ⟨_, _, _, stopped⟩ := ends
      · exact .inr (.inl ⟨running, some⟩)
      · exact .inr (.inr (.inl embedded))
      · exact .inr (.inr (.inr stopped))
    · intro recording record stored success
      rw [((told recording).eq stored).1] at success
      cases success
    · intro recording record stored lkgRestored
      rw [((told recording).eq stored).2] at lkgRestored
      simp only [server]
      obtain ⟨_, _, running, _⟩ | ⟨restores, launch, _, embedded⟩ | ⟨_, _, wrong, _⟩ := ends
      · exact running
      · rw [embedded]
        apply embedded_previous_iff.mpr
        by_contra previous
        exact (condition recording).2
          ((fallsBack_iff (inactive recording)).mpr ⟨restores, launch, previous⟩)
      · simp [wrong] at lkgRestored

end

theorem transition_truthful_iff (target : WebTlsSource) (answers : TransitionAnswers) (w : WebTls) :
    TruthfulTransition target answers w (tlsTransitionTask target answers w) ↔
      (Recording target answers w → ¬ActivatesOther answers w ∧ ¬FallsBack answers w) := by
  by_cases ok : (transitionStarted target answers (transitionStopped w)).1 = .ok
  · exact activated_iff ok
  · exact failed_iff ok

/-! ## An automatic transition that fails, and one to an unknown leaf -/

def renewalPending : WebTls where
  server := some (.stored ⟨[1], [1]⟩)
  started := true
  source := .production
  activeStoredCredentials := some ⟨[1], [1]⟩
  activeServerLeafSha256 := [0x61]
  transitionPending := true
  transitionAutomatic := true
  bootSelected := some 1
  records := ⟨some (TlsIntentRecord.blob ⟨true, false, 1700000000, [0x61], [0x62]⟩), none, none, .zero⟩

def renewedServer : ServerAnswers := ⟨.ok, ⟨[2], [2]⟩, .ok, .ok, .ok, [0x62]⟩

def withoutHandlers : ServerAnswers := { renewedServer with registerAllHandlers := .noMem }

def allStored (start restore : ServerAnswers) : TransitionAnswers where
  intentSnapshot := .ok
  start := start
  preference := ⟨.ok, .stored⟩
  intentRead := .ok
  intentClear := .stored
  restore := restore
  restorePreference := ⟨.ok, .stored⟩
  fallbackPreference := ⟨.ok, .stored⟩
  fallback := renewedServer
  outcomeCompleted := 1700000010
  outcome := .stored
  handoffDone := 1700000010
  handoff := ⟨.ok, .stored⟩
  failedIntentRead := .ok

def unrestorable : TransitionAnswers := allStored withoutHandlers withoutHandlers

def uninspected : TransitionAnswers := allStored { renewedServer with inspect := .noMem } renewedServer

theorem outcome_record_misreports :
    ¬TruthfulTransition .production unrestorable renewalPending
      (tlsTransitionTask .production unrestorable renewalPending) ∧
    ¬TruthfulTransition .production uninspected renewalPending
      (tlsTransitionTask .production uninspected renewalPending) := by
  constructor
  · intro truthful
    have running := truthful.restored ⟨rfl, rfl, rfl⟩ _ rfl rfl
    exact absurd running (by decide)
  · intro truthful
    have running := truthful.success ⟨rfl, rfl, rfl⟩ _ rfl rfl
    exact absurd running (by decide)

end NtsTimeServer.Proof
