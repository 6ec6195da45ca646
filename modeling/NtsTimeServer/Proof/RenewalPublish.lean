import NtsTimeServer.Proof.RenewalCooldown

/-!
# What an evaluation does to published records

An evaluation copies the published fields in one critical section and overwrites the whole status in
another. What is published between the two is lost.
-/

namespace NtsTimeServer.Proof
open Model Lib

/-- The status that an evaluation has copied and not yet published. -/
def heldCopy : SchedulerPc → Option RenewalStatus
  | .copied next => some next
  | _ => none

/-- Nothing that changes a field is published between the two sections of an evaluation. -/
def PublishesOutside (s : RenewalSystem) : RenewalEvent → Prop
  | .publish update => heldCopy s.pc = none ∨ update.apply s.status.tls = s.status.tls
  | _ => True

instance (s : RenewalSystem) (event : RenewalEvent) : Decidable (PublishesOutside s event) := by
  cases event <;> unfold PublishesOutside <;> infer_instance

structure ShowsLatest (s : RenewalSystem) : Prop where
  status : s.status.tls = s.latest
  copied : ∀ next ∈ heldCopy s.pc, next.tls = s.status.tls

section
variable {s t : RenewalSystem}

theorem showsLatest_of_released (shown : s.status.tls = s.latest) (released : heldCopy s.pc = none) :
    ShowsLatest s := by
  refine ⟨shown, fun next held => ?_⟩
  cases released.symm.trans held

theorem ShowsLatest.goto (shows : ShowsLatest s) (tls : t.status.tls = s.status.tls)
    (latest : t.latest = s.latest) (pc : heldCopy t.pc = none) : ShowsLatest t :=
  showsLatest_of_released (by rw [tls, latest, shows.status]) pc

theorem ShowsLatest.publish (shows : ShowsLatest s) {update : TlsPublish}
    (outside : PublishesOutside s (.publish update)) : ShowsLatest (s.publish update) := by
  refine ⟨congrArg (fun tls => update.apply tls) shows.status, fun next held => ?_⟩
  obtain elsewhere | kept := outside
  · cases elsewhere.symm.trans held
  · exact (shows.copied next held).trans kept.symm

theorem attemptAcquired_tls {now : Int} {status after : RenewalStatus}
    (acquired : attemptAcquired now status = some after) : after.tls = status.tls := by
  unfold attemptAcquired at acquired
  split at acquired <;> cases acquired
  rfl

theorem heldCopy_ite {condition : Prop} [Decidable condition] {yes no : SchedulerPc}
    (taken : heldCopy yes = none) (skipped : heldCopy no = none) :
    heldCopy (if condition then yes else no) = none := by
  split
  · exact taken
  · exact skipped

theorem ShowsLatest.loadAttemptState (shows : ShowsLatest s) (boot : BootLoads) :
    ShowsLatest (loadAttemptState s boot) := by
  unfold Model.loadAttemptState
  split
  · refine shows.goto rfl rfl ?_
    cases boot.created <;> rfl
  · exact shows

theorem ShowsLatest.start (shows : ShowsLatest s) (off : s.pc = .off) (boot : BootLoads) :
    ShowsLatest (startRenewalScheduler s boot) := by
  have elsewhere : heldCopy s.pc = none := by
    rw [off]
    rfl
  unfold startRenewalScheduler
  split
  · exact shows
  · split
    · exact shows.publish (.inl elsewhere)
    · split
      · exact (shows.publish (.inl elsewhere)).publish (.inl elsewhere)
      · exact (((shows.publish (.inl elsewhere)).publish (.inl elsewhere)).publish
          (.inl elsewhere)).loadAttemptState boot

theorem renewalStep_showsLatest (shows : ShowsLatest s) {event : RenewalEvent}
    (outside : PublishesOutside s event) (step : renewalStep s event = some t) : ShowsLatest t := by
  cases moved_of_step step with
  | pass => exact ⟨shows.status, shows.copied⟩
  | publish => exact shows.publish outside
  | powerLost => exact showsLatest_of_released rfl rfl
  | start off => exact shows.start off _
  | evaluateCopy =>
      refine ⟨shows.status, fun next held => ?_⟩
      cases held
      rfl
  | @evaluatePublish next here =>
      have copied := shows.copied next (by rw [here]; rfl)
      exact showsLatest_of_released (copied.trans shows.status) rfl
  | prepare here =>
      have elsewhere : heldCopy s.pc = none := by
        rw [here]
        rfl
      exact (shows.publish (.inl elsewhere)).goto rfl rfl rfl
  | executeAcquire here acquired => exact shows.goto (attemptAcquired_tls acquired) rfl rfl
  | executeSnapshot | executeRead | storeAttempt => exact shows.goto rfl rfl (heldCopy_ite rfl rfl)
  | _ => exact shows.goto rfl rfl rfl

end

theorem published_shown {time : Int} {nvs : Option RenewalAttemptRecord} {past : List RenewalEvent}
    {s : RenewalSystem} (run : Run renewalStep PublishesOutside (.unpowered time nvs) past s) :
    s.status.tls = s.latest := by
  have shows : ShowsLatest s := run.invariant (fun _ s => ShowsLatest s)
    (showsLatest_of_released rfl rfl) fun _ _ _ _ shows outside step => renewalStep_showsLatest shows outside step
  exact shows.status

/-! ## One evaluation -/

def publishAll (s : RenewalSystem) (updates : List TlsPublish) : RenewalSystem :=
  updates.foldl RenewalSystem.publish s

theorem publishAll_spec (updates : List TlsPublish) (s : RenewalSystem) :
    (publishAll s updates).pc = s.pc ∧
      (publishAll s updates).latest = updates.foldl (fun tls update => update.apply tls) s.latest := by
  induction updates generalizing s with
  | nil => exact ⟨rfl, rfl⟩
  | cons update updates ih => exact ih (s.publish update)

theorem evaluation_keeps_iff {s t : RenewalSystem} {next : RenewalStatus} {updates : List TlsPublish}
    (shown : s.status.tls = s.latest) (copied : s.pc = .copied next) (copy : next.tls = s.status.tls)
    (step : renewalStep (publishAll s updates) .evaluatePublish = some t) :
    t.status.tls = t.latest ↔ updates.foldl (fun tls update => update.apply tls) s.latest = s.latest := by
  obtain ⟨pc, latest⟩ := publishAll_spec updates s
  simp only [renewalStep, pc, copied, Option.some.injEq] at step
  subst step
  rw [← latest, copy, shown]
  exact eq_comm

def pendingIntent : TlsIntentRecord := ⟨true, false, 1000000, [0x61], [0x62]⟩

def clearedIntent : TlsPublish := .intent ⟨false, false, 0, [], []⟩ "cleared_no_replacement"

def pendingBoot : BootLoads :=
  { sampleBoot with intent := .ok (pendingIntent, "pending_runtime_handoff") }

def evaluationEvents (before between : List TlsPublish) : List RenewalEvent :=
  [.start pendingBoot, .evaluateBegin, .evaluateInspect dueCertificate] ++ before.map .publish ++
    [.evaluateCopy] ++ between.map .publish ++ [.evaluatePublish]

def quietEvaluation : Option RenewalSystem :=
  execute renewalStep PublishesOutside (.unpowered 1000000 none) (evaluationEvents [clearedIntent] [])

theorem quietEvaluation_executes : quietEvaluation.isSome = true := by decide +kernel

theorem quietEvaluation_shown : (quietEvaluation.get quietEvaluation_executes).status.tls =
    (quietEvaluation.get quietEvaluation_executes).latest := by
  have executed : quietEvaluation = some (quietEvaluation.get quietEvaluation_executes) :=
    (Option.some_get quietEvaluation_executes).symm
  exact published_shown (execute_run executed)

def revertedEvaluation : Option RenewalSystem :=
  execute renewalStep (fun _ _ => True) (.unpowered 1000000 none) (evaluationEvents [] [clearedIntent])

theorem revertedEvaluation_executes : revertedEvaluation.isSome = true := by decide +kernel

/-- The transition task clears the intent between the two sections, and the evaluation, when it has
finished, shows it as pending. -/
theorem evaluation_reverts_intent :
    ¬∀ (time : Int) (nvs : Option RenewalAttemptRecord) (past : List RenewalEvent) (s : RenewalSystem),
      FreeRun renewalStep (.unpowered time nvs) past s → s.pc = .evaluated → s.status.tls = s.latest := by
  intro shown
  have executed : revertedEvaluation = some (revertedEvaluation.get revertedEvaluation_executes) :=
    (Option.some_get revertedEvaluation_executes).symm
  have same := shown _ _ _ _ (execute_run executed) (by decide +kernel)
  have pending : (revertedEvaluation.get revertedEvaluation_executes).status.tls.intent.pending = true := by
    decide +kernel
  have cleared : (revertedEvaluation.get revertedEvaluation_executes).latest.intent.pending = false := by
    decide +kernel
  rw [same, cleared] at pending
  cases pending

end NtsTimeServer.Proof
