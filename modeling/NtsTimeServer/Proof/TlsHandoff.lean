import NtsTimeServer.Model.TlsActivation

/-!
# The retry time of TLS handoffs

After a begin that succeeded, NVS holds a record whose retry time is a whole retry interval later. Every
operation writes a record with a retry time that is no earlier than that, or nothing, except for a finish
with success.
-/

namespace NtsTimeServer.Proof
open Model Lib

/-- A finish with success becomes durable, whether it returns success or not. -/
def StoresSuccess (s : TlsHandoffSystem) : TlsHandoffEvent → Prop
  | .finish true _ nvs =>
      (∃ record, tlsHandoffRead nvs.read s.records = .ok record) ∧ nvs.write.durable = true
  | _ => False

def Refuses (retry : Int) (s : TlsRecords) : Prop :=
  ∃ record : TlsHandoffRecord, s.handoff = some record.blob ∧ retry ≤ record.retryNotBeforeUnix

structure HandoffLaw (s : TlsHandoffSystem) : Prop where
  begins : ∀ target now nvs, (tlsHandoffBegin target now nvs s.records).1 = .ok →
    ∃ record, tlsHandoffRead .ok s.records = .ok record ∧ record.inProgress = false ∧
      record.retryNotBeforeUnix ≤ now
  spaced : ∀ target now nvs begun, (tlsHandoffBegin target now nvs s.records).1 = .ok →
    tlsHandoffStep s (.begin target now nvs) = some begun →
    ∀ later t, Run tlsHandoffStep (fun s event => ¬StoresSuccess s event) begun later t →
    ∀ target' now' nvs', (tlsHandoffBegin target' now' nvs' t.records).1 = .ok →
      now + tlsHandoffRetrySeconds ≤ now'
  reconciled : ∀ now nvs,
    ((TlsHandoffEvent.reboot now nvs).perform s.records).1 = .ok →
    ∃ record, tlsHandoffRead .ok ((TlsHandoffEvent.reboot now nvs).perform s.records).2 = .ok record ∧
      record.inProgress = false

section
variable {s : TlsRecords} {record : TlsHandoffRecord} {write : StoreOutcome} {nvs : RecordAnswers}

theorem tlsHandoffRead_eq_ok {err : EspErr} (read : tlsHandoffRead err s = .ok record) :
    err = .ok ∧ tlsHandoffRead .ok s = .ok record := by
  by_cases answered : err = .ok
  · subst answered
    exact ⟨rfl, read⟩
  · simp [tlsHandoffRead, answered] at read

theorem tlsHandoffRead_ne_ok {err : EspErr} : tlsHandoffRead err s ≠ .error .ok := by
  unfold tlsHandoffRead
  split
  · rename_i failed
    exact fun same => failed (Except.error.inj same)
  · cases s.handoff with
    | none => nofun
    | some blob =>
        simp only [TlsBlob.read]
        split_ifs <;> nofun

theorem tlsHandoffRead_blob (stored : s.handoff = some record.blob) :
    tlsHandoffRead .ok s = .ok record := by
  simp [tlsHandoffRead, stored, TlsBlob.read, TlsHandoffRecord.blob]

theorem tlsHandoffRead_stored {err : EspErr} {other : TlsHandoffRecord}
    (stored : s.handoff = some record.blob) (read : tlsHandoffRead err s = .ok other) :
    other = record := by
  have same := ((tlsHandoffRead_eq_ok read).2).symm.trans (tlsHandoffRead_blob stored)
  exact Except.ok.inj same

theorem tlsHandoffWrite_handoff : (tlsHandoffWrite record write s).2.handoff =
    if write.durable then some record.blob else s.handoff := by
  cases write <;> simp [tlsHandoffWrite, StoreOutcome.err, StoreOutcome.durable, TlsRecords.publish]

theorem tlsHandoffWrite_ok (ok : (tlsHandoffWrite record write s).1 = .ok) :
    (tlsHandoffWrite record write s).2.handoff = some record.blob := by
  cases write with
  | stored => simp [tlsHandoffWrite_handoff, StoreOutcome.durable]
  | failed durable => simp [tlsHandoffWrite, StoreOutcome.err] at ok

theorem tlsHandoffWrite_refuses {retry : Int} (before : Refuses retry s)
    (later : write.durable = true → retry ≤ record.retryNotBeforeUnix) :
    Refuses retry (tlsHandoffWrite record write s).2 := by
  unfold Refuses
  rw [tlsHandoffWrite_handoff]
  split
  · rename_i durable
    exact ⟨record, rfl, later durable⟩
  · exact before

/-! ## The operations -/

theorem tlsHandoffBegin_ok {target : Bytes} {now : Int}
    (ok : (tlsHandoffBegin target now nvs s).1 = .ok) :
    ∃ record, tlsHandoffRead .ok s = .ok record ∧ record.inProgress = false ∧
      record.retryNotBeforeUnix ≤ now ∧
      Refuses (now + tlsHandoffRetrySeconds) (tlsHandoffBegin target now nvs s).2 := by
  unfold tlsHandoffBegin at ok ⊢
  split at ok
  · cases ok
  · rename_i argument
    rw [if_neg argument]
    cases read : tlsHandoffRead nvs.read s with
    | error err =>
        rw [read] at ok
        have same : err = .ok := ok
        exact absurd (same ▸ read) tlsHandoffRead_ne_ok
    | ok record =>
        rw [read] at ok
        simp only at ok ⊢
        split at ok
        · cases ok
        · rename_i idle
          rw [if_neg idle]
          split at ok
          · cases ok
          · rename_i passed
            rw [if_neg passed]
            refine ⟨record, (tlsHandoffRead_eq_ok read).2, by simpa using idle, by omega, _,
              tlsHandoffWrite_ok ok, le_rfl⟩

theorem tlsHandoffBegin_refuses {retry : Int} {target : Bytes} {now : Int} (before : Refuses retry s)
    (later : retry ≤ now + tlsHandoffRetrySeconds) :
    Refuses retry (tlsHandoffBegin target now nvs s).2 := by
  unfold tlsHandoffBegin
  split
  · exact before
  cases read : tlsHandoffRead nvs.read s with
  | error err => exact before
  | ok record =>
      simp only
      split_ifs
      · exact before
      · exact before
      · exact tlsHandoffWrite_refuses before fun _ => later

theorem tlsHandoffFinish_refuses {retry : Int} {success : Bool} {now : Int} (before : Refuses retry s)
    (later : 0 < now → retry ≤ now + tlsHandoffRetrySeconds)
    (kept : success = true → (∃ record, tlsHandoffRead nvs.read s = .ok record) →
      nvs.write.durable = false) :
    Refuses retry (tlsHandoffFinish success now nvs s).2 := by
  unfold tlsHandoffFinish
  cases read : tlsHandoffRead nvs.read s with
  | error err => exact before
  | ok record =>
      apply tlsHandoffWrite_refuses before
      intro durable
      obtain ⟨stored, same, bound⟩ := before
      have found : record = stored := tlsHandoffRead_stored same read
      subst found
      unfold TlsHandoffRecord.finished
      cases success with
      | true => simp [kept rfl ⟨record, read⟩] at durable
      | false =>
          by_cases positive : now > 0
          · simpa [positive] using later positive
          · simpa [positive] using bound

theorem tlsHandoffLoadAndReconcile_refuses {retry : Int} {now : Int} (before : Refuses retry s) :
    Refuses retry (tlsHandoffLoadAndReconcile now nvs s).2 := by
  unfold tlsHandoffLoadAndReconcile
  cases read : tlsHandoffRead nvs.read s with
  | error err => exact before
  | ok record =>
      simp only
      split
      · apply tlsHandoffWrite_refuses before
        intro durable
        obtain ⟨stored, same, bound⟩ := before
        have found : record = stored := tlsHandoffRead_stored same read
        subst found
        -- the retry time is only ever moved forward
        simp only
        split_ifs <;> omega
      · exact before

theorem tlsHandoffLoadAndReconcile_ok {now : Int}
    (ok : (tlsHandoffLoadAndReconcile now nvs s).1 = .ok) :
    ∃ record, tlsHandoffRead .ok (tlsHandoffLoadAndReconcile now nvs s).2 = .ok record ∧
      record.inProgress = false := by
  unfold tlsHandoffLoadAndReconcile at ok ⊢
  cases read : tlsHandoffRead nvs.read s with
  | error err =>
      rw [read] at ok
      have same : err = .ok := ok
      exact absurd (same ▸ read) tlsHandoffRead_ne_ok
  | ok record =>
      rw [read] at ok
      simp only at ok ⊢
      split at ok
      · rename_i running
        rw [if_pos running]
        exact ⟨_, tlsHandoffRead_blob (tlsHandoffWrite_ok ok), rfl⟩
      · rename_i idle
        rw [if_neg idle]
        exact ⟨record, (tlsHandoffRead_eq_ok read).2, by simpa using idle⟩

end

/-! ## Runs -/

theorem refuses_step {retry : Int} {s t : TlsHandoffSystem} {event : TlsHandoffEvent}
    (before : Refuses retry s.records) (later : retry ≤ s.time + tlsHandoffRetrySeconds)
    (kept : ¬StoresSuccess s event) (step : tlsHandoffStep s event = some t) :
    Refuses retry t.records ∧ retry ≤ t.time + tlsHandoffRetrySeconds := by
  unfold tlsHandoffStep at step
  simp only at step
  split at step
  · rename_i ordered
    cases step
    refine ⟨?_, by simp only; omega⟩
    cases event with
    | begin target now nvs =>
        apply tlsHandoffBegin_refuses before
        simp only [TlsHandoffEvent.reading, Option.getD_some] at ordered
        omega
    | finish success now nvs =>
        apply tlsHandoffFinish_refuses before
        · intro positive
          cases now with
          | none => simp at positive
          | some now =>
              simp only [TlsHandoffEvent.reading, Option.getD_some] at ordered ⊢
              omega
        · rintro rfl readable
          simpa [StoresSuccess, readable] using kept
    | reboot now nvs => exact tlsHandoffLoadAndReconcile_refuses before
  · cases step

theorem refuses_run {retry : Int} {s t : TlsHandoffSystem} {later : List TlsHandoffEvent}
    (before : Refuses retry s.records) (bound : retry ≤ s.time + tlsHandoffRetrySeconds)
    (run : Run tlsHandoffStep (fun s event => ¬StoresSuccess s event) s later t) :
    Refuses retry t.records := by
  refine (run.invariant (fun _ t => Refuses retry t.records ∧ retry ≤ t.time + tlsHandoffRetrySeconds)
    ⟨before, bound⟩ ?_).1
  intro _ s event t holds kept step
  exact refuses_step holds.1 holds.2 kept step

theorem tls_handoff_retry_law (s : TlsHandoffSystem) : HandoffLaw s where
  begins target now nvs ok := by
    obtain ⟨record, read, idle, passed, _⟩ := tlsHandoffBegin_ok ok
    exact ⟨record, read, idle, passed⟩
  spaced target now nvs begun ok step later t run target' now' nvs' again := by
    obtain ⟨_, _, _, _, armed⟩ := tlsHandoffBegin_ok ok
    obtain ⟨record, read, _, passed, _⟩ := tlsHandoffBegin_ok again
    unfold tlsHandoffStep at step
    simp only at step
    split at step
    · cases step
      obtain ⟨stored, same, bound⟩ := refuses_run armed le_rfl run
      have found : record = stored := tlsHandoffRead_stored same read
      subst found
      exact bound.trans passed
    · cases step
  reconciled now nvs ok := tlsHandoffLoadAndReconcile_ok ok

end NtsTimeServer.Proof
