import NtsTimeServer.Proof.CertTransaction
import NtsTimeServer.Proof.IntentRecovery

/-!
# Every transaction of a renewal

What holds whatever the servers, PSA and NVS answer, at each of its calls and when it returns.
-/

namespace NtsTimeServer.Proof
open Model Lib Interaction

abbrev IssuanceSurroundings := Surroundings IssuanceCall IssuanceCall.Answer

def renewalResult (hostname : Bytes) (credentials : CloudflareCredentials) (surroundings : IssuanceSurroundings) :
    EspErr × ProductionTransactionStatus × RenewalDns01Context :=
  ((renewalTransaction hostname credentials).run surroundings []).1

def renewalHistory (hostname : Bytes) (credentials : CloudflareCredentials) (surroundings : IssuanceSurroundings) :
    IssuanceHistory := ((renewalTransaction hostname credentials).run surroundings []).2

section
variable (hostname : Bytes) (credentials : CloudflareCredentials) (surroundings : IssuanceSurroundings)

theorem renewal_outcome : Outcome hostname (renewalResult hostname credentials surroundings)
    (renewalHistory hostname credentials surroundings) :=
  ((renewalTransaction_meets hostname credentials).run surroundings trivial).1

theorem renewal_justified : Justified (MayCall hostname) (renewalHistory hostname credentials surroundings) :=
  ((renewalTransaction_meets hostname credentials).run surroundings trivial).2

theorem renewal_posts_signed : Justified (fun past c =>
    (∀ url headers body, c = .http ⟨.post, url, headers, body⟩ → ∃ text, body = some text ∧
      (readJws text ≠ none ∨ RecordDue past hostname text)) ∧
    ∀ url jws, postedJws c = some (url, jws) → Signed past url jws)
      (renewalHistory hostname credentials surroundings) :=
  (renewal_justified hostname credentials surroundings).mono fun _ _ may => ⟨may.post, may.signed⟩

/-- The challenge is triggered only where its record is published and shown, and the certificate is asked for
only where the authorization is valid. -/
theorem renewal_steps_ordered : Justified (fun past c => ∀ url jws, postedJws c = some (url, jws) →
    (jws.payload = triggerPayload → TriggerDue past hostname url) ∧
      ∀ csr64, jws.payload = finalizePayload csr64 → FinalizeDue past hostname url)
      (renewalHistory hostname credentials surroundings) :=
  (renewal_justified hostname credentials surroundings).mono fun _ _ may url jws posted =>
    ⟨may.trigger url jws posted, fun csr64 => may.finalize url jws csr64 posted⟩

theorem renewal_deletes_shown : Justified (fun past c => ∀ url headers body,
    c = .http ⟨.delete, url, headers, body⟩ → DeleteDue past hostname url)
      (renewalHistory hostname credentials surroundings) :=
  (renewal_justified hostname credentials surroundings).mono fun _ _ may => may.delete

theorem renewal_stores_issued : Justified (fun past c => ∀ production host key pem,
    c = .storeCertificate production host key pem →
      production = true ∧ host = hostname ∧ StoreDue past hostname key pem)
      (renewalHistory hostname credentials surroundings) :=
  (renewal_justified hostname credentials surroundings).mono fun _ _ may => may.store

theorem renewal_keeps_account : Justified (fun past c =>
    (∀ name key, c = .nvsSetBlob name key → name = "acct_key" ∧ KeyDue past key) ∧
      ∀ name url, c = .nvsSetStr name url → name = "acct_prod" ∧ AccountUrlDue past url)
      (renewalHistory hostname credentials surroundings) :=
  (renewal_justified hostname credentials surroundings).mono fun _ _ may => ⟨may.key, may.accountUrl⟩

structure FaithfulStatus (hostname : Bytes) (err : EspErr) (out : ProductionTransactionStatus)
    (past : IssuanceHistory) : Prop where
  completed : out.completed = true ↔ err = .ok
  stage : out.stage = .complete ↔ err = .ok
  cleaned : out.cleanupAttempted = out.dns01Prepared
  stored : out.certificate.stored = true ↔ StoredAfter past hostname
  ok : err = .ok → out.certificate.stored = true ∧ ∃ zoneId recordId, RecordDeleted past zoneId recordId

theorem renewal_status_faithful : FaithfulStatus hostname (renewalResult hostname credentials surroundings).1
    (renewalResult hostname credentials surroundings).2.1 (renewalHistory hostname credentials surroundings) := by
  have outcome := renewal_outcome hostname credentials surroundings
  exact ⟨outcome.completed, outcome.stage, outcome.cleaned, outcome.stored,
    fun ok => ⟨(outcome.ok ok).1, (outcome.ok ok).2.2⟩⟩

def AllDeleted (past : IssuanceHistory) : Prop := ∀ zoneId recordId name value,
  RecordCreated past zoneId recordId name value → Deleted past zoneId recordId

/-- No TXT record is left behind, except one that the context still names; then the transaction fails. -/
theorem renewal_records_accounted :
    Accounted (renewalHistory hostname credentials surroundings)
        (renewalResult hostname credentials surroundings).2.2 ∧
      ((renewalResult hostname credentials surroundings).1 = .ok →
        AllDeleted (renewalHistory hostname credentials surroundings)) := by
  have outcome := renewal_outcome hostname credentials surroundings
  refine ⟨outcome.accounted, fun ok zoneId recordId name value created => ?_⟩
  have clear := (outcome.ok ok).2.1
  refine (outcome.accounted zoneId recordId name value created).resolve_right fun kept => ?_
  rw [kept.1] at clear
  cases clear

theorem renewal_costs (p : Prices) : spent (price p) (renewalHistory hostname credentials surroundings) ≤
    270 * p.request + p.create + p.delete + 130000 * p.millisecond + p.store := by
  have paid := (renewal_outcome hostname credentials surroundings).led.paid p
  rwa [show spent (price p) [] = 0 from rfl, Nat.zero_add] at paid

end

/-! ## The transaction of the scheduler -/

def storedMaterial : IssuanceCall → Option CertMaterial
  | .storeCertificate true host key pem =>
      if length : key.length = acmeCertPrivateKeyLength then some ⟨⟨key, length⟩, pem, host⟩ else none
  | _ => none

def certsAfter (lib : CertLibrary) (nvs : CertNvs) : IssuanceHistory → CertNvs
  | [] => nvs
  | ⟨c, _⟩ :: past =>
      let nvs := certsAfter lib nvs past
      match storedMaterial c with
      | none => nvs
      | some material => commitAll (storeCertificateMaterial lib nvs material).2 nvs

def withCerts (lib : CertLibrary) (nvs : CertNvs) (surroundings : IssuanceSurroundings) : IssuanceSurroundings :=
  fun past c => match c with
    | .storeCertificate production host key pem =>
        match storedMaterial (.storeCertificate production host key pem) with
        | none => surroundings past (.storeCertificate production host key pem)
        | some material => (storeCertificateMaterial lib (certsAfter lib nvs past) material).1
    | c => surroundings past c

def isStore : IssuanceCall → Bool
  | .storeCertificate _ _ _ _ => true
  | _ => false

theorem isStore_of_price {c : IssuanceCall} (free : price ⟨0, 0, 0, 0, 1⟩ c = 0) : isStore c = false := by
  cases c with
  | storeCertificate production host key pem => cases free
  | _ => rfl

theorem certsAfter_append {lib : CertLibrary} {nvs : CertNvs} {recent past : IssuanceHistory}
    (none : ∀ event ∈ recent, isStore event.1 = false) :
    certsAfter lib nvs (recent ++ past) = certsAfter lib nvs past := by
  induction recent with
  | nil => rfl
  | cons event recent ih =>
      obtain ⟨c, answer⟩ := event
      have noMaterial : storedMaterial c = .none := by
        have := none ⟨c, answer⟩ (List.mem_cons_self ..)
        cases c with
        | storeCertificate production host key pem => cases this
        | _ => rfl
      rw [List.cons_append, certsAfter, noMaterial]
      exact ih fun event member => none event (List.mem_cons_of_mem _ member)

theorem none_stored {past : IssuanceHistory} (free : spent (price ⟨0, 0, 0, 0, 1⟩) past = 0) :
    ∀ event ∈ past, isStore event.1 = false := by
  intro event member
  have most := @le_spent _ _ (price ⟨0, 0, 0, 0, 1⟩) past event member
  exact isStore_of_price (by omega)

theorem renewal_stored_once (hostname : Bytes) (credentials : CloudflareCredentials)
    (surroundings : IssuanceSurroundings) {past : IssuanceHistory}
    (is : past = renewalHistory hostname credentials surroundings) :
    (∀ event ∈ past, isStore event.1 = false) ∨ ∃ key pem answer recent earlier,
      past = recent ++ ⟨.storeCertificate true hostname key pem, answer⟩ :: earlier ∧
        key.length = acmeCertPrivateKeyLength ∧ (∀ event ∈ recent, isStore event.1 = false) ∧
          ∀ event ∈ earlier, isStore event.1 = false := by
  have paid := (renewal_outcome hostname credentials surroundings).led.paid ⟨0, 0, 0, 0, 1⟩
  have justified := renewal_justified hostname credentials surroundings
  rw [← is, show spent (price ⟨0, 0, 0, 0, 1⟩) [] = 0 from rfl] at paid
  rw [← is] at justified
  by_cases all : ∀ event ∈ past, isStore event.1 = false
  · exact .inl all
  · push Not at all
    obtain ⟨⟨c, answer⟩, member, isCall⟩ := all
    obtain ⟨recent, earlier, rfl⟩ := List.append_of_mem member
    cases c with
    | storeCertificate production host key pem =>
        have due := justified.of_append.1.store production host key pem rfl
        obtain ⟨rfl, rfl, payload, -, -, -, -, -, -, -, -, requests, -⟩ := due
        simp only [spent_append] at paid
        have split : spent (price ⟨0, 0, 0, 0, 1⟩) (⟨.storeCertificate true host key pem, answer⟩ :: earlier) =
            1 + spent (price ⟨0, 0, 0, 0, 1⟩) earlier := rfl
        rw [split] at paid
        exact .inr ⟨key, pem, answer, recent, earlier, rfl, requests.1, none_stored (by omega),
          none_stored (by omega)⟩
    | _ => cases isCall rfl

theorem storedMaterial_production {hostname key pem : Bytes} (length : key.length = acmeCertPrivateKeyLength) :
    storedMaterial (.storeCertificate true hostname key pem) = some ⟨⟨key, length⟩, pem, hostname⟩ :=
  dif_pos length

theorem renewalTransaction_refines (lib : InspectionLibrary) (hostname : Bytes)
    (credentials : CloudflareCredentials) (surroundings : IssuanceSurroundings) (d : Device) (now : Int)
    (configured : Bool) : ∃ issued,
      (productionTransaction lib ⟨now, configured, issued⟩ d).1 = (renewalResult hostname credentials
        (withCerts lib.toCertLibrary d.certs surroundings)).2.1.certificate.stored ∧
        (commitAll (productionTransaction lib ⟨now, configured, issued⟩ d).2 d).certs =
          certsAfter lib.toCertLibrary d.certs (renewalHistory hostname credentials
            (withCerts lib.toCertLibrary d.certs surroundings)) := by
  have status := renewal_outcome hostname credentials (withCerts lib.toCertLibrary d.certs surroundings)
  have answers : AnsweredBy _ (renewalHistory hostname credentials
      (withCerts lib.toCertLibrary d.certs surroundings)) :=
    run_answeredBy _ (renewalTransaction hostname credentials) trivial
  obtain none | ⟨key, pem, answer, recent, earlier, is, length, after, before⟩ :=
    renewal_stored_once hostname credentials (withCerts lib.toCertLibrary d.certs surroundings) rfl
  · refine ⟨.none, ?_, ?_⟩
    · have unstored : ¬StoredAfter (renewalHistory hostname credentials
          (withCerts lib.toCertLibrary d.certs surroundings)) hostname :=
        fun held => by
          obtain ⟨key, pem, member⟩ := held
          cases none _ member
      exact (Bool.eq_false_iff.mpr fun stored => unstored (status.stored.mp stored)).symm
    · have unchanged := @certsAfter_append lib.toCertLibrary d.certs _ [] none
      rw [List.append_nil] at unchanged
      exact unchanged.symm
  · have material := @storedMaterial_production hostname key pem length
    have same : certsAfter lib.toCertLibrary d.certs earlier = d.certs := by
      have unchanged := @certsAfter_append lib.toCertLibrary d.certs earlier [] before
      rwa [List.append_nil] at unchanged
    rw [is] at answers
    have answered : answer = (storeCertificateMaterial lib.toCertLibrary d.certs ⟨⟨key, length⟩, pem, hostname⟩).1 := by
      have said := answers.of_append.1
      simp only [withCerts, material, same] at said
      exact said
    have storedAfter : StoredAfter (renewalHistory hostname credentials
        (withCerts lib.toCertLibrary d.certs surroundings)) hostname ↔ answer = .ok := by
      rw [is]
      refine ⟨fun held => ?_, fun ok => ⟨key, pem, ?_⟩⟩
      · obtain ⟨other, chain, member⟩ := held
        obtain recent | here := List.mem_append.mp member
        · cases after _ recent
        · obtain same | earlier := List.mem_cons.mp here
          · cases same
            rfl
          · cases before _ earlier
      · rw [ok]
        exact List.mem_append_right _ (List.mem_cons_self ..)
    refine ⟨some ⟨⟨key, length⟩, pem, hostname⟩, ?_, ?_⟩
    · rw [answered] at storedAfter
      have flag := status.stored.trans storedAfter
      exact Bool.eq_iff_iff.mpr (beq_iff_eq.trans flag.symm)
    · have effect := commitAll_part certs_part
        (storeCertificateMaterial lib.toCertLibrary d.certs ⟨⟨key, length⟩, pem, hostname⟩).2 d
      rw [is, certsAfter_append after, certsAfter, material, same]
      have last := congrArg Device.certs effect
      simp only [productionTransaction, Committing.within, Committing.andThen, bind, pure, Committing.returning,
        List.append_nil]
      exact last

end NtsTimeServer.Proof
