import NtsTimeServer.Proof.Dns01Record

namespace NtsTimeServer.Proof
open Model Lib Interaction

section
variable {hostname value : Bytes} {past now last : IssuanceHistory} {budget more : Prices → Nat}

theorem withOutput_meets {Out : Type} {program : Acme (EspErr × Out) Out} {post : Out → IssuanceHistory → Prop}
    {failed : EspErr × Out → IssuanceHistory → Prop} {fail : EspErr × Out → Prop}
    (gives : Gives (MayCall hostname) post failed program past)
    (spends : ∀ p, Spends (price p) (budget p) (fun _ => True) fail program)
    (refused : ∀ result, fail result → FailsWith result) : (withOutput program).Meets (MayCall hostname)
      (fun result now => Led budget past now ∧ (result.1 = .ok → post result.2 now) ∧
        (result.1 ≠ .ok → failed result now ∧ fail result)) past := by
  have both := led_of_gives gives spends
  unfold Gives at both
  rw [withOutput, meets_bind]
  refine both.weaken ?_
  intro result now met
  cases result with
  | error failed => exact ⟨met.2.2, fun ok => absurd ok (refused failed met.2.1), fun _ => ⟨met.1, met.2.1⟩⟩
  | ok out => exact ⟨met.2, fun _ => met.1, fun fails => absurd rfl fails⟩

theorem withWorker_gives {Out : Type} {zero : Out} {program : Acme (EspErr × Out) Out}
    {post : Out → IssuanceHistory → Prop} {fail : EspErr × Out → IssuanceHistory → Prop}
    (gives : ∀ now, Led (fun _ => 0) past now → Gives (MayCall hostname) post fail program now)
    (refused : ∀ err now, Led (fun _ => 0) past now → fail err now) :
    Gives (MayCall hostname) post fail (withWorker zero program) past := by
  have led (allocated : Bool) : Led (fun _ => 0) past (⟨.calloc, allocated⟩ :: past) :=
    ⟨List.suffix_cons .., by simp [spent, price]⟩
  simp only [withWorker, gives_bind, gives_lift, gives_refuseIf, meets_call, meets_done]
  refine ⟨mayCall_of_asksNothing rfl, fun context => ⟨fun _ => refused _ _ (led context), fun _ => ?_⟩⟩
  refine ⟨mayCall_of_asksNothing rfl, fun task => ?_⟩
  have started : Led (fun _ => 0) past (⟨.taskCreate, task⟩ :: ⟨.calloc, context⟩ :: past) :=
    ⟨⟨[_, _], rfl⟩, by simp [spent, price]⟩
  exact ⟨fun _ => refused _ _ started, fun _ => gives _ started⟩

/-- Every record that was created is deleted, or the context has it. -/
def Accounted (past : IssuanceHistory) (dns : RenewalDns01Context) : Prop :=
  ∀ zoneId recordId name value, RecordCreated past zoneId recordId name value → Deleted past zoneId recordId ∨
    dns.recordCreated = true ∧ zoneId = dns.credentials.zoneId ∧ recordId = dns.recordId

theorem Accounted.later {dns : RenewalDns01Context} (accounted : Accounted past dns)
    (led : Led budget past now) (free : budget ⟨0, 1, 0, 0, 0⟩ = 0) : Accounted now dns := by
  intro zoneId recordId name value created
  have earlier := (led.adds_none free zoneId recordId name value created).resolve_right id
  exact (accounted zoneId recordId name value earlier).imp (·.later led.extended) id

def NoRecord (past : IssuanceHistory) : Prop :=
  ∀ zoneId recordId name value, ¬RecordCreated past zoneId recordId name value

structure ChallengeReady (hostname value : Bytes) (dns : RenewalDns01Context) (past : IssuanceHistory)
    (result : EspErr × RenewalDns01Context) (now : IssuanceHistory) : Prop where
  credentials : result.2.credentials = dns.credentials
  accounted : Accounted now result.2
  failed : result.1 ≠ .ok → Led (fun p => 4 * p.request + p.create + p.delete) past now
  ready : result.1 = .ok → Led (fun p => 2 * p.request + p.create + 10000 * p.millisecond) past now ∧
    result.2.recordCreated = true ∧
      RecordCreated now dns.credentials.zoneId result.2.recordId (challengeRecordName hostname) value ∧
        Propagated now (challengeRecordName hostname) value

theorem Accounted.forget {dns : RenewalDns01Context} (accounted : Accounted now dns)
    (deleted : RecordDeleted now dns.credentials.zoneId dns.recordId) :
    Accounted now { dns with recordCreated := false, recordId := [] } := by
  intro zone record other content created
  obtain gone | ⟨-, rfl, rfl⟩ := accounted zone record other content created
  · exact .inl gone
  · exact .inl ⟨now, List.suffix_rfl, deleted⟩

theorem renewalDns01Prepare_meets {order : AcmeOrderDiscovery} {dns : RenewalDns01Context}
    (name : order.dns01RecordName = challengeRecordName hostname)
    (due : RecordDue past hostname (txtBody (challengeRecordName hostname) order.dns01Value))
    (none : NoRecord past) : (renewalDns01Prepare order dns).Meets (MayCall hostname)
      (fun result now => ChallengeReady hostname order.dns01Value dns past result now) past := by
  rw [renewalDns01Prepare, meets_bind, name]
  refine (cloudflareClientCreateDns01Txt_meets due).weaken ?_
  rintro result start ⟨led, made⟩
  cases result with
  | error err =>
      refine ⟨rfl, ?_, fun _ => led.mono fun p => by omega, fun ok => absurd ok made.1⟩
      intro zone record other content is
      exact absurd ((made.2 zone record other content is).resolve_right id) (none zone record other content)
  | ok recordId =>
      obtain ⟨created, adds⟩ := made
      have tracked : Accounted start { dns with recordId, recordCreated := true } := by
        intro zone record other content is
        exact .inr ⟨rfl, (adds zone record other content is).resolve_left (none zone record other content)⟩
      simp only [meets_bind]
      refine (cloudflareClientVerifyDns01TxtContent_meets _).weaken ?_
      rintro verified now ⟨shown, made⟩
      have total := led.trans shown
      cases verified with
      | error err =>
          simp only [meets_bind]
          refine (cloudflareClientDeleteDns01TxtContent_meets (created.later shown.extended)).weaken ?_
          rintro deleted last ⟨removed, gone⟩
          have paid := total.trans removed
          have left := (tracked.later shown rfl).later removed rfl
          cases deleted with
          | error failed =>
              exact ⟨rfl, left, fun _ => paid.mono fun p => by omega, fun ok => absurd ok made⟩
          | ok _ =>
              exact ⟨rfl, left.forget gone, fun _ => paid.mono fun p => by omega, fun ok => absurd ok made⟩
      | ok _ =>
          obtain ⟨earlier, extended, headers, answer, last, shows⟩ := made
          refine ⟨mayCall_of_asksNothing rfl, fun delayed => ?_⟩
          have delay : Led (fun p => 10000 * p.millisecond) now (⟨.taskDelay 10000, delayed⟩ :: now) :=
            ⟨List.suffix_cons .., fun p => by simp [spent, price, Nat.add_comm]⟩
          refine ⟨rfl, (tracked.later shown rfl).later delay rfl, fun failed => absurd rfl failed, fun _ => ?_⟩
          refine ⟨(total.trans delay).mono fun p => by omega, rfl, created.later (shown.trans delay).extended, ?_⟩
          refine ⟨now, _, recordId, List.suffix_rfl, created.later shown.extended, headers, answer, ?_, shows⟩
          rw [last]
          exact List.mem_cons_self ..

theorem renewalDns01Cleanup_meets {order : AcmeOrderDiscovery} {dns : RenewalDns01Context}
    (name : order.dns01RecordName = challengeRecordName hostname) (created : dns.recordCreated = true)
    (record : RecordCreated past dns.credentials.zoneId dns.recordId (challengeRecordName hostname)
      order.dns01Value) (accounted : Accounted past dns) :
    (renewalDns01Cleanup order dns).Meets (MayCall hostname) (fun result now =>
      Led (fun p => 2 * p.request + p.delete) past now ∧ Accounted now result.2 ∧
        (result.1 = .ok → result.2.recordCreated = false ∧
          RecordDeleted now dns.credentials.zoneId dns.recordId)) past := by
  rw [renewalDns01Cleanup, if_neg (by simp [created]), meets_bind, name]
  refine (cloudflareClientDeleteDns01TxtContent_meets record).weaken ?_
  rintro deleted now ⟨led, gone⟩
  have left := accounted.later led rfl
  cases deleted with
  | error failed => exact ⟨led, left, fun ok => absurd ok gone⟩
  | ok _ => exact ⟨led, left.forget gone, fun _ => ⟨rfl, gone⟩⟩

/-! ## The store -/

def StoresNone (hostname : Bytes) (past now : IssuanceHistory) : Prop :=
  StoredAfter now hostname → StoredAfter past hostname

theorem StoresNone.trans (first : StoresNone hostname past now) (second : StoresNone hostname now last) :
    StoresNone hostname past last := fun stored => first (second stored)

theorem storesNone_of_paid (extended : past <:+ now)
    (paid : spent (price ⟨0, 0, 0, 0, 1⟩) now ≤ spent (price ⟨0, 0, 0, 0, 1⟩) past) :
    StoresNone hostname past now := by
  obtain ⟨recent, rfl⟩ := extended
  rw [spent_append] at paid
  rintro ⟨key, pem, member⟩
  obtain new | earlier := List.mem_append.mp member
  · have one := @le_spent _ _ (price ⟨0, 0, 0, 0, 1⟩) recent _ new
    simp only [price] at one
    omega
  · exact ⟨key, pem, earlier⟩

theorem Led.storesNone (led : Led budget past now) (free : budget ⟨0, 0, 0, 0, 1⟩ = 0) :
    StoresNone hostname past now := by
  have paid := led.paid ⟨0, 0, 0, 0, 1⟩
  rw [free] at paid
  exact storesNone_of_paid led.extended paid

theorem storesNone_of_spends {ε α : Type} {post : α → Prop} {fail : ε → Prop} {program : Acme ε α}
    (spends : Spends (price ⟨0, 0, 0, 0, 1⟩) 0 post fail program) : Gives (fun _ _ => True)
      (fun _ now => StoresNone hostname past now) (fun _ now => StoresNone hostname past now) program past := by
  refine (spends past).extends.weaken ?_ ?_
  · exact fun _ now met => storesNone_of_paid met.2 met.1.2
  · exact fun _ now met => storesNone_of_paid met.2 met.1.2

theorem retrieveCertificate_storesNone {nonceUrl kid key certKey : Bytes} {out : AcmeCertificateIssueStatus} :
    Gives (fun _ _ => True) (fun _ _ => True) (fun _ now => StoresNone hostname past now)
      (retrieveCertificate true nonceUrl kid key certKey hostname out) past := by
  simp only [retrieveCertificate, gives_bind, gives_lift, gives_refuseIf, gives_failing, gives_pure, meets_call,
    meets_done, implies_true, true_and, and_true]
  refine (storesNone_of_spends signedRequest_spends).weaken ?_ fun _ _ kept => kept
  rintro ⟨response, status⟩ now kept
  refine ⟨fun _ => kept, fun _ answer fails => kept.trans ?_⟩
  rintro ⟨other, pem, member⟩
  obtain same | earlier := List.mem_cons.mp member
  · cases same
    exact absurd rfl fails
  · exact ⟨other, pem, earlier⟩

theorem finalizeOrderSync_storesNone {order : AcmeOrderDiscovery} (identifier : order.identifier = hostname) :
    Gives (fun _ _ => True) (fun _ _ => True) (fun _ now => StoresNone hostname past now)
      (finalizeOrderSync true order) past := by
  simp only [finalizeOrderSync, gives_bind, gives_lift, gives_refuseIf, gives_failing, meets_call, meets_done,
    true_and]
  refine ⟨fun _ => id, fun _ => (storesNone_of_spends loadAccount_spends).weaken ?_ fun _ _ kept => kept⟩
  rintro ⟨key, kid⟩ first loaded
  refine (storesNone_of_spends certificateRequest_spends).weaken ?_ fun _ _ kept => loaded.trans kept
  rintro ⟨certKey, payload⟩ second requested
  refine (storesNone_of_spends (probeSync_spends true)).weaken ?_ fun _ _ kept =>
    (loaded.trans requested).trans kept
  intro directory third probed allocated
  have led : Led (fun _ => 0) third (⟨.calloc, allocated⟩ :: third) :=
    ⟨List.suffix_cons .., by simp [spent, price]⟩
  have start := ((loaded.trans requested).trans probed).trans (led.storesNone rfl)
  refine ⟨fun _ => start, fun _ => ?_⟩
  refine (storesNone_of_spends signedRequest_spends).weaken ?_ fun _ _ kept => start.trans kept
  rintro ⟨response, status⟩ fourth posted
  refine ⟨fun _ => start.trans posted, fun _ => ?_⟩
  refine (storesNone_of_spends (pollOrder_spends rfl)).weaken ?_ fun _ _ kept => (start.trans posted).trans kept
  intro issued fifth polled
  rw [identifier]
  exact retrieveCertificate_storesNone.weaken (fun _ _ _ => trivial) fun _ _ kept =>
    ((start.trans posted).trans polled).trans kept

/-! ## The transaction -/

theorem acmeClientValidateProductionDns01_gives {order : AcmeOrderDiscovery}
    (due : TriggerDue past hostname order.challengeUrl) : Gives (MayCall hostname)
      (fun validation now => validation.valid = true ∧ Authorized now order.authorizationUrl)
      (fun _ _ => True) (acmeClientValidateProductionDns01 order) past :=
  withWorker_gives (fun _ led => validateDns01Sync_gives (due.later led.extended)) fun _ _ _ => trivial

theorem acmeClientFinalizeProductionOrder_gives {order : AcmeOrderDiscovery}
    (placed : OrderPlaced past hostname order.finalizeUrl order.authorizationUrl order.orderUrl)
    (identifier : order.identifier = hostname) (authorized : Authorized past order.authorizationUrl) :
    Gives (MayCall hostname) (fun issued now => issued.stored = true ∧ issued.certificateRetrieved = true ∧
      issued.finalized = true ∧ StoredAfter now hostname) (fun _ now => StoresNone hostname past now)
      (acmeClientFinalizeProductionOrder order) past := by
  refine withWorker_gives (fun start led => ?_) fun _ _ led => led.storesNone rfl
  have authorized' : Authorized start order.authorizationUrl :=
    authorized.imp fun response => .imp fun parsed holds => ⟨holds.1.later led.extended, holds.2⟩
  refine ((finalizeOrderSync_gives (placed.later led.extended) identifier authorized').and
    (finalizeOrderSync_storesNone identifier)).weaken (fun _ _ met => met.1) ?_
  exact fun _ _ met => (led.storesNone rfl).trans met.2

def issuePrice (p : Prices) : Nat := 254 * p.request + 120000 * p.millisecond + p.store

structure Issued (hostname : Bytes) (out : ProductionTransactionStatus) (past : IssuanceHistory)
    (result : EspErr × ProductionTransactionStatus) (now : IssuanceHistory) : Prop where
  led : Led issuePrice past now
  order : result.2.order = out.order
  prepared : result.2.dns01Prepared = out.dns01Prepared
  incomplete : result.2.completed = out.completed
  stored : result.2.certificate.stored = true ↔ StoredAfter now hostname
  issued : result.1 = .ok → result.2.certificate.stored = true

theorem challengeAndFinalize_meets {out : ProductionTransactionStatus}
    (due : TriggerDue past hostname out.order.challengeUrl)
    (placed : OrderPlaced past hostname out.order.finalizeUrl out.order.authorizationUrl out.order.orderUrl)
    (identifier : out.order.identifier = hostname) (unstored : ¬StoredAfter past hostname)
    (clear : out.certificate.stored = false) : (challengeAndFinalize out).Meets (MayCall hostname)
      (fun result now => Issued hostname out past result now) past := by
  simp only [challengeAndFinalize, meets_bind]
  refine (withOutput_meets (acmeClientValidateProductionDns01_gives due) (fun _ =>
    withWorker_spends (by simp) validateDns01Sync_spends) fun _ fails => fails).weaken ?_
  rintro ⟨err, validation⟩ middle ⟨led, valid, -⟩
  have still : ¬StoredAfter middle hostname := fun stored => unstored (led.storesNone rfl stored)
  have paid : Led issuePrice past middle := led.mono fun p => by
    simp only [issuePrice, pollPrice, acmePollAttempts]
    omega
  split
  next fails =>
    rw [meets_pure]
    exact ⟨paid, rfl, rfl, rfl, by simp [clear, still], fun ok => absurd ok fails⟩
  next ok =>
    obtain rfl : err = .ok := Decidable.not_not.mp ok
    split
    next invalid => exact absurd (valid rfl).1 invalid
    next =>
      rw [meets_bind]
      refine (withOutput_meets (acmeClientFinalizeProductionOrder_gives (placed.later led.extended) identifier
        (valid rfl).2) (fun _ => withWorker_spends ⟨by simp, rfl⟩ finalizeOrderSync_spends)
          fun _ fails => fails.1).weaken ?_
      rintro ⟨err, certificate⟩ now ⟨finalized, issued, refused⟩
      have paid : Led issuePrice past now := (led.trans finalized).mono fun p => by
        simp only [issuePrice, pollPrice, acmePollAttempts]
        omega
      by_cases ok : err = .ok
      · obtain ⟨stored, retrieved, isFinalized, after⟩ : certificate.stored = true ∧
          certificate.certificateRetrieved = true ∧ certificate.finalized = true ∧ _ := issued ok
        rw [if_neg (by simp [stored, retrieved, isFinalized]), meets_pure]
        exact ⟨paid, rfl, rfl, rfl, by simp [stored, after], fun _ => stored⟩
      · obtain ⟨none, -, clear⟩ : _ ∧ _ ∧ certificate.stored = false := refused ok
        rw [if_neg (by simp [ok]), meets_pure]
        have after : ¬StoredAfter now hostname := fun stored => still (none stored)
        exact ⟨paid, rfl, rfl, rfl, by simp [clear, after],
          fun is => absurd is ok⟩

structure Outcome (hostname : Bytes)
    (result : EspErr × ProductionTransactionStatus × RenewalDns01Context) (now : IssuanceHistory) : Prop where
  led : Led (fun p => 270 * p.request + p.create + p.delete + 130000 * p.millisecond + p.store) [] now
  completed : result.2.1.completed = true ↔ result.1 = .ok
  stage : result.2.1.stage = .complete ↔ result.1 = .ok
  cleaned : result.2.1.cleanupAttempted = result.2.1.dns01Prepared
  stored : result.2.1.certificate.stored = true ↔ StoredAfter now hostname
  accounted : Accounted now result.2.2
  ok : result.1 = .ok → result.2.1.certificate.stored = true ∧ result.2.2.recordCreated = false ∧
    ∃ zoneId recordId, RecordDeleted now zoneId recordId

theorem cleanUp_meets {err : EspErr} {out : ProductionTransactionStatus} {dns : RenewalDns01Context}
    (name : out.order.dns01RecordName = challengeRecordName hostname) (created : dns.recordCreated = true)
    (record : RecordCreated past dns.credentials.zoneId dns.recordId (challengeRecordName hostname)
      out.order.dns01Value) (accounted : Accounted past dns) (prepared : out.dns01Prepared = true)
    (incomplete : out.completed = false) (stored : out.certificate.stored = true ↔ StoredAfter past hostname)
    (issued : err = .ok → out.certificate.stored = true)
    (led : Led (fun p => 268 * p.request + p.create + 130000 * p.millisecond + p.store) [] past) :
    (cleanUp renewalHooks err out dns).Meets (MayCall hostname) (fun result now => Outcome hostname result now)
      past := by
  rw [cleanUp, meets_bind]
  refine (renewalDns01Cleanup_meets name created record accounted).weaken ?_
  rintro ⟨cleanupResult, context⟩ now ⟨cleaned, left, gone⟩
  have paid : Led (fun p => 270 * p.request + p.create + p.delete + 130000 * p.millisecond + p.store) [] now :=
    (led.trans cleaned).mono fun p => by omega
  have kept : out.certificate.stored = true ↔ StoredAfter now hostname :=
    stored.trans ⟨fun held => held.imp fun _ chain => chain.imp fun _ => cleaned.extended.mem, cleaned.storesNone rfl⟩
  dsimp only
  split
  next fails =>
    exact ⟨paid, by simp [incomplete, fails.2], by simp [fails.2], prepared.symm, kept, left,
      fun ok => absurd ok fails.2⟩
  next holds =>
    split
    next fails =>
      exact ⟨paid, by simp [incomplete, fails], by simp [fails], prepared.symm, kept, left,
        fun ok => absurd ok fails⟩
    next ok =>
      have ok : err = .ok := Decidable.not_not.mp ok
      obtain ⟨clear, deleted⟩ := gone (Decidable.not_not.mp fun fails => holds ⟨ok, fails⟩)
      exact ⟨paid, by simp, by simp, prepared.symm, kept, left, fun _ => ⟨issued ok, clear, _, _, deleted⟩⟩

theorem acmeClientProvisionProductionAccount_gives : Gives (MayCall hostname) (fun _ _ => True)
    (fun _ _ => True) acmeClientProvisionProductionAccount past :=
  withWorker_gives (fun _ _ => provisionAccountSync_gives) fun _ _ _ => trivial

theorem acmeClientDiscoverProductionOrder_gives : Gives (MayCall hostname)
    (fun order now => Discovered now hostname order) (fun _ _ => True)
    (acmeClientDiscoverProductionOrder hostname) past := by
  simp only [acmeClientDiscoverProductionOrder, gives_bind, gives_refuseIf, implies_true, true_and]
  intro valid
  rw [formatted_hostname (Decidable.not_not.mp valid)]
  exact withWorker_gives (fun _ _ => discoverOrderSync_gives) fun _ _ _ => trivial

theorem acmeClientDiscoverProductionOrder_spends {p : Prices} : Spends (price p) (9 * p.request) (fun _ => True)
    FailsWith (acmeClientDiscoverProductionOrder hostname) := by
  rw [acmeClientDiscoverProductionOrder]
  refine Spends.within (.bind (spends_refuseIf (by simp)) fun _ _ =>
    withWorker_spends (by simp) discoverOrderSync_spends) ?_
  omega

theorem Led.outcome_of_early {out : ProductionTransactionStatus} {dns : RenewalDns01Context} {err : EspErr}
    (led : Led budget [] now) (enough : ∀ p, budget p ≤ 270 * p.request + p.create + p.delete)
    (fails : err ≠ .ok) (accounted : Accounted now dns)
    (early : out.stage ≠ .complete ∧ out.completed = false ∧ out.cleanupAttempted = false ∧
      out.dns01Prepared = false ∧ out.certificate.stored = false) :
    Outcome hostname (err, out, dns) now := by
  obtain ⟨stage, completed, attempted, prepared, stored⟩ := early
  have none : ¬StoredAfter now hostname := by
    intro storedAfter
    obtain ⟨key, pem, member⟩ := led.storesNone (Nat.le_zero.mp (enough ⟨0, 0, 0, 0, 1⟩)) storedAfter
    cases member
  exact ⟨led.mono fun p => Nat.le_trans (enough p) (by omega), by simp [completed, fails], by simp [stage, fails],
    by simp [attempted, prepared], by simp [stored, none], accounted, fun ok => absurd ok fails⟩

theorem noRecord_of_led (led : Led budget [] now) (free : budget ⟨0, 1, 0, 0, 0⟩ = 0) : NoRecord now := by
  intro zoneId recordId name value created
  obtain ⟨headers, answer, member, -⟩ :=
    (led.adds_none free zoneId recordId name value created).resolve_right id
  cases member

theorem NoRecord.accounted {dns : RenewalDns01Context} (none : NoRecord now) : Accounted now dns :=
  fun zoneId recordId name value created => absurd created (none zoneId recordId name value)

theorem renewalTransaction_meets (hostname : Bytes) (credentials : CloudflareCredentials) :
    (renewalTransaction hostname credentials).Meets (MayCall hostname)
      (fun result now => Outcome hostname result now) [] := by
  rw [renewalTransaction, acmeClientRunProductionCertificateTransaction]
  dsimp only
  split
  next invalid =>
    exact led_self.outcome_of_early (by simp) (by simp) (noRecord_of_led led_self rfl).accounted
      ⟨by simp [ProductionTransactionStatus.zero], rfl, rfl, rfl, rfl⟩
  next =>
  rw [meets_bind]
  refine (withOutput_meets acmeClientProvisionProductionAccount_gives (fun _ =>
    withWorker_spends (by simp) provisionAccountSync_spends) fun _ fails => fails).weaken ?_
  rintro ⟨err, account⟩ first ⟨provisioned, -, -⟩
  dsimp only
  split
  next fails =>
    exact provisioned.outcome_of_early (fun p => by omega) fails (noRecord_of_led provisioned rfl).accounted
      ⟨by simp, rfl, rfl, rfl, rfl⟩
  next =>
  rw [meets_bind]
  refine (withOutput_meets acmeClientDiscoverProductionOrder_gives (fun _ =>
    acmeClientDiscoverProductionOrder_spends) fun _ fails => fails).weaken ?_
  rintro ⟨err, order⟩ second ⟨ordered, discovers, -⟩
  have led := provisioned.trans ordered
  have none := noRecord_of_led led rfl
  dsimp only
  split
  next fails =>
    exact led.outcome_of_early (fun p => by omega) fails none.accounted ⟨by simp, rfl, rfl, rfl, rfl⟩
  next ok =>
  have discovered : Discovered second hostname order := discovers (Decidable.not_not.mp ok)
  rw [meets_bind]
  refine (renewalDns01Prepare_meets discovered.recordName
    ⟨_, _, _, discovered.offered, discovered.proves, rfl⟩ none).weaken ?_
  rintro ⟨err, dns⟩ third prepared
  split
  next fails =>
    exact (led.trans (prepared.failed fails)).outcome_of_early (fun p => by omega) fails prepared.accounted
      ⟨by simp, rfl, rfl, rfl, rfl⟩
  next ok =>
  obtain ⟨readied, created, record, propagated⟩ := prepared.ready (Decidable.not_not.mp ok)
  have total := led.trans readied
  have held := discovered.later readied.extended
  have unstored : ¬StoredAfter third hostname := by
    intro stored
    obtain ⟨key, pem, member⟩ := total.storesNone rfl stored
    cases member
  rw [meets_bind]
  refine (challengeAndFinalize_meets ⟨_, _, held.offered, held.proves, propagated⟩ held.placed held.identifier
    unstored rfl).weaken ?_
  rintro ⟨err, out⟩ fourth issued
  have same : out.order = order := issued.order
  refine cleanUp_meets (same ▸ held.recordName) created ?_ (prepared.accounted.later issued.led rfl)
    issued.prepared issued.incomplete issued.stored issued.issued ?_
  · rw [prepared.credentials, same]
    exact record.later issued.led.extended
  · refine (total.trans issued.led).mono fun p => ?_
    simp only [issuePrice]
    omega

end

end NtsTimeServer.Proof
