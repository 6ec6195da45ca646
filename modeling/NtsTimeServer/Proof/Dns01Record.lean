import NtsTimeServer.Proof.AcmeOrder
import NtsTimeServer.Proof.IssuanceCosts

namespace NtsTimeServer.Proof
open Model Lib Interaction

def RecordDeleted (past : IssuanceHistory) (zoneId recordId : Bytes) : Prop :=
  ∃ headers answer earlier, past = ⟨.http ⟨.delete, recordUrl zoneId recordId, headers, none⟩, answer⟩ :: earlier ∧
    Approved answer

def RecordShown (past earlier : IssuanceHistory) (zoneId recordId name value : Bytes) : Prop :=
  ∃ headers answer, past = ⟨.http ⟨.get, recordUrl zoneId recordId, headers, none⟩, answer⟩ :: earlier ∧
    Shows answer name value

section
variable {hostname zoneId recordId value : Bytes} {credentials : CloudflareCredentials} {past : IssuanceHistory}

theorem cloudflareHttpRequest_gives {apiToken url : Bytes} {method : HttpMethod} {body : Option Bytes}
    (may : ∀ headers, MayCall hostname past (.http ⟨method, url, headers, body⟩)) : Gives (MayCall hostname)
      (fun result now => ∃ headers answer, now = ⟨.http ⟨method, url, headers, body⟩, answer⟩ :: past ∧
        result = (answer.cloudflare, answer.status) ∧ answer.client = true ∧ answer.err = .ok ∧
          answer.cloudflare.overflow = false)
      (fun _ now => now = past ∨ ∃ headers answer, now = ⟨.http ⟨method, url, headers, body⟩, answer⟩ :: past ∧
        ¬Approved answer) (cloudflareHttpRequest apiToken method url body) past := by
  simp only [cloudflareHttpRequest, gives_bind, gives_lift, gives_refuseIf, gives_ofOption, gives_pure,
    meets_call, meets_done]
  refine ⟨fun _ => .inl trivial, fun authorization _ => ⟨may _, fun answer => ⟨?_, fun client => ⟨?_, ?_⟩⟩⟩⟩
  · exact fun none => .inr ⟨_, answer, rfl, fun approved => none approved.1⟩
  · exact fun failed => .inr ⟨_, answer, rfl, fun approved => failed approved.2.1⟩
  · intro noError
    refine ⟨fun large => .inr ⟨_, answer, rfl, fun approved => ?_⟩, fun whole => ⟨_, answer, rfl, rfl, ?_⟩⟩
    · simp [approved.2.2.1] at large
    · exact ⟨by simpa using client, by simpa using noError, by simpa using whole⟩

theorem readJws_txtBody (name value : Bytes) : readJws (txtBody name value) = none := by
  have other : jwsMember (ascii "\x7b\"protected\":\"") (txtBody name value) = none := by
    simp only [txtBody, List.append_assoc]
    rfl
  rw [readJws, other, Option.bind_none]

theorem urlDue_records (zoneId rest : Bytes) : UrlDue past hostname (recordsUrl zoneId ++ rest) := by
  simp only [UrlDue, recordsUrl, List.append_assoc]
  exact .inl rfl

theorem zonesUrl_records (zoneId rest : Bytes) : zonesUrl <+: recordsUrl zoneId ++ rest := by
  simp only [recordsUrl, List.append_assoc]
  exact List.prefix_append ..

theorem mayCall_create {name : Bytes} {headers : List (Bytes × Bytes)}
    (due : RecordDue past hostname (txtBody name value)) :
    MayCall hostname past (.http ⟨.post, recordsUrl zoneId, headers, some (txtBody name value)⟩) := by
  have noPost : postedJws (.http ⟨.post, recordsUrl zoneId, headers, some (txtBody name value)⟩) = none := by
    rw [postedJws, readJws_txtBody, Option.map_none]
  refine ⟨?_, ?_, ?_, by simp [noPost], by simp [noPost], by simp [noPost], by simp, by simp, by simp, by simp⟩
  · rintro request ⟨⟩
    simpa using urlDue_records zoneId []
  · rintro request token ⟨⟩ _
    simpa using zonesUrl_records zoneId []
  · rintro url headers body same
    simp only [IssuanceCall.http.injEq, HttpRequest.mk.injEq] at same
    obtain ⟨-, -, -, rfl⟩ := same
    exact ⟨_, rfl, .inr due⟩

theorem recordsUrl_injective {zoneId other : Bytes} (same : recordsUrl zoneId = recordsUrl other) :
    zoneId = other :=
  List.append_cancel_left (List.append_cancel_right same)

def Deleted (past : IssuanceHistory) (zoneId recordId : Bytes) : Prop :=
  ∃ moment, moment <:+ past ∧ RecordDeleted moment zoneId recordId

theorem Deleted.later {now : IssuanceHistory}  (deleted : Deleted past zoneId recordId)
    (extended : past <:+ now) : Deleted now zoneId recordId :=
  deleted.imp fun _ held => ⟨held.1.trans extended, held.2⟩

def Adds (past now : IssuanceHistory) (made : Bytes → Bytes → Prop) : Prop :=
  ∀ zoneId recordId name value, RecordCreated now zoneId recordId name value →
    RecordCreated past zoneId recordId name value ∨ made zoneId recordId

theorem adds_of_create {name value : Bytes} {headers : List (Bytes × Bytes)} {answer : HttpAnswer} :
    Adds past (⟨.http ⟨.post, recordsUrl zoneId, headers, some (txtBody name value)⟩, answer⟩ :: past)
      fun zone record => zone = zoneId ∧ Approved answer ∧
        extractDnsRecordId (cString answer.cloudflare.data) = some record := by
  rintro zone record other content ⟨created, reply, member, approved, extracted⟩
  obtain same | earlier := List.mem_cons.mp member
  · simp only [Sigma.mk.injEq, IssuanceCall.http.injEq, HttpRequest.mk.injEq] at same
    obtain ⟨⟨-, atRecords, -, -⟩, replies⟩ := same
    obtain rfl := eq_of_heq replies
    exact .inr ⟨recordsUrl_injective atRecords, approved, extracted⟩
  · exact .inl ⟨created, reply, earlier, approved, extracted⟩

theorem Adds.trans {now last : IssuanceHistory} {made : Bytes → Bytes → Prop} (first : Adds past now made)
    (second : Adds now last fun _ _ => False) : Adds past last made :=
  fun zoneId recordId name value created =>
    first zoneId recordId name value ((second zoneId recordId name value created).resolve_right id)

theorem isCreate_txtBody (url name value : Bytes) (headers : List (Bytes × Bytes)) :
    isCreate ⟨.post, url, headers, some (txtBody name value)⟩ = true := by
  simp only [isCreate, txtBody, List.append_assoc]
  rfl

theorem Led.adds_none {now : IssuanceHistory} {budget : Prices → Nat} (led : Led budget past now) (free : budget ⟨0, 1, 0, 0, 0⟩ = 0) :
    Adds past now fun _ _ => False := by
  obtain ⟨⟨made, rfl⟩, paid⟩ := led
  have paid := paid ⟨0, 1, 0, 0, 0⟩
  rw [free, spent_append] at paid
  rintro zoneId recordId name value ⟨headers, answer, member, rest⟩
  obtain recent | earlier := List.mem_append.mp member
  · have one := @le_spent _ _ (price ⟨0, 1, 0, 0, 0⟩) made _ recent
    simp only [price, isCreate_txtBody, if_true] at one
    omega
  · exact .inl ⟨headers, answer, earlier, rest⟩

theorem cloudflareCreateDns01TxtSync_gives {name : Bytes} (due : RecordDue past hostname (txtBody name value)) :
    Gives (MayCall hostname)
    (fun recordId now => RecordCreated now credentials.zoneId recordId name value ∧
      Adds past now fun zone record => zone = credentials.zoneId ∧ record = recordId)
    (fun _ now => Adds past now fun _ _ => False) (cloudflareCreateDns01TxtSync credentials name value) past := by
  have unchanged : Adds past past fun _ _ => False := fun _ _ _ _ created => .inl created
  simp only [cloudflareCreateDns01TxtSync, gives_bind, gives_refuseIf, gives_ofOption]
  refine ⟨fun _ => unchanged, fun _ => ⟨fun _ => unchanged, fun url atRecords => ⟨fun _ => unchanged, ?_⟩⟩⟩
  intro body fits
  obtain rfl := (printed_eq atRecords).1
  obtain rfl := (printed_eq fits).1
  refine (cloudflareHttpRequest_gives fun _ => mayCall_create due).weaken ?_ ?_
  · rintro _ _ ⟨headers, answer, rfl, rfl, client, noError, whole⟩
    have adds := @adds_of_create credentials.zoneId past name value headers answer
    refine ⟨fun refused zone record other content created => ?_, fun approved => ⟨fun unread => ?_, ?_⟩⟩
    · refine (adds zone record other content created).imp id fun made => ?_
      exact refused.elim (fun status => status made.2.1.2.2.2.1) fun failed => failed made.2.1.2.2.2.2
    · intro zone record other content created
      refine (adds zone record other content created).imp id fun made => ?_
      simp [unread] at made
    · simp only [not_or, Decidable.not_not] at approved
      intro recordId extracted
      refine ⟨⟨headers, answer, List.mem_cons_self .., ⟨client, noError, whole, approved⟩, extracted⟩, ?_⟩
      · intro zone record other content created
        refine (adds zone record other content created).imp id fun made => ⟨made.1, ?_⟩
        exact Option.some.inj (made.2.2.symm.trans extracted)
  · rintro _ _ (rfl | ⟨headers, answer, rfl, refused⟩)
    · exact unchanged
    · intro zone record other content created
      refine (adds_of_create zone record other content created).imp id fun made => refused made.2.1

theorem cloudflareVerifyDns01TxtContentSync_gives {name : Bytes} : Gives (MayCall hostname)
    (fun _ now => RecordShown now past credentials.zoneId recordId name value)
    (fun _ _ => True) (cloudflareVerifyDns01TxtContentSync credentials recordId name value) past := by
  simp only [cloudflareVerifyDns01TxtContentSync, gives_bind, gives_refuseIf, gives_ofOption, implies_true,
    true_and]
  intro _ url atRecord
  obtain rfl := (printed_eq atRecord).1
  refine (cloudflareHttpRequest_gives fun _ => mayCall_of_reads (.inl rfl) (urlDue_records _ _) fun _ _ =>
    zonesUrl_records _ _).weaken ?_ fun _ _ _ => trivial
  rintro _ _ ⟨headers, answer, rfl, rfl, client, noError, whole⟩ approved expected
  simp only [not_or, Decidable.not_not] at approved expected
  exact ⟨headers, answer, rfl, ⟨client, noError, whole, approved⟩, expected⟩

theorem cloudflareDeleteDns01TxtContentSync_gives
    (created : RecordCreated past credentials.zoneId recordId (challengeRecordName hostname) value) :
    Gives (MayCall hostname) (fun _ now => RecordDeleted now credentials.zoneId recordId) (fun _ _ => True)
      (cloudflareDeleteDns01TxtContentSync credentials recordId (challengeRecordName hostname) value) past := by
  simp only [cloudflareDeleteDns01TxtContentSync, gives_bind, gives_refuseIf, gives_ofOption, implies_true,
    true_and]
  intro _ url atRecord
  obtain rfl := (printed_eq atRecord).1
  refine cloudflareVerifyDns01TxtContentSync_gives.weaken ?_ fun _ _ _ => trivial
  rintro _ _ ⟨shownHeaders, shown, rfl, shows⟩
  refine (cloudflareHttpRequest_gives fun headers => ?_).weaken ?_ fun _ _ _ => trivial
  · refine ⟨?_, ?_, by simp, by simp [postedJws], by simp [postedJws], by simp [postedJws], ?_, by simp, by simp,
      by simp⟩
    · rintro request ⟨⟩
      exact urlDue_records _ _
    · rintro request token ⟨⟩ _
      exact zonesUrl_records _ _
    intro url headers body same
    cases same
    exact ⟨_, _, value, shownHeaders, shown, past, rfl, rfl, shows, created⟩
  · rintro _ _ ⟨headers, answer, rfl, rfl, client, noError, whole⟩ approved
    simp only [not_or, Decidable.not_not] at approved
    exact ⟨headers, answer, _, rfl, client, noError, whole, approved⟩

theorem withCloudflareWorker_gives {α : Type} {fits : Bool} {program : Acme (EspErr × Int) α}
    {post : α → IssuanceHistory → Prop} {fail : EspErr × Int → IssuanceHistory → Prop}
    (gives : ∀ now, Led (fun _ => 0) past now → Gives (MayCall hostname) post fail program now)
    (refused : ∀ err now, Led (fun _ => 0) past now → fail err now) :
    Gives (MayCall hostname) post fail (withCloudflareWorker fits program) past := by
  have led (allocated : Bool) : Led (fun _ => 0) past (⟨.calloc, allocated⟩ :: past) :=
    ⟨List.suffix_cons .., by simp [spent, price]⟩
  simp only [withCloudflareWorker, gives_bind, gives_lift, gives_refuseIf, meets_call, meets_done]
  refine ⟨mayCall_of_asksNothing rfl, fun context => ⟨fun _ => refused _ _ (led context), fun _ => ?_⟩⟩
  refine ⟨fun _ => refused _ _ (led context), fun _ => ⟨mayCall_of_asksNothing rfl, fun task => ?_⟩⟩
  have started : Led (fun _ => 0) past (⟨.taskCreate, task⟩ :: ⟨.calloc, context⟩ :: past) :=
    ⟨⟨[_, _], rfl⟩, by simp [spent, price]⟩
  exact ⟨fun _ => refused _ _ started, fun _ => gives _ started⟩

/-! ## The client -/

theorem cloudflareClientCreateDns01Txt_meets {name : Bytes} (due : RecordDue past hostname (txtBody name value)) :
    (cloudflareClientCreateDns01Txt credentials name value).run.Meets (MayCall hostname) (fun result now =>
      Led (fun p => p.request + p.create) past now ∧ match result with
        | .error failed => FailsWith failed ∧ Adds past now fun _ _ => False
        | .ok recordId => RecordCreated now credentials.zoneId recordId name value ∧
            Adds past now fun zone record => zone = credentials.zoneId ∧ record = recordId) past := by
  have gives : Gives (MayCall hostname) (fun recordId now =>
      RecordCreated now credentials.zoneId recordId name value ∧
        Adds past now fun zone record => zone = credentials.zoneId ∧ record = recordId)
      (fun _ now => Adds past now fun _ _ => False) (cloudflareClientCreateDns01Txt credentials name value)
      past := by
    refine withCloudflareWorker_gives (fun start led => ?_) fun err now led => led.adds_none rfl
    have before : Adds past start fun _ _ => False := led.adds_none rfl
    refine (cloudflareCreateDns01TxtSync_gives (due.later led.extended)).weaken ?_ ?_
    · rintro recordId now ⟨created, adds⟩
      refine ⟨created, fun zone record other content made => ?_⟩
      exact (adds zone record other content made).imp_left fun old =>
        (before zone record other content old).resolve_right id
    · exact fun err now adds => before.trans adds
  have creates := led_of_gives gives fun _ => withCloudflareWorker_spends cloudflareCreateDns01TxtSync_spends
  unfold Gives at creates
  refine creates.weaken ?_
  intro result now met
  cases result with
  | error failed => exact ⟨met.2.2, met.2.1, met.1⟩
  | ok recordId => exact ⟨met.2, met.1⟩

theorem cloudflareClientVerifyDns01TxtContent_meets (name : Bytes) :
    (cloudflareClientVerifyDns01TxtContent credentials recordId name value).run.Meets (MayCall hostname)
      (fun result now => Led (fun p => p.request) past now ∧ match result with
        | .error failed => FailsWith failed
        | .ok _ => ∃ earlier, past <:+ earlier ∧
            RecordShown now earlier credentials.zoneId recordId name value) past := by
  have gives : Gives (MayCall hostname) (fun _ now => ∃ earlier, past <:+ earlier ∧
      RecordShown now earlier credentials.zoneId recordId name value) (fun _ _ => True)
      (cloudflareClientVerifyDns01TxtContent credentials recordId name value) past := by
    refine withCloudflareWorker_gives (fun start led => ?_) fun _ _ _ => trivial
    refine cloudflareVerifyDns01TxtContentSync_gives.weaken ?_ fun _ _ _ => trivial
    exact fun _ now shown => ⟨start, led.extended, shown⟩
  have shows := led_of_gives gives fun _ =>
    withCloudflareWorker_spends cloudflareVerifyDns01TxtContentSync_spends
  unfold Gives at shows
  refine shows.weaken ?_
  intro result now met
  cases result with
  | error failed => exact ⟨met.2.2, met.2.1⟩
  | ok _ => exact ⟨met.2, met.1⟩

theorem cloudflareClientDeleteDns01TxtContent_meets
    (created : RecordCreated past credentials.zoneId recordId (challengeRecordName hostname) value) :
    (cloudflareClientDeleteDns01TxtContent credentials recordId (challengeRecordName hostname) value).run.Meets
      (MayCall hostname) (fun result now => Led (fun p => 2 * p.request + p.delete) past now ∧
        match result with
        | .error failed => FailsWith failed
        | .ok _ => RecordDeleted now credentials.zoneId recordId) past := by
  have gives : Gives (MayCall hostname) (fun _ now => RecordDeleted now credentials.zoneId recordId)
      (fun _ _ => True)
      (cloudflareClientDeleteDns01TxtContent credentials recordId (challengeRecordName hostname) value) past :=
    withCloudflareWorker_gives
      (fun _ led => cloudflareDeleteDns01TxtContentSync_gives (created.later led.extended)) fun _ _ _ => trivial
  have deletes := led_of_gives gives fun _ =>
    withCloudflareWorker_spends cloudflareDeleteDns01TxtContentSync_spends
  unfold Gives at deletes
  refine deletes.weaken ?_
  intro result now met
  cases result with
  | error failed => exact ⟨met.2.2, met.2.1⟩
  | ok _ => exact ⟨met.2, met.1⟩

end

end NtsTimeServer.Proof
