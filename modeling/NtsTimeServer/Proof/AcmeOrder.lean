import NtsTimeServer.Proof.AcmeAccount
import NtsTimeServer.Proof.CertReplacement

namespace NtsTimeServer.Proof
open Model Lib Interaction

variable {hostname : Bytes} {past : IssuanceHistory}

theorem payloadDue_of_third {url payload : Bytes} (secure : UrlDue past hostname url)
    (notTrigger : payload.length ≠ 2) (notFinalize : payload[2]? ≠ some 0x63) :
    PayloadDue hostname past url payload := by
  refine ⟨secure, fun same => absurd (congrArg List.length same) notTrigger, fun csr64 same =>
    absurd ?_ notFinalize⟩
  rw [same, finalizePayload, ascii]
  rfl

theorem emptyPayload_due {url : Bytes} (secure : UrlDue past hostname url) : PayloadDue hostname past url [] :=
  payloadDue_of_third secure (by decide) (by decide)

theorem newOrderPayload_due {url : Bytes} (https : isHttpsUrl url = true) :
    PayloadDue hostname past url (newOrderPayload hostname) := by
  have opening : 20 ≤ (ascii "\x7b\"identifiers\":[\x7b\"type\":\"dns\",\"value\":\"").length := by decide
  refine payloadDue_of_third (.inl https) ?_ ?_
  · simp only [newOrderPayload, List.length_append]
    omega
  · rw [newOrderPayload, List.append_assoc, List.getElem?_append_left (by omega)]
    decide

theorem loadAccount_gives : Gives (MayCall hostname) (fun result now => Account now result.1 result.2)
    (fun _ _ => True) (loadAccount true) past := by
  simp only [loadAccount, gives_bind, gives_lift, gives_refuseIf, gives_failing, gives_pure, meets_call,
    meets_done, implies_true, true_and]
  refine ⟨mayCall_of_asksNothing rfl, fun answer _ => ?_⟩
  refine acmeStorageLoadPrivateKey_gives.weaken ?_ fun _ _ _ => trivial
  intro key start known
  refine loadAccountUrl_gives.extends.weaken ?_ fun _ _ _ => trivial
  rintro kid now ⟨found, extended⟩ https
  exact ⟨known.later extended, found, by simpa using https⟩

theorem placeOrder_gives {directory : AcmeDirectoryStatus} {key kid : Bytes} {out : AcmeOrderDiscovery}
    (urls : HttpsDirectory directory) (account : Account past key kid)
    (short : (newOrderPayload hostname).length < 2 ^ 31) :
    Gives (MayCall hostname) (fun placed now =>
      OrderPlaced now hostname placed.finalizeUrl placed.authorizationUrl placed.orderUrl ∧
        placed.identifier = out.identifier ∧ past <:+ now) (fun _ _ => True)
      (placeOrder directory key kid (newOrderPayload hostname) out) past := by
  simp only [placeOrder, gives_bind, gives_refuseIf, gives_ofOption, gives_failing, gives_pure, implies_true,
    true_and]
  refine (signedRequest_gives short urls.newNonce account (newOrderPayload_due urls.newOrder)).weaken ?_ fun _ _ _ => trivial
  rintro ⟨response, status⟩ now ⟨received, extended⟩ accepted finalizeUrl isFinalize authorizationUrl isFirst
  simp only [not_or, not_not] at accepted
  obtain ⟨created, -⟩ := accepted
  obtain rfl : status = 201 := created
  exact ⟨⟨_, response, received, isFinalize, isFirst, rfl⟩, extended⟩

theorem readAuthorization_gives {directory : AcmeDirectoryStatus} {key kid : Bytes}
    {out : AcmeOrderDiscovery} (urls : HttpsDirectory directory) (account : Account past key kid)
    (secure : UrlDue past hostname out.authorizationUrl) : Gives (MayCall hostname) (fun read now => Offered now hostname read.challengeUrl read.challengeToken ∧
      read = { out with
        authorizationHttpStatus := read.authorizationHttpStatus, challengeUrl := read.challengeUrl,
        challengeToken := read.challengeToken, challengeStatus := read.challengeStatus } ∧
      past <:+ now) (fun _ _ => True) (readAuthorization directory key kid hostname out) past := by
  simp only [readAuthorization, gives_bind, gives_refuseIf, gives_ofOption, gives_failing, gives_pure,
    implies_true, true_and]
  refine (signedRequest_gives (by decide) urls.newNonce account (emptyPayload_due secure)).weaken ?_ fun _ _ _ => trivial
  rintro ⟨response, status⟩ now ⟨received, extended⟩ accepted challenge found identifier named matches'
  obtain rfl : status = 200 := Decidable.not_not.mp accepted
  simp only [not_or, not_not] at matches'
  obtain ⟨rfl, https⟩ := matches'
  exact ⟨⟨_, response, challenge, received, found, rfl, rfl, named⟩, extended⟩

theorem deriveDns01_gives {key : Bytes} {out : AcmeOrderDiscovery} (known : AccountKey past key) :
    Gives (MayCall hostname) (fun derived now => Proves now derived.challengeToken derived.dns01Value ∧
      derived = { out with
        dns01Value := derived.dns01Value, dns01RecordName := challengeRecordName hostname,
        discovered := true } ∧ past <:+ now) (fun _ _ => True) (deriveDns01 key hostname out) past := by
  simp only [deriveDns01, gives_bind, gives_ofOption, gives_ofResult, gives_pure, implies_true, true_and]
  refine (buildJwkAndThumbprint_gives key).extends.weaken ?_ fun _ _ _ => trivial
  rintro ⟨jwk, thumbprint⟩ start ⟨⟨isJwk, digest, hashed, rfl⟩, extended⟩ keyAuthorization fits
  obtain rfl := (printed_eq fits).1
  refine (sha256Bytes_gives _).weaken ?_ fun _ _ _ => trivial
  rintro challenge _ ⟨rfl, length⟩ value encoded name named
  obtain rfl := (printed_eq named).1
  obtain rfl := base64urlString_eq (by omega) (by decide) encoded
  have later : start <:+ ⟨.sha256 (out.challengeToken ++ 0x2E :: urlSafeAlphabet.encode digest),
    some challenge⟩ :: start := List.suffix_cons ..
  exact ⟨⟨key, jwk, digest, challenge, known.later (extended.trans later), isJwk.later later,
    later.mem hashed, List.mem_cons_self .., rfl⟩, rfl, extended.trans later⟩

structure Discovered (past : IssuanceHistory) (hostname : Bytes) (order : AcmeOrderDiscovery) : Prop where
  placed : OrderPlaced past hostname order.finalizeUrl order.authorizationUrl order.orderUrl
  offered : Offered past hostname order.challengeUrl order.challengeToken
  proves : Proves past order.challengeToken order.dns01Value
  recordName : order.dns01RecordName = challengeRecordName hostname
  identifier : order.identifier = hostname

theorem Discovered.later {now : IssuanceHistory} {order : AcmeOrderDiscovery}
    (discovered : Discovered past hostname order) (extended : past <:+ now) : Discovered now hostname order :=
  { discovered with
    placed := discovered.placed.later extended
    offered := discovered.offered.later extended
    proves := discovered.proves.later extended }

theorem formatted_hostname (valid : dnsNameIsValid hostname = true) :
    formatted (acmeDnsNameMaxLength + 1) hostname = hostname := by
  have short := (dnsNameIsValid_length valid).2
  exact List.take_of_length_le short

theorem discoverOrderSync_gives : Gives (MayCall hostname)
    (fun order now => Discovered now hostname order) (fun _ _ => True) (discoverOrderSync true hostname) past := by
  simp only [discoverOrderSync, gives_bind, gives_lift, gives_refuseIf, gives_ofOption, gives_failing,
    meets_call, meets_done, implies_true, true_and]
  intro valid
  rw [Decidable.not_not] at valid
  refine loadAccount_gives.weaken ?_ fun _ _ _ => trivial
  rintro ⟨key, kid⟩ first account
  refine (probeSync_gives true).extends.weaken ?_ fun _ _ _ => trivial
  rintro directory second ⟨urls, probed⟩ payload fits
  obtain rfl := (printed_eq fits).1
  have short : (newOrderPayload hostname).length < 2 ^ 31 := (printed_eq fits).2.trans (by decide)
  refine ⟨mayCall_of_asksNothing rfl, fun answer _ => ?_⟩
  have held := account.later (probed.trans (List.suffix_cons ⟨.calloc, answer⟩ second))
  refine (placeOrder_gives urls held short).weaken ?_ fun _ _ _ => trivial
  rintro ordered third ⟨placed, identifier, later⟩
  refine (readAuthorization_gives urls (held.later later) (.inr ⟨_, _, placed⟩)).weaken ?_ fun _ _ _ => trivial
  rintro read fourth ⟨offered, isRead, after⟩
  refine (deriveDns01_gives (held.later (later.trans after)).known).weaken ?_ fun _ _ _ => trivial
  rintro derived last ⟨proves, isDerived, ended⟩
  rw [isRead] at isDerived
  rw [isDerived] at proves ⊢
  exact ⟨placed.later (after.trans ended), offered.later ended, proves, rfl,
    identifier.trans (formatted_hostname valid)⟩

/-! ## The challenge -/

def Authorized (past : IssuanceHistory) (authorizationUrl : Bytes) : Prop :=
  ∃ response parsed, Received past authorizationUrl [] response 200 ∧
    parseAuthorizationStatus (cString response.data) 24 24 = .ok parsed ∧ parsed.authorization = ascii "valid"

theorem pollAuthorization_gives {nonceUrl authorizationUrl kid key : Bytes} {left : Nat}
    {out : AcmeChallengeValidation} (https : isHttpsUrl nonceUrl = true)
    (secure : isHttpsUrl authorizationUrl = true) (account : Account past key kid) : Gives (MayCall hostname)
      (fun validation now => validation.valid = true ∧ Authorized now authorizationUrl) (fun _ _ => True)
      (pollAuthorization nonceUrl authorizationUrl kid key left out) past := by
  induction left generalizing past out with
  | zero => exact (gives_throw _).mpr trivial
  | succ left ih =>
      simp only [pollAuthorization, gives_bind, gives_lift, gives_refuseIf, gives_ofResult, gives_failing,
        meets_call, meets_done, implies_true, true_and]
      refine ⟨mayCall_of_asksNothing rfl, fun answer => ?_⟩
      have held := account.later (List.suffix_cons ⟨.taskDelay 2000, answer⟩ past)
      refine (signedRequest_gives (by decide) https held (emptyPayload_due (.inl secure))).weaken ?_ fun _ _ _ => trivial
      rintro ⟨response, status⟩ now ⟨received, extended⟩ accepted parsed isParsed
      obtain rfl : status = 200 := Decidable.not_not.mp accepted
      split
      next valid => exact (gives_pure _).mpr ⟨rfl, response, parsed, received, isParsed, valid⟩
      next =>
        split
        · exact (gives_throw _).mpr trivial
        · exact ih (held.later extended)

theorem validateDns01Sync_gives {order : AcmeOrderDiscovery}
    (due : TriggerDue past hostname order.challengeUrl) : Gives (MayCall hostname)
      (fun validation now => validation.valid = true ∧ Authorized now order.authorizationUrl)
      (fun _ _ => True) (validateDns01Sync true order) past := by
  simp only [validateDns01Sync, gives_bind, gives_lift, gives_refuseIf, gives_failing, meets_call, meets_done,
    implies_true, true_and]
  intro holds
  simp only [not_or, Decidable.not_not] at holds
  refine loadAccount_gives.extends.weaken ?_ fun _ _ _ => trivial
  rintro ⟨key, kid⟩ first ⟨account, loaded⟩
  refine (probeSync_gives true).extends.weaken ?_ fun _ _ _ => trivial
  rintro directory second ⟨urls, probed⟩
  refine ⟨mayCall_of_asksNothing rfl, fun answer _ => ?_⟩
  have later := probed.trans (List.suffix_cons ⟨.calloc, answer⟩ second)
  have asks : PayloadDue hostname (⟨.calloc, answer⟩ :: second) order.challengeUrl triggerPayload := by
    refine ⟨.inl holds.2.1, fun _ => due.later (loaded.trans later), fun csr64 same => ?_⟩
    exact absurd (congrArg (·[2]?) same) (by simp [triggerPayload, finalizePayload, ascii])
  refine (signedRequest_gives (by decide) urls.newNonce (account.later later) asks).weaken ?_ fun _ _ _ => trivial
  rintro ⟨response, status⟩ now ⟨-, extended⟩ _
  exact pollAuthorization_gives urls.newNonce holds.2.2 ((account.later later).later extended)

/-! ## The certificate -/

theorem certificateRequest_gives : Gives (MayCall hostname)
    (fun result now => Requests509 now hostname result.1 result.2 ∧ result.2.length < 2 ^ 31) (fun _ _ => True)
    (certificateRequest hostname) past := by
  simp only [certificateRequest, generateCertificateKey, gives_bind, gives_lift, gives_refuseIf, gives_ofOption,
    gives_ofResult, gives_pure, meets_call, meets_done, implies_true, true_and]
  refine ⟨mayCall_of_asksNothing rfl, fun generated key isKey => ⟨mayCall_of_asksNothing rfl, ?_⟩⟩
  intro exported publicKey isPublic lengths
  simp only [not_or, Decidable.not_not] at lengths
  refine ⟨mayCall_of_asksNothing rfl, fun built isBuilt csr64 encoded payload fits => ?_⟩
  obtain ⟨err, csr⟩ := built
  obtain rfl : err = .ok := Decidable.not_not.mp isBuilt
  refine ⟨⟨lengths.1, publicKey, csr, csr64, ?_, ?_, List.mem_cons_self .., encoded, (printed_eq fits).1⟩, ?_⟩
  · simp [isKey]
  · simp [isPublic]
  · rw [(printed_eq fits).1]
    exact (printed_eq fits).2.trans (by decide)

def CertificateNamed (past : IssuanceHistory) (orderUrl certificateUrl : Bytes) : Prop :=
  ∃ order, Received past orderUrl [] order 200 ∧
    extractJsonString (cString order.data) (ascii "status") 24 = some (ascii "valid") ∧
      httpsMember (cString order.data) "certificate" = some certificateUrl

theorem pollOrder_gives {nonceUrl orderUrl kid key : Bytes} {left : Nat} {out : AcmeCertificateIssueStatus}
    {finalized : Bool} (https : isHttpsUrl nonceUrl = true) (secure : isHttpsUrl orderUrl = true)
    (account : Account past key kid) (same : out.finalized = finalized) : Gives (MayCall hostname)
      (fun issued now => CertificateNamed now orderUrl issued.certificateUrl ∧ issued.finalized = finalized)
      (fun _ _ => True) (pollOrder nonceUrl orderUrl kid key left out) past := by
  induction left generalizing past out with
  | zero => exact (gives_throw _).mpr trivial
  | succ left ih =>
      simp only [pollOrder, gives_bind, gives_lift, gives_refuseIf, gives_ofOption, gives_failing,
        meets_call, meets_done, implies_true, true_and]
      refine ⟨mayCall_of_asksNothing rfl, fun answer => ?_⟩
      have held := account.later (List.suffix_cons ⟨.taskDelay 2000, answer⟩ past)
      refine (signedRequest_gives (by decide) https held (emptyPayload_due (.inl secure))).weaken ?_ fun _ _ _ => trivial
      rintro ⟨response, status⟩ now ⟨received, extended⟩ accepted orderStatus isStatus
      obtain rfl : status = 200 := Decidable.not_not.mp accepted
      split
      next valid =>
        simp only [gives_bind, gives_ofOption, gives_pure, implies_true, true_and]
        intro certificateUrl named
        rw [valid] at isStatus
        exact ⟨⟨response, received, isStatus, named⟩, same⟩
      next =>
        split
        · exact (gives_throw _).mpr trivial
        · exact ih (held.later extended) same

def StoredAfter (past : IssuanceHistory) (hostname : Bytes) : Prop :=
  ∃ key pem, ⟨.storeCertificate true hostname key pem, EspErr.ok⟩ ∈ past

theorem retrieveCertificate_gives {nonceUrl kid key certKey payload finalizeUrl authorizationUrl
    orderUrl : Bytes} {finalized : AcmeResponse} {out : AcmeCertificateIssueStatus}
    (https : isHttpsUrl nonceUrl = true) (account : Account past key kid)
    (placed : OrderPlaced past hostname finalizeUrl authorizationUrl orderUrl)
    (requests : Requests509 past hostname certKey payload)
    (accepted : Received past finalizeUrl payload finalized 200)
    (named : CertificateNamed past orderUrl out.certificateUrl) : Gives (MayCall hostname)
      (fun issued now => issued.stored = true ∧ issued.certificateRetrieved = true ∧
        issued.finalized = out.finalized ∧ StoredAfter now hostname) (fun _ _ => True)
      (retrieveCertificate true nonceUrl kid key certKey hostname out) past := by
  simp only [retrieveCertificate, gives_bind, gives_lift, gives_refuseIf, gives_failing, gives_pure, meets_call,
    meets_done, implies_true, true_and]
  obtain ⟨order, polled, valid, names⟩ := named
  refine (signedRequest_gives (by decide) https account
    (emptyPayload_due (.inl (httpsMember_https names)))).weaken ?_ fun _ _ _ => trivial
  rintro ⟨response, status⟩ now ⟨received, extended⟩ holds
  simp only [not_or, Decidable.not_not] at holds
  obtain ⟨ok, -, begins⟩ := holds
  obtain rfl : status = 200 := ok
  refine ⟨mayCall_of_store ?_, ?_⟩
  · exact ⟨payload, finalizeUrl, authorizationUrl, orderUrl, out.certificateUrl, finalized, order,
      response, placed.later extended, requests.later extended, accepted.later extended,
      polled.later extended, valid, names, received, rfl, begins⟩
  · intro answer stored
    obtain rfl : answer = .ok := Decidable.not_not.mp stored
    exact ⟨certKey, response.data, List.mem_cons_self ..⟩

theorem finalizeOrderSync_gives {order : AcmeOrderDiscovery}
    (placed : OrderPlaced past hostname order.finalizeUrl order.authorizationUrl order.orderUrl)
    (identifier : order.identifier = hostname) (authorized : Authorized past order.authorizationUrl) :
    Gives (MayCall hostname) (fun issued now => issued.stored = true ∧ issued.certificateRetrieved = true ∧
      issued.finalized = true ∧ StoredAfter now hostname) (fun _ _ => True)
      (finalizeOrderSync true order) past := by
  simp only [finalizeOrderSync, gives_bind, gives_lift, gives_refuseIf, gives_failing, meets_call, meets_done,
    implies_true, true_and]
  intro holds
  simp only [not_or, Decidable.not_not] at holds
  rw [identifier]
  refine loadAccount_gives.extends.weaken ?_ fun _ _ _ => trivial
  rintro ⟨key, kid⟩ first ⟨account, loaded⟩
  refine certificateRequest_gives.extends.weaken ?_ fun _ _ _ => trivial
  rintro ⟨certKey, payload⟩ second ⟨⟨requests, short⟩, requested⟩
  refine (probeSync_gives true).extends.weaken ?_ fun _ _ _ => trivial
  rintro directory third ⟨urls, probed⟩
  refine ⟨mayCall_of_asksNothing rfl, fun answer _ => ?_⟩
  have probed := probed.trans (List.suffix_cons ⟨.calloc, answer⟩ third)
  have later := (loaded.trans requested).trans probed
  have asks : PayloadDue hostname (⟨.calloc, answer⟩ :: third) order.finalizeUrl payload := by
    obtain ⟨response, parsed, received, isParsed, valid⟩ := authorized
    obtain ⟨-, publicKey, csr, csr64, -, -, -, -, rfl⟩ := requests
    refine ⟨.inl holds.2.2.1, fun same => absurd (congrArg (·[2]?) same) (by simp [triggerPayload, finalizePayload, ascii]),
      fun csr64 _ => ⟨order.authorizationUrl, order.orderUrl, response, parsed, placed.later later,
        received.later later, isParsed, valid⟩⟩
  have held := account.later (requested.trans probed)
  refine (signedRequest_gives short urls.newNonce held asks).weaken ?_ fun _ _ _ => trivial
  rintro ⟨finalized, status⟩ fourth ⟨received, extended⟩ accepted
  obtain rfl : status = 200 := Decidable.not_not.mp accepted
  refine (pollOrder_gives urls.newNonce holds.2.1 (held.later extended) rfl).extends.weaken ?_ fun _ _ _ => trivial
  rintro issued last ⟨⟨named, isFinalized⟩, polled⟩
  refine (retrieveCertificate_gives urls.newNonce ((held.later extended).later polled)
    (placed.later ((later.trans extended).trans polled)) (requests.later ((probed.trans extended).trans polled))
    (received.later polled) named).weaken ?_ fun _ _ _ => trivial
  rintro kept now ⟨isStored, retrieved, same, stored⟩
  exact ⟨isStored, retrieved, same.trans isFinalized, stored⟩

end NtsTimeServer.Proof
