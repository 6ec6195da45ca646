import NtsTimeServer.Proof.SignedRequest

/-!
# What an issuance costs

The most that the functions of an issuance ask for, whatever the answers are, and that none of them fails
with `ESP_OK`.
-/

namespace NtsTimeServer.Proof
open Model Lib Interaction

structure Prices where
  request : Nat
  create : Nat
  delete : Nat
  millisecond : Nat
  store : Nat

def isCreate (request : HttpRequest) : Bool :=
  request.method = .post && (ascii "\x7b\"type\":\"TXT\"").isPrefixOf (request.body.getD [])

def price (p : Prices) : IssuanceCall → Nat
  | .http request => p.request + (if isCreate request then p.create else 0) +
      if request.method = .delete then p.delete else 0
  | .taskDelay milliseconds => milliseconds * p.millisecond
  | .storeCertificate _ _ _ _ => p.store
  | _ => 0

abbrev Fails (err : EspErr) : Prop := err ≠ .ok

abbrev FailsWith {Out : Type} (failed : EspErr × Out) : Prop := failed.1 ≠ .ok

section
variable {p : Prices}

/-! ## Requests to an ACME server -/

theorem memcpy_fault {target source : Bytes} {offset count : Nat} {halt : Halt EspErr}
    (failed : memcpy target offset source count = .error halt) : halt = .fault := by
  rw [memcpy] at failed
  split at failed
  · exact (Except.error.inj failed).symm
  · cases failed

theorem putAlphabet_fault {output : Bytes} {out : Nat} {indices : List Nat} {halt : Halt EspErr}
    (failed : putAlphabet output out indices = .error halt) : halt = .fault := by
  induction indices generalizing output out with
  | nil => cases failed
  | cons index rest ih =>
      rw [putAlphabet] at failed
      exact fault_of_bind memcpy_fault (fun _ => ih) failed

theorem base64urlGroups_fault {input output : Bytes} {out : Nat} {halt : Halt EspErr}
    (failed : base64urlGroups input output out = .error halt) : halt = .fault := by
  fun_induction base64urlGroups input output out with
  | case1 => cases failed
  | case2 => exact putAlphabet_fault failed
  | case3 => exact putAlphabet_fault failed
  | case4 =>
      next ih => exact fault_of_bind putAlphabet_fault (fun written => ih written.1 written.2) failed

theorem base64urlString_fails {input : Bytes} {size : Nat} :
    ∀ err, base64urlString input size = .error err → Fails err := by
  rintro _ failed rfl
  rw [base64urlString] at failed
  split at failed
  next => cases failed
  next err halted =>
    obtain rfl : err = .ok := by simpa using failed
    rw [base64url] at halted
    split at halted
    · cases halted
    · split at halted
      · cases halted
      · cases fault_of_bind base64urlGroups_fault (fun _ => memcpy_fault) halted
  next => cases failed

theorem sha256Bytes_spends (data : Bytes) : Spends (price p) 0 (fun _ => True) Fails (sha256Bytes data) := by
  rw [sha256Bytes]
  refine Spends.within (.bind (spends_ask (IssuanceCall.sha256 data)) fun _ _ =>
    .bind (spends_ofOption (by simp)) fun _ _ => .bind (spends_refuseIf (by simp)) fun _ _ =>
      spends_pure trivial) ?_
  simp [price]

theorem signEs256_spends (key digest : Bytes) :
    Spends (price p) 0 (fun _ => True) Fails (signEs256 key digest) := by
  rw [signEs256]
  refine Spends.within (.bind (spends_ask (IssuanceCall.signHash key digest)) fun _ _ =>
    .bind (spends_ofOption (by simp)) fun _ _ => .bind (spends_refuseIf (by simp)) fun _ _ =>
      spends_pure trivial) ?_
  simp [price]

theorem buildJwkAndThumbprint_spends (key : Bytes) :
    Spends (price p) 0 (fun _ => True) Fails (buildJwkAndThumbprint key) := by
  rw [buildJwkAndThumbprint]
  refine Spends.within (.bind (spends_ask (IssuanceCall.publicKey key)) fun _ _ =>
    .bind (spends_ofOption (by simp)) fun _ _ => .bind (spends_refuseIf (by simp)) fun _ _ =>
      .bind (spends_ofResult base64urlString_fails) fun _ _ =>
        .bind (spends_ofResult base64urlString_fails) fun _ _ => .bind (spends_ofOption (by simp)) fun _ _ =>
          .bind (sha256Bytes_spends _) fun _ _ => .bind (spends_ofResult base64urlString_fails) fun _ _ =>
            spends_pure trivial) ?_
  simp [price]

theorem getNonce_spends (nonceUrl : Bytes) :
    Spends (price p) p.request (fun _ => True) FailsWith (getNonce nonceUrl) := by
  rw [getNonce]
  refine Spends.within (.bind (spends_ask IssuanceCall.calloc) fun _ _ =>
    .bind (spends_refuseIf (by simp)) fun _ _ => .bind (spends_ask (IssuanceCall.http _)) fun _ _ =>
      .bind (spends_refuseIf (by simp)) fun _ _ => .bind (spends_refuseIf (by simp)) fun _ _ =>
        .bind (spends_refuseIf (by simp)) fun _ _ => .bind (spends_refuseIf (by simp)) fun _ _ =>
          spends_pure trivial) ?_
  simp [price, isCreate]

def IsJws (text : Bytes) : Prop := (ascii "\x7b\"type\":\"TXT\"").isPrefixOf text = false

theorem isJws_jwsText (protected64 payload64 signature64 : Bytes) :
    IsJws (jwsText protected64 payload64 signature64) := by
  simp only [IsJws, jwsText, List.append_assoc]
  rfl

theorem allocatedIf_spends {ε : Type} {fail : ε → Prop} (allocate : Bool) :
    Spends (price p) 0 (fun _ => True) fail (liftM (allocatedIf allocate) : Acme ε Bool) := by
  cases allocate with
  | false => exact spends_pure trivial
  | true => exact spends_ask IssuanceCall.calloc

theorem buildJws_spends {payloadSize signingInputSize outSize : Nat} {allocate : Bool}
    {header payload key : Bytes} : Spends (price p) 0 IsJws Fails
      (buildJws payloadSize signingInputSize allocate header payload key outSize) := by
  rw [buildJws]
  refine Spends.within (.bind (spends_ofResult base64urlString_fails) fun _ _ =>
    .bind (spends_ofResult base64urlString_fails) fun _ _ => .bind (allocatedIf_spends _) fun _ _ =>
      .bind (spends_refuseIf (by simp)) fun _ _ => .bind (spends_ofOption (by simp)) fun _ _ =>
        .bind (sha256Bytes_spends _) fun _ _ => .bind (signEs256_spends _ _) fun _ _ =>
          .bind (spends_ofResult base64urlString_fails) fun _ _ =>
            (spends_ofOption (by simp)).mono Nat.le.refl fun text fits => ?_) ?_
  · rw [(printed_eq fits).1]
    exact isJws_jwsText _ _ _
  · simp

theorem buildNewAccountJws_spends {newAccountUrl nonce jwk key : Bytes} {outSize : Nat} :
    Spends (price p) 0 IsJws Fails (buildNewAccountJws newAccountUrl nonce jwk key outSize) :=
  .bind (spends_ofOption (by simp)) fun _ _ => buildJws_spends

theorem buildKidJws_spends {url nonce kid payload key : Bytes} {outSize : Nat} :
    Spends (price p) 0 IsJws Fails (buildKidJws url nonce kid payload key outSize) :=
  .bind (spends_ofOption (by simp)) fun _ _ => buildJws_spends

theorem postJws_spends {userAgent : String} {url text : Bytes} {status : Int} (isJws : IsJws text) :
    Spends (price p) p.request (fun _ => True) FailsWith (postJws userAgent url text status) := by
  have creates : isCreate ⟨.post, url, joseHeaders userAgent, some text⟩ = false := isJws
  rw [postJws]
  refine Spends.within (.bind (spends_ask (IssuanceCall.http _)) fun _ _ =>
    .bind (spends_refuseIf (by simp)) fun _ _ => .bind (spends_refuseIf (by simp)) fun _ _ =>
      .bind (spends_refuseIf (by simp)) fun _ _ => spends_pure trivial) ?_
  simp [price, creates]

theorem postNewAccount_spends {url text : Bytes} (isJws : IsJws text) :
    Spends (price p) p.request (fun _ => True) FailsWith (postNewAccount url text) := by
  rw [postNewAccount]
  exact .within (.bind (postJws_spends isJws) fun _ _ => .bind (spends_refuseIf (by simp)) fun _ _ =>
    .bind (spends_refuseIf (by simp)) fun _ _ => spends_pure trivial) (by simp)

theorem signedAttempt_spends {nonceUrl url kid payload key : Bytes} {status : Int} {budget : Nat}
    {again : Int → Acme (EspErr × Int) (AcmeResponse × Int)}
    (spends : ∀ status, Spends (price p) budget (fun _ => True) FailsWith (again status)) :
    Spends (price p) (2 * p.request + budget) (fun _ => True) FailsWith
      (signedAttempt nonceUrl url kid payload key again status) := by
  rw [signedAttempt]
  refine Spends.within (.bind (getNonce_spends _) fun _ _ => .bind (spends_ask IssuanceCall.calloc) fun _ _ =>
    .bind (spends_refuseIf (by simp)) fun _ _ => .bind (.failing buildKidJws_spends) fun _ isJws =>
      .bind (postJws_spends isJws) fun _ _ => .ite (fun _ => spends _) fun _ => ?_) ?_
  · exact .within (spends_pure trivial) (Nat.zero_le _)
  · simp only [price]
    omega

theorem signedRequest_spends {nonceUrl url kid payload key : Bytes} :
    Spends (price p) (4 * p.request) (fun _ => True) FailsWith
      (signedRequest nonceUrl url kid payload key) := by
  refine Spends.within (signedAttempt_spends fun _ => signedAttempt_spends fun _ => spends_throw ?_) ?_
  · simp
  · omega

theorem probeSync_spends (production : Bool) :
    Spends (price p) p.request (fun _ => True) Fails (probeSync production) := by
  rw [probeSync, probeDirectorySync]
  refine Spends.within (.bind (spends_ask IssuanceCall.calloc) fun _ _ =>
    .bind (spends_refuseIf (by simp)) fun _ _ => .bind (spends_ask (IssuanceCall.http _)) fun _ _ =>
      .bind (spends_refuseIf (by simp)) fun _ _ => .bind (spends_refuseIf (by simp)) fun _ _ =>
        .bind (spends_refuseIf (by simp)) fun _ _ => .bind (spends_refuseIf (by simp)) fun _ _ =>
          .bind (spends_ofOption (by simp)) fun _ _ => .bind (spends_ofOption (by simp)) fun _ _ =>
            .bind (spends_ofOption (by simp)) fun _ _ => spends_pure trivial) ?_
  simp [price, isCreate]

theorem opened_spends : Spends (price p) 0 (fun _ => True) Fails opened :=
  .bind (spends_ask IssuanceCall.nvsOpen) fun _ _ =>
    (spends_refuseIf fun failed => failed).mono Nat.le.refl fun _ _ => trivial

theorem committed_spends {err : NvsResult} : Spends (price p) 0 (fun _ => True) Fails (committed err) :=
  .bind (spends_refuseIf fun failed => failed) fun _ _ =>
    .bind (spends_ask IssuanceCall.nvsCommit) fun _ _ =>
      (spends_refuseIf fun failed => failed).mono Nat.le.refl fun _ _ => trivial

theorem value_fails {α : Type} {answer : NvsAnswer α} : ∀ err, answer.value = .error err → Fails err := by
  intro err failed
  cases answer with
  | found value => cases failed
  | notFound =>
      cases failed
      simp
  | failed code fails =>
      cases failed
      exact fails

theorem acmeStorageLoadPrivateKey_spends :
    Spends (price p) 0 (fun _ => True) Fails acmeStorageLoadPrivateKey :=
  .bind opened_spends fun _ _ => .bind (spends_ask (IssuanceCall.nvsGetBlob _)) fun _ _ =>
    .bind (spends_ofResult value_fails) fun _ _ => .bind (spends_refuseIf (by simp)) fun _ _ =>
      .bind (spends_refuseIf (by simp)) fun _ _ => spends_pure trivial

theorem acmeStorageStorePrivateKey_spends {key : Bytes} :
    Spends (price p) 0 (fun _ => True) Fails (acmeStorageStorePrivateKey key) :=
  .bind opened_spends fun _ _ => .bind (spends_ask (IssuanceCall.nvsSetBlob _ _)) fun _ _ => committed_spends

theorem loadAccountUrl_spends {production : Bool} :
    Spends (price p) 0 (fun _ => True) Fails (loadAccountUrl production) :=
  .bind opened_spends fun _ _ => .bind (spends_ask (IssuanceCall.nvsGetStr _)) fun _ _ =>
    .bind (spends_ofResult value_fails) fun _ _ => .bind (spends_refuseIf (by simp)) fun _ _ =>
      spends_pure trivial

theorem storeAccountUrl_spends {production : Bool} {url : Bytes} :
    Spends (price p) 0 (fun _ => True) Fails (storeAccountUrl production url) :=
  .bind (spends_refuseIf (by simp)) fun _ _ => .bind opened_spends fun _ _ =>
    .bind (spends_ask (IssuanceCall.nvsSetStr _ _)) fun _ _ => committed_spends

theorem ensureAccountKey_spends : Spends (price p) 0 (fun _ => True) Fails ensureAccountKey := by
  rw [ensureAccountKey]
  refine Spends.within (.bind (.tried acmeStorageLoadPrivateKey_spends) fun loaded kind =>
    (?_ : Spends (price p) 0 (fun _ => True) Fails _)) Nat.le.refl
  cases loaded with
  | ok key => exact spends_pure trivial
  | error err =>
      exact .within (.bind (spends_refuseIf fun _ => kind) fun _ _ =>
        .bind (spends_ask IssuanceCall.generateKey) fun _ _ => .bind (spends_ofOption (by simp)) fun _ _ =>
          .bind (spends_refuseIf (by simp)) fun _ _ =>
            .bind acmeStorageStorePrivateKey_spends fun _ _ => spends_pure trivial) Nat.le.refl

theorem registerAccount_spends {production : Bool} {key jwk : Bytes} {out : AcmeAccountStatus} :
    Spends (price p) (3 * p.request) (fun _ => True) FailsWith (registerAccount production key jwk out) := by
  rw [registerAccount]
  refine Spends.within (.bind (.failing (probeSync_spends _)) fun _ _ =>
    .bind (.failing (getNonce_spends _)) fun _ _ => .bind (spends_ask IssuanceCall.calloc) fun _ _ =>
      .bind (spends_refuseIf (by simp)) fun _ _ => .bind (.failing buildNewAccountJws_spends) fun _ isJws =>
        .bind (spends_ask IssuanceCall.calloc) fun _ _ => .bind (spends_refuseIf (by simp)) fun _ _ =>
          .bind (.failing (postNewAccount_spends isJws)) fun _ _ =>
            .bind (.failing storeAccountUrl_spends) fun _ _ => spends_pure trivial) ?_
  simp only [price]
  omega

theorem provisionAccountSync_spends {production : Bool} :
    Spends (price p) (3 * p.request) (fun _ => True) FailsWith (provisionAccountSync production) := by
  rw [provisionAccountSync]
  refine Spends.within (.bind (spends_ask IssuanceCall.storageInit) fun _ _ =>
    .bind (spends_refuseIf fun failed => failed) fun _ _ => .bind (.failing ensureAccountKey_spends) fun _ _ =>
      .bind (.failing (buildJwkAndThumbprint_spends _)) fun _ _ =>
        .bind (.tried loadAccountUrl_spends) fun existing kind =>
          (?_ : Spends (price p) (3 * p.request) (fun _ => True) FailsWith _)) ?_
  · cases existing with
    | ok url => exact .within (spends_pure trivial) (Nat.zero_le _)
    | error err =>
        exact .within (.bind (spends_refuseIf fun _ => kind) fun _ _ => registerAccount_spends) (by simp)
  · simp [price]

theorem loadAccount_spends {production : Bool} :
    Spends (price p) 0 (fun _ => True) Fails (loadAccount production) :=
  .bind (spends_ask IssuanceCall.storageInit) fun _ _ => .bind (spends_refuseIf fun failed => failed) fun _ _ =>
    .bind acmeStorageLoadPrivateKey_spends fun _ _ =>
      .bind (.failing (loadAccountUrl_spends.still (by simp))) fun _ _ =>
        .bind (spends_refuseIf (by simp)) fun _ _ => spends_pure trivial

theorem placeOrder_spends {directory : AcmeDirectoryStatus} {key kid payload : Bytes}
    {out : AcmeOrderDiscovery} : Spends (price p) (4 * p.request) (fun _ => True) FailsWith
      (placeOrder directory key kid payload out) := by
  rw [placeOrder]
  exact .within (.bind (.failing signedRequest_spends) fun _ _ => .bind (spends_refuseIf (by simp)) fun _ _ =>
    .bind (spends_ofOption (by simp)) fun _ _ => .bind (spends_ofOption (by simp)) fun _ _ =>
      spends_pure trivial) (by simp)

theorem readAuthorization_spends {directory : AcmeDirectoryStatus} {key kid hostname : Bytes}
    {out : AcmeOrderDiscovery} : Spends (price p) (4 * p.request) (fun _ => True) FailsWith
      (readAuthorization directory key kid hostname out) := by
  rw [readAuthorization]
  exact .within (.bind (.failing signedRequest_spends) fun _ _ => .bind (spends_refuseIf (by simp)) fun _ _ =>
    .bind (spends_ofOption (by simp)) fun _ _ => .bind (spends_ofOption (by simp)) fun _ _ =>
      .bind (spends_refuseIf (by simp)) fun _ _ => spends_pure trivial) (by simp)

theorem deriveDns01_spends {key hostname : Bytes} {out : AcmeOrderDiscovery} :
    Spends (price p) 0 (fun _ => True) Fails (deriveDns01 key hostname out) :=
  .bind (buildJwkAndThumbprint_spends _) fun _ _ => .bind (spends_ofOption (by simp)) fun _ _ =>
    .bind (sha256Bytes_spends _) fun _ _ => .bind (spends_ofResult base64urlString_fails) fun _ _ =>
      .bind (spends_ofOption (by simp)) fun _ _ => spends_pure trivial

theorem discoverOrderSync_spends {production : Bool} {hostname : Bytes} :
    Spends (price p) (9 * p.request) (fun _ => True) FailsWith (discoverOrderSync production hostname) := by
  rw [discoverOrderSync]
  refine Spends.within (.bind (spends_refuseIf (by simp)) fun _ _ => .bind (.failing loadAccount_spends) fun _ _ =>
    .bind (.failing (probeSync_spends _)) fun _ _ => .bind (spends_ofOption (by simp)) fun _ _ =>
      .bind (spends_ask IssuanceCall.calloc) fun _ _ => .bind (spends_refuseIf (by simp)) fun _ _ =>
        .bind placeOrder_spends fun _ _ => .bind readAuthorization_spends fun _ _ =>
          .failing deriveDns01_spends) ?_
  simp only [price]
  omega

def pollPrice (p : Prices) : Nat := 2000 * p.millisecond + 4 * p.request

theorem parseAuthorizationStatus_fails {json : Bytes} {authorizationSize challengeSize : Nat} :
    ∀ err, parseAuthorizationStatus json authorizationSize challengeSize = .error err → Fails err := by
  rintro _ failed rfl
  rw [parseAuthorizationStatus] at failed
  split at failed
  · cases failed
  · split at failed <;> cases failed

theorem pollAuthorization_spends {nonceUrl authorizationUrl kid key : Bytes} {left : Nat}
    {out : AcmeChallengeValidation} : Spends (price p) (left * pollPrice p) (fun _ => True) FailsWith
      (pollAuthorization nonceUrl authorizationUrl kid key left out) := by
  induction left generalizing out with
  | zero => exact .within (spends_throw (by simp)) (Nat.zero_le _)
  | succ left ih =>
      rw [pollAuthorization]
      refine Spends.within (.bind (spends_ask (IssuanceCall.taskDelay _)) fun _ _ =>
        .bind (.failing signedRequest_spends) fun _ _ => .bind (spends_refuseIf (by simp)) fun _ _ =>
          .bind (.failing (spends_ofResult parseAuthorizationStatus_fails)) fun _ _ =>
            .ite (fun _ => .within (spends_pure trivial) (Nat.zero_le _)) fun _ =>
              .ite (fun _ => .within (spends_throw (by simp)) (Nat.zero_le _)) fun _ => ih) ?_
      rw [Nat.add_one_mul left, pollPrice, price]
      omega

theorem validateDns01Sync_spends {production : Bool} {order : AcmeOrderDiscovery} :
    Spends (price p) (5 * p.request + acmePollAttempts * pollPrice p) (fun _ => True) FailsWith
      (validateDns01Sync production order) := by
  rw [validateDns01Sync]
  refine Spends.within (.bind (spends_refuseIf (by simp)) fun _ _ => .bind (.failing loadAccount_spends) fun _ _ =>
    .bind (.failing (probeSync_spends _)) fun _ _ => .bind (spends_ask IssuanceCall.calloc) fun _ _ =>
      .bind (spends_refuseIf (by simp)) fun _ _ => .bind (.failing signedRequest_spends) fun _ _ =>
        .bind (spends_refuseIf (by simp)) fun _ _ => pollAuthorization_spends) ?_
  simp only [price]
  omega

theorem certificateRequest_spends {identifier : Bytes} :
    Spends (price p) 0 (fun _ => True) Fails (certificateRequest identifier) := by
  have key : Spends (price p) 0 (fun _ => True) Fails generateCertificateKey := by
    rw [generateCertificateKey]
    exact .within (.bind (spends_ask IssuanceCall.generateKey) fun _ _ =>
      .bind (spends_ofOption (by simp)) fun privateKey _ =>
        .bind (spends_ask (IssuanceCall.publicKey privateKey)) fun _ _ =>
          .bind (spends_ofOption (by simp)) fun _ _ => .bind (spends_refuseIf (by simp)) fun _ _ =>
            spends_pure trivial) Nat.le.refl
  rw [certificateRequest]
  refine Spends.within (.bind key fun keys _ =>
    .bind (spends_ask (IssuanceCall.buildCsr identifier keys.1 keys.2)) fun _ _ =>
      .bind (spends_refuseIf fun failed => failed) fun _ _ =>
        .bind (spends_ofResult base64urlString_fails) fun _ _ => .bind (spends_ofOption (by simp)) fun _ _ =>
          spends_pure trivial) ?_
  simp

def FailsUnstored (failed : EspErr × AcmeCertificateIssueStatus) : Prop :=
  FailsWith failed ∧ failed.2.stored = false

theorem pollOrder_spends {nonceUrl orderUrl kid key : Bytes} {left : Nat} {out : AcmeCertificateIssueStatus}
    (unstored : out.stored = false) : Spends (price p) (left * pollPrice p) (·.stored = false) FailsUnstored
      (pollOrder nonceUrl orderUrl kid key left out) := by
  induction left generalizing out with
  | zero => exact .within (spends_throw ⟨by simp, unstored⟩) (Nat.zero_le _)
  | succ left ih =>
      rw [pollOrder]
      refine Spends.within (.bind (spends_ask (IssuanceCall.taskDelay _)) fun _ _ =>
        .bind (.failing (signedRequest_spends.still fun _ fails => ⟨fails, unstored⟩)) fun _ _ => .bind (spends_refuseIf fun _ => ⟨by simp, unstored⟩) fun _ _ =>
          .bind (spends_ofOption ⟨by simp, unstored⟩) fun _ _ =>
            .ite (fun _ => .within (.bind (spends_ofOption ⟨by simp, unstored⟩) fun _ _ => spends_pure unstored)
              (Nat.zero_le _)) fun _ =>
                .ite (fun _ => .within (spends_throw ⟨by simp, unstored⟩) (Nat.zero_le _)) fun _ => ih unstored) ?_
      rw [Nat.add_one_mul left, pollPrice, price]
      omega

theorem storeCertificate_spends {ε : Type} {fail : ε → Prop} {production : Bool} {hostname key pem : Bytes} :
    Spends (price p) p.store (fun _ => True) fail
      (liftM (Issuance.storeCertificate production hostname key pem) : Acme ε EspErr) :=
  spends_ask (IssuanceCall.storeCertificate production hostname key pem)

theorem retrieveCertificate_spends {production : Bool} {nonceUrl kid key certKey identifier : Bytes}
    {out : AcmeCertificateIssueStatus} (unstored : out.stored = false) :
    Spends (price p) (4 * p.request + p.store) (fun _ => True) FailsUnstored
      (retrieveCertificate production nonceUrl kid key certKey identifier out) := by
  rw [retrieveCertificate]
  refine Spends.within (.bind (.failing (signedRequest_spends.still fun _ fails => ⟨fails, unstored⟩)) fun _ _ =>
    .bind (spends_refuseIf fun _ => ⟨by simp, unstored⟩) fun _ _ => .bind storeCertificate_spends fun _ _ =>
      .bind (spends_refuseIf fun failed => ⟨failed, unstored⟩) fun _ _ => spends_pure trivial) ?_
  simp

theorem finalizeOrderSync_spends {production : Bool} {order : AcmeOrderDiscovery} :
    Spends (price p) (9 * p.request + acmePollAttempts * pollPrice p + p.store) (fun _ => True) FailsUnstored
      (finalizeOrderSync production order) := by
  rw [finalizeOrderSync]
  refine Spends.within (.bind (spends_refuseIf fun _ => ⟨by simp, rfl⟩) fun _ _ =>
    .bind (.failing (loadAccount_spends.still fun _ fails => ⟨fails, rfl⟩)) fun _ _ =>
      .bind (.failing (certificateRequest_spends.still fun _ fails => ⟨fails, rfl⟩)) fun _ _ =>
        .bind (.failing ((probeSync_spends _).still fun _ fails => ⟨fails, rfl⟩)) fun _ _ =>
          .bind (spends_ask IssuanceCall.calloc) fun _ _ => .bind (spends_refuseIf fun _ => ⟨by simp, rfl⟩) fun _ _ =>
            .bind (.failing (signedRequest_spends.still fun _ fails => ⟨fails, rfl⟩)) fun _ _ =>
              .bind (spends_refuseIf fun _ => ⟨by simp, rfl⟩) fun _ _ =>
                .bind (pollOrder_spends rfl) fun _ unstored => retrieveCertificate_spends unstored) ?_
  simp only [price]
  omega

theorem withWorker_spends {Out : Type} {zero : Out} {budget : Nat} {program : Acme (EspErr × Out) Out}
    {fail : EspErr × Out → Prop} (refused : fail (.noMem, zero))
    (spends : Spends (price p) budget (fun _ => True) fail program) :
    Spends (price p) budget (fun _ => True) fail (withWorker zero program) := by
  rw [withWorker]
  refine Spends.within (.bind (spends_ask IssuanceCall.calloc) fun _ _ =>
    .bind (spends_refuseIf fun _ => refused) fun _ _ => .bind (spends_ask IssuanceCall.taskCreate) fun _ _ =>
      .bind (spends_refuseIf fun _ => refused) fun _ _ => spends) ?_
  simp [price]

/-! ## The record -/

theorem cloudflareHttpRequest_spends {apiToken url : Bytes} {method : HttpMethod} {body : Option Bytes}
    (budget : Nat) (enough : ∀ headers, price p (.http ⟨method, url, headers, body⟩) ≤ budget) :
    Spends (price p) budget (fun _ => True) FailsWith (cloudflareHttpRequest apiToken method url body) := by
  unfold cloudflareHttpRequest
  refine Spends.within (.bind (spends_ofOption (by simp)) fun _ _ =>
    .bind (.within (spends_ask (IssuanceCall.http _)) (enough _)) fun _ _ =>
      .bind (spends_refuseIf (by simp)) fun _ _ => .bind (spends_refuseIf (by simp)) fun _ _ =>
        .bind (spends_refuseIf (by simp)) fun _ _ => spends_pure trivial) ?_
  simp

theorem cloudflareCreateDns01TxtSync_spends {credentials : CloudflareCredentials} {name value : Bytes} :
    Spends (price p) (p.request + p.create) (fun _ => True) FailsWith
      (cloudflareCreateDns01TxtSync credentials name value) := by
  rw [cloudflareCreateDns01TxtSync]
  refine Spends.within (.bind (spends_refuseIf (by simp)) fun _ _ => .bind (spends_ofOption (by simp)) fun _ _ =>
    .bind (spends_ofOption (by simp)) fun _ _ =>
      .bind (cloudflareHttpRequest_spends (p.request + p.create) ?_) fun _ _ =>
        .bind (spends_refuseIf (by simp)) fun _ _ =>
          (spends_ofOption (by simp)).mono Nat.le.refl fun _ _ => trivial) ?_
  · intro headers
    simp only [price]
    split <;> simp
  · simp

theorem cloudflareVerifyDns01TxtContentSync_spends {credentials : CloudflareCredentials}
    {recordId name value : Bytes} : Spends (price p) p.request (fun _ => True) FailsWith
      (cloudflareVerifyDns01TxtContentSync credentials recordId name value) := by
  rw [cloudflareVerifyDns01TxtContentSync]
  refine Spends.within (.bind (spends_refuseIf (by simp)) fun _ _ => .bind (spends_ofOption (by simp)) fun _ _ =>
    .bind (cloudflareHttpRequest_spends p.request (by simp [price, isCreate])) fun _ _ =>
      .bind (spends_refuseIf (by simp)) fun _ _ =>
        (spends_refuseIf (by simp)).mono Nat.le.refl fun _ _ => trivial) ?_
  simp

theorem cloudflareDeleteDns01TxtContentSync_spends {credentials : CloudflareCredentials}
    {recordId name value : Bytes} : Spends (price p) (2 * p.request + p.delete) (fun _ => True) FailsWith
      (cloudflareDeleteDns01TxtContentSync credentials recordId name value) := by
  rw [cloudflareDeleteDns01TxtContentSync]
  refine Spends.within (.bind (spends_refuseIf (by simp)) fun _ _ => .bind (spends_ofOption (by simp)) fun _ _ =>
    .bind cloudflareVerifyDns01TxtContentSync_spends fun _ _ =>
      .bind (cloudflareHttpRequest_spends (p.request + p.delete) (by simp [price, isCreate])) fun _ _ =>
        (spends_refuseIf (by simp)).mono Nat.le.refl fun _ _ => trivial) ?_
  omega

theorem withCloudflareWorker_spends {α : Type} {fits : Bool} {budget : Nat} {program : Acme (EspErr × Int) α}
    (spends : Spends (price p) budget (fun _ => True) FailsWith program) :
    Spends (price p) budget (fun _ => True) FailsWith (withCloudflareWorker fits program) := by
  rw [withCloudflareWorker]
  refine Spends.within (.bind (spends_ask IssuanceCall.calloc) fun _ _ =>
    .bind (spends_refuseIf (by simp)) fun _ _ => .bind (spends_refuseIf (by simp)) fun _ _ =>
      .bind (spends_ask IssuanceCall.taskCreate) fun _ _ => .bind (spends_refuseIf (by simp)) fun _ _ => spends) ?_
  simp [price]

end

instance : Nonempty Prices := ⟨⟨0, 0, 0, 0, 0⟩⟩

/-- The history goes on from the past within a budget. -/
structure Led (budget : Prices → Nat) (past now : IssuanceHistory) : Prop where
  extended : past <:+ now
  paid : ∀ p, spent (price p) now ≤ spent (price p) past + budget p

section
variable {past now last : IssuanceHistory} {budget more : Prices → Nat}

theorem Led.trans (first : Led budget past now) (second : Led more now last) :
    Led (fun p => budget p + more p) past last := by
  refine ⟨first.extended.trans second.extended, fun p => ?_⟩
  have := first.paid p
  have := second.paid p
  omega

theorem Led.mono (led : Led budget past now) (enough : ∀ p, budget p ≤ more p) : Led more past now :=
  ⟨led.extended, fun p => Nat.le_trans (led.paid p) (Nat.add_le_add_left (enough p) _)⟩

theorem led_self : Led (fun _ => 0) past past := ⟨List.suffix_rfl, fun _ => Nat.le_refl _⟩

theorem led_of_gives {Out α : Type} {may : IssuanceHistory → IssuanceCall → Prop}
    {kept : α → IssuanceHistory → Prop} {failed : EspErr × Out → IssuanceHistory → Prop}
    {fail : EspErr × Out → Prop} {program : Acme (EspErr × Out) α} (gives : Gives may kept failed program past)
    (spends : ∀ p, Spends (price p) (budget p) (fun _ => True) fail program) :
    Gives may (fun a now => kept a now ∧ Led budget past now)
      (fun err now => failed err now ∧ fail err ∧ Led budget past now) program past := by
  refine (Spends.gives spends gives).weaken ?_ ?_
  · exact fun a now met => ⟨met.1.1, met.1.2, met.2⟩
  · exact fun err now met => ⟨met.1.1.1, met.1.2, met.1.1.2, met.2⟩

end

end NtsTimeServer.Proof
