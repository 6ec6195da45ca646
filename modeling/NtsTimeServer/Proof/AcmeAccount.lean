import NtsTimeServer.Proof.SignedRequest

namespace NtsTimeServer.Proof
open Model Lib Interaction

variable {hostname : Bytes} {past : IssuanceHistory}

theorem opened_gives : Gives (MayCall hostname) (fun _ now => past <:+ now) (fun err _ => err ≠ .notFound)
    opened past := by
  simp only [opened, gives_bind, gives_lift, gives_refuseIf, meets_call, meets_done]
  refine ⟨mayCall_of_asksNothing rfl, fun answer => ⟨fun _ => answer.property, fun _ => ?_⟩⟩
  exact List.suffix_cons ..

theorem acmeStorageLoadPrivateKey_gives : Gives (MayCall hostname) (fun key now => AccountKey now key)
    (fun err now => err = .notFound → ⟨.nvsGetBlob "acct_key", .notFound⟩ ∈ now)
    acmeStorageLoadPrivateKey past := by
  simp only [acmeStorageLoadPrivateKey, gives_bind, gives_lift, gives_refuseIf, gives_ofResult, gives_pure,
    meets_call, meets_done, reduceCtorEq, false_implies, implies_true, true_and]
  refine opened_gives.weaken ?_ fun err _ other same => absurd same other
  intro _ start extended
  refine ⟨mayCall_of_asksNothing rfl, fun answer => ⟨fun err failed missing => ?_, fun key found => ?_⟩⟩
  · cases answer with
    | found value => cases failed
    | notFound => exact List.mem_cons_self ..
    | failed other _ => exact absurd (Except.error.inj failed ▸ missing) other.property
  · intro _ _
    cases answer with
    | found value =>
        obtain rfl := Except.ok.inj found
        exact .inl (List.mem_cons_self ..)
    | notFound => cases found
    | failed other _ => cases found

theorem loadAccountUrl_gives : Gives (MayCall hostname)
    (fun url now => ⟨.nvsGetStr "acct_prod", .found url⟩ ∈ now)
    (fun err now => err = .notFound → ⟨.nvsGetStr "acct_prod", .notFound⟩ ∈ now)
    (loadAccountUrl true) past := by
  simp only [loadAccountUrl, gives_bind, gives_lift, gives_refuseIf, gives_ofResult, gives_pure,
    meets_call, meets_done, reduceCtorEq, false_implies, implies_true, true_and]
  refine opened_gives.weaken ?_ fun err _ other same => absurd same other
  intro _ start extended
  refine ⟨mayCall_of_asksNothing rfl, fun answer => ⟨fun err failed missing => ?_, fun url found => ?_⟩⟩
  · cases answer with
    | found value => cases failed
    | notFound => exact List.mem_cons_self ..
    | failed other _ => exact absurd (Except.error.inj failed ▸ missing) other.property
  · intro _
    cases answer with
    | found value =>
        obtain rfl := Except.ok.inj found
        exact List.mem_cons_self ..
    | notFound => cases found
    | failed other _ => cases found

theorem acmeStorageStorePrivateKey_gives {key : Bytes} (due : KeyDue past key) : Gives (MayCall hostname)
    (fun _ now => AccountKey now key) (fun _ _ => True) (acmeStorageStorePrivateKey key) past := by
  simp only [acmeStorageStorePrivateKey, committed, gives_bind, gives_lift, gives_refuseIf, meets_call,
    meets_done, implies_true, true_and]
  refine opened_gives.weaken ?_ fun _ _ _ => trivial
  intro _ start extended
  refine ⟨mayCall_of_key ⟨extended.mem due.1, extended.mem due.2⟩, fun answer written => ?_⟩
  refine ⟨mayCall_of_asksNothing rfl, fun commit _ => .inr ⟨answer, Decidable.not_not.mp written, ?_⟩⟩
  exact List.mem_cons_of_mem _ (List.mem_cons_self ..)

theorem storeAccountUrl_gives {url : Bytes} (due : AccountUrlDue past url) : Gives (MayCall hostname)
    (fun _ _ => True) (fun _ _ => True) (storeAccountUrl true url) past := by
  simp only [storeAccountUrl, committed, gives_bind, gives_lift, gives_refuseIf, meets_call,
    meets_done, implies_true, true_and, and_true]
  intro _
  refine opened_gives.weaken ?_ fun _ _ _ => trivial
  intro _ start extended
  obtain ⟨https, missing, newAccountUrl, response, status, received, rest⟩ := due
  exact ⟨@mayCall_of_accountUrl _ _ _ ⟨https, extended.mem missing, newAccountUrl, response, status,
    received.later extended, rest⟩, fun answer _ => mayCall_of_asksNothing rfl⟩

theorem ensureAccountKey_gives : Gives (MayCall hostname) (fun key now => AccountKey now key)
    (fun _ _ => True) ensureAccountKey past := by
  simp only [ensureAccountKey, gives_bind, gives_tried]
  refine acmeStorageLoadPrivateKey_gives.weaken ?_ ?_
  · intro key now known
    exact (gives_pure _).mpr known
  · intro err start missing
    simp only [gives_lift, gives_refuseIf, gives_ofOption, gives_pure, meets_call, meets_done, implies_true,
      true_and]
    intro absent
    refine ⟨mayCall_of_asksNothing rfl, fun answer key generated _ => ?_⟩
    refine (acmeStorageStorePrivateKey_gives ⟨?_, ?_⟩).weaken (fun _ now known => known) fun _ _ _ => trivial
    · exact List.mem_cons_of_mem _ (missing (Decidable.not_not.mp absent))
    · rw [generated]
      exact List.mem_cons_self ..

theorem buildJwkAndThumbprint_gives (key : Bytes) : Gives (MayCall hostname)
    (fun result now => JwkOf now key result.1 ∧ ∃ digest, ⟨.sha256 result.1, some digest⟩ ∈ now ∧
      result.2 = urlSafeAlphabet.encode digest) (fun _ _ => True) (buildJwkAndThumbprint key) past := by
  simp only [buildJwkAndThumbprint, gives_bind, gives_lift, gives_refuseIf, gives_ofOption, gives_ofResult,
    gives_pure, meets_call, meets_done, implies_true, true_and]
  refine ⟨mayCall_of_asksNothing rfl, fun answer publicKey exported uncompressed x isX y isY jwk fits => ?_⟩
  rw [not_or, Decidable.not_not, Decidable.not_not] at uncompressed
  obtain rfl := base64urlString_eq (by simp) (by decide) isX
  obtain rfl := base64urlString_eq (by simp) (by decide) isY
  obtain rfl := (printed_eq fits).1
  refine (sha256Bytes_gives _).weaken ?_ fun _ _ _ => trivial
  rintro digest _ ⟨rfl, length⟩ thumbprint encoded
  refine ⟨⟨publicKey, ?_, uncompressed.1, uncompressed.2, rfl⟩, digest, List.mem_cons_self .., ?_⟩
  · rw [exported]
    exact List.mem_cons_of_mem _ (List.mem_cons_self ..)
  · exact base64urlString_eq (by omega) (by decide) encoded

/-! ## The account -/

structure HttpsDirectory (directory : AcmeDirectoryStatus) : Prop where
  newNonce : isHttpsUrl directory.newNonceUrl = true
  newAccount : isHttpsUrl directory.newAccountUrl = true
  newOrder : isHttpsUrl directory.newOrderUrl = true

theorem httpsMember_https {json url : Bytes} {name : String} (found : httpsMember json name = some url) :
    isHttpsUrl url = true := (Option.filter_eq_some_iff.mp found).2

theorem probeSync_gives (production : Bool) : Gives (MayCall hostname)
    (fun directory _ => HttpsDirectory directory) (fun _ _ => True) (probeSync production) past := by
  simp only [probeSync, probeDirectorySync, gives_bind, gives_lift, gives_refuseIf, gives_ofOption, gives_pure,
    meets_call, meets_done, implies_true, true_and]
  refine ⟨mayCall_of_asksNothing rfl, fun allocated _ => ⟨mayCall_of_reads (.inl rfl) (.inl ?_)
    (fun _ bears => absurd bears (not_bearsToken (by decide))), ?_⟩⟩
  · cases production <;> rfl
  · intro answer _ _ _ _ newNonceUrl isNonce newAccountUrl isAccount newOrderUrl isOrder
    exact ⟨httpsMember_https isNonce, httpsMember_https isAccount, httpsMember_https isOrder⟩

theorem newAccountPayload_due {url : Bytes} (https : isHttpsUrl url = true) :
    PayloadDue hostname past url newAccountPayload := by
  refine ⟨.inl https, fun same => absurd same (by decide), fun csr64 same => ?_⟩
  have second : newAccountPayload[2]? = (finalizePayload csr64)[2]? := congrArg (·[2]?) same
  simp [newAccountPayload, finalizePayload, ascii] at second

theorem registerAccount_gives {key jwk : Bytes} {out : AcmeAccountStatus} (known : AccountKey past key)
    (isJwk : JwkOf past key jwk) (missing : ⟨.nvsGetStr "acct_prod", .notFound⟩ ∈ past) :
    Gives (MayCall hostname) (fun _ _ => True) (fun _ _ => True) (registerAccount true key jwk out) past := by
  simp only [registerAccount, buildNewAccountJws, postNewAccount, gives_bind, gives_lift, gives_refuseIf,
    gives_ofOption, gives_failing, gives_pure, meets_call, meets_done, implies_true, true_and]
  refine (probeSync_gives true).extends.weaken ?_ fun _ _ _ => trivial
  rintro directory first ⟨urls, probed⟩
  refine (getNonce_gives urls.newNonce).extends.weaken ?_ fun _ _ _ => trivial
  rintro nonce second ⟨fresh, asked⟩
  refine ⟨mayCall_of_asksNothing rfl, fun allocated _ header fits => ?_⟩
  have small : header.length < 2 ^ 31 := by
    rw [(printed_eq fits).1]
    exact (printed_eq fits).2.trans (by decide)
  have is := (printed_eq fits).1.trans (newAccountProtected_eq jwk nonce directory.newAccountUrl)
  have still : FreshNonce (⟨.calloc, allocated⟩ :: second) nonce := fresh
  refine (buildJws_gives small (by decide) (by decide)).weaken ?_ fun _ _ _ => trivial
  intro text now built
  rw [is] at built
  have extended : past <:+ ⟨.calloc, allocated⟩ :: second := (probed.trans asked).trans (List.suffix_cons ..)
  have held := extended.trans built.extended
  obtain ⟨signature, input, digest, read, -⟩ := built.read
  refine ⟨mayCall_of_asksNothing rfl, fun response _ => ?_⟩
  have moved : JwsOf (⟨.calloc, allocated⟩ :: second) (⟨.calloc, response⟩ :: now)
      (jwsHeader (ascii "\"jwk\":" ++ jwk) nonce directory.newAccountUrl) newAccountPayload key text := by
    obtain ⟨later, same, signature, input, digest, read, hashed, signs⟩ := built
    exact ⟨later.trans (List.suffix_cons ..), same, signature, input, digest, read,
      List.mem_cons_of_mem _ hashed, List.mem_cons_of_mem _ signs⟩
  refine (postJws_gives read (mayCall_post (by decide) (newAccountPayload_due urls.newAccount) known
    (.inr ⟨jwk, isJwk, rfl⟩) still extended moved)).extends.weaken ?_ fun _ _ _ => trivial
  rintro ⟨answer, status⟩ last ⟨⟨received, -⟩, after⟩ status https
  refine storeAccountUrl_gives ⟨by simpa using https, ?_, directory.newAccountUrl, answer, _, received, ?_, rfl⟩
  · exact after.mem (List.mem_cons_of_mem _ (held.mem missing))
  · tauto

theorem provisionAccountSync_gives : Gives (MayCall hostname) (fun _ _ => True) (fun _ _ => True)
    (provisionAccountSync true) past := by
  simp only [provisionAccountSync, gives_bind, gives_lift, gives_refuseIf, gives_failing, gives_tried,
    meets_call, meets_done, implies_true, true_and]
  refine ⟨mayCall_of_asksNothing rfl, fun answer _ => ?_⟩
  refine ensureAccountKey_gives.weaken ?_ fun _ _ _ => trivial
  intro key first known
  refine (buildJwkAndThumbprint_gives key).extends.weaken ?_ fun _ _ _ => trivial
  rintro ⟨jwk, thumbprint⟩ second ⟨⟨isJwk, -⟩, extended⟩
  refine loadAccountUrl_gives.extends.weaken ?_ ?_
  · intro url now _
    exact (gives_pure _).mpr trivial
  · rintro err now ⟨missing, later⟩
    intro absent
    exact registerAccount_gives ((known.later extended).later later) (isJwk.later later)
      (missing (Decidable.not_not.mp absent))

end NtsTimeServer.Proof
