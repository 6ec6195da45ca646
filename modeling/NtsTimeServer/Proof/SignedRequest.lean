import NtsTimeServer.Proof.IssuanceRules

namespace NtsTimeServer.Proof
open Model Lib Interaction

section
variable {past now : IssuanceHistory}

theorem Received.later {url payload : Bytes} {response : AcmeResponse} {status : Int}
    (received : Received past url payload response status) (extended : past <:+ now) :
    Received now url payload response status := by
  obtain ⟨request, answer, jws, member, rest⟩ := received
  exact ⟨request, answer, jws, extended.mem member, rest⟩

theorem AccountKey.later {key : Bytes} (known : AccountKey past key) (extended : past <:+ now) :
    AccountKey now key :=
  known.imp extended.mem fun held => held.imp fun _ wrote => ⟨wrote.1, extended.mem wrote.2⟩

theorem JwkOf.later {key jwk : Bytes} (known : JwkOf past key jwk) (extended : past <:+ now) :
    JwkOf now key jwk := by
  obtain ⟨publicKey, member, rest⟩ := known
  exact ⟨publicKey, extended.mem member, rest⟩

theorem Identifies.later {key identity : Bytes} (known : Identifies past key identity)
    (extended : past <:+ now) : Identifies now key identity := by
  obtain ⟨kid, member, rest⟩ | ⟨jwk, known, rest⟩ := known
  · exact .inl ⟨kid, extended.mem member, rest⟩
  · exact .inr ⟨jwk, known.later extended, rest⟩

theorem Offered.later {hostname url token : Bytes} (offered : Offered past hostname url token)
    (extended : past <:+ now) : Offered now hostname url token := by
  obtain ⟨authorizationUrl, response, challenge, received, rest⟩ := offered
  exact ⟨authorizationUrl, response, challenge, received.later extended, rest⟩

theorem Proves.later {token value : Bytes} (proves : Proves past token value) (extended : past <:+ now) :
    Proves now token value := by
  obtain ⟨key, jwk, thumbprint, digest, known, isJwk, hashed, joined, rest⟩ := proves
  exact ⟨key, jwk, thumbprint, digest, known.later extended, isJwk.later extended, extended.mem hashed,
    extended.mem joined, rest⟩

theorem RecordCreated.later {zoneId recordId name value : Bytes}
    (created : RecordCreated past zoneId recordId name value) (extended : past <:+ now) :
    RecordCreated now zoneId recordId name value := by
  obtain ⟨headers, answer, member, rest⟩ := created
  exact ⟨headers, answer, extended.mem member, rest⟩

theorem Propagated.later {name value : Bytes} (shown : Propagated past name value)
    (extended : past <:+ now) : Propagated now name value := by
  obtain ⟨earlier, zoneId, recordId, held, rest⟩ := shown
  exact ⟨earlier, zoneId, recordId, held.trans extended, rest⟩

theorem TriggerDue.later {hostname url : Bytes} (due : TriggerDue past hostname url)
    (extended : past <:+ now) : TriggerDue now hostname url := by
  obtain ⟨token, value, offered, proves, shown⟩ := due
  exact ⟨token, value, offered.later extended, proves.later extended, shown.later extended⟩

theorem OrderPlaced.later {hostname finalizeUrl authorizationUrl orderUrl : Bytes}
    (placed : OrderPlaced past hostname finalizeUrl authorizationUrl orderUrl)
    (extended : past <:+ now) : OrderPlaced now hostname finalizeUrl authorizationUrl orderUrl := by
  obtain ⟨newOrderUrl, response, received, rest⟩ := placed
  exact ⟨newOrderUrl, response, received.later extended, rest⟩

theorem FinalizeDue.later {hostname url : Bytes} (due : FinalizeDue past hostname url)
    (extended : past <:+ now) : FinalizeDue now hostname url := by
  obtain ⟨authorizationUrl, orderUrl, response, parsed, placed, received, rest⟩ := due
  exact ⟨authorizationUrl, orderUrl, response, parsed, placed.later extended, received.later extended, rest⟩

theorem UrlDue.later {hostname url : Bytes} (due : UrlDue past hostname url) (extended : past <:+ now) :
    UrlDue now hostname url :=
  due.imp id fun held => held.imp fun _ order => order.imp fun _ placed => placed.later extended

theorem RecordDue.later {hostname text : Bytes} (due : RecordDue past hostname text) (extended : past <:+ now) :
    RecordDue now hostname text := by
  obtain ⟨url, token, value, offered, proves, is⟩ := due
  exact ⟨url, token, value, offered.later extended, proves.later extended, is⟩

theorem Requests509.later {hostname key payload : Bytes} (requests : Requests509 past hostname key payload)
    (extended : past <:+ now) : Requests509 now hostname key payload := by
  obtain ⟨length, publicKey, csr, csr64, generated, exported, built, rest⟩ := requests
  exact ⟨length, publicKey, csr, csr64, extended.mem generated, extended.mem exported, extended.mem built, rest⟩

end

theorem encode_clean {data : Bytes} {c : UInt8} (member : c ∈ urlSafeAlphabet.encode data) :
    c ≠ 0x22 ∧ c ≠ 0 := by
  have clean : ∀ c ∈ urlSafeAlphabet.characters, c ≠ 0x22 ∧ c ≠ 0 := by decide +kernel
  exact clean c (urlSafeAlphabet.mem_of_mem_encode data c member)

theorem base64urlString_eq {input text : Bytes} {size : Nat} (small : input.length < 2 ^ 31)
    (enough : 2 ≤ size) (encoded : base64urlString input size = .ok text) :
    text = urlSafeAlphabet.encode input := by
  have exactly := @base64url_exact ⟨input, small⟩ (List.replicate size 0) (by simpa using enough)
  rw [base64urlString] at encoded
  split at encoded
  next output written =>
    obtain ⟨rfl, -⟩ := exactly.written output written
    have noZero : 0 ∉ urlSafeAlphabet.encode input := fun member => (encode_clean member).2 rfl
    rw [writeAt, List.take_zero, List.nil_append, List.append_assoc, List.singleton_append,
      cString_append_zero noZero] at encoded
    exact (Except.ok.inj encoded).symm
  next => cases encoded
  next => cases encoded

theorem jwsMember_label {label value rest : Bytes} (clean : ∀ c ∈ value, c ≠ 0x22)
    (quote : rest.head? = some 0x22) : jwsMember label (label ++ (value ++ rest)) = some (value, rest) := by
  have stops : rest.takeWhile (· ≠ 0x22) = [] ∧ rest.dropWhile (· ≠ 0x22) = rest := by
    cases rest with
    | nil => simp at quote
    | cons c rest =>
        rw [List.head?_cons, Option.some.injEq] at quote
        simp [quote]
  have whole : ∀ c ∈ value, decide (c ≠ 0x22) = true := fun c member => decide_eq_true (clean c member)
  have labelled : label.isPrefixOf (label ++ (value ++ rest)) = true :=
    List.isPrefixOf_iff_prefix.mpr (List.prefix_append _ _)
  rw [jwsMember, if_pos labelled, List.drop_left, List.takeWhile_append_of_pos whole,
    List.dropWhile_append_of_pos whole, stops.1, stops.2, List.append_nil]

theorem readJws_jwsText (header payload signature : Bytes) :
    readJws (jwsText (urlSafeAlphabet.encode header) (urlSafeAlphabet.encode payload)
      (urlSafeAlphabet.encode signature)) = some ⟨header, payload, signature,
        urlSafeAlphabet.encode header ++ 0x2E :: urlSafeAlphabet.encode payload⟩ := by
  have decoded (data : Bytes) : urlSafeAlphabet.decode (urlSafeAlphabet.encode data) = some data :=
    urlSafeAlphabet.decode_encode (by decide) (by decide) data
  have clean (data : Bytes) : ∀ c ∈ urlSafeAlphabet.encode data, c ≠ 0x22 :=
    fun _ member => (encode_clean member).1
  have third := @jwsMember_label (ascii "\",\"signature\":\"") (urlSafeAlphabet.encode signature)
    (ascii "\"\x7d") (clean signature) rfl
  have second := @jwsMember_label (ascii "\",\"payload\":\"") (urlSafeAlphabet.encode payload)
    (ascii "\",\"signature\":\"" ++ (urlSafeAlphabet.encode signature ++ ascii "\"\x7d")) (clean payload) rfl
  have first := @jwsMember_label (ascii "\x7b\"protected\":\"") (urlSafeAlphabet.encode header)
    (ascii "\",\"payload\":\"" ++ (urlSafeAlphabet.encode payload ++ (ascii "\",\"signature\":\"" ++
      (urlSafeAlphabet.encode signature ++ ascii "\"\x7d")))) (clean header) rfl
  simp only [readJws, jwsText, List.append_assoc, first, second, third, decoded, Option.bind_some,
    Option.map_some, ne_eq, not_true_eq_false, if_false]

/-! ## Nonces and signatures -/

section
variable {hostname : Bytes} {past : IssuanceHistory}

theorem printed_eq {size : Nat} {text out : Bytes} (fits : printed size text = some out) :
    out = text ∧ text.length < size := by
  rw [printed] at fits
  split at fits
  · cases fits
  · exact ⟨(Option.some.inj fits).symm, by omega⟩

theorem sha256Bytes_gives (data : Bytes) : Gives (MayCall hostname)
    (fun digest later => later = ⟨.sha256 data, some digest⟩ :: past ∧ digest.length = 32)
    (fun _ _ => True) (sha256Bytes data) past := by
  simp only [sha256Bytes, gives_bind, gives_lift, gives_ofOption, gives_refuseIf, gives_pure, meets_call,
    meets_done]
  refine ⟨mayCall_of_asksNothing rfl, fun answer => ⟨fun _ => trivial, fun digest same => ?_⟩⟩
  exact ⟨fun _ => trivial, fun length => ⟨by rw [same], Decidable.not_not.mp length⟩⟩

theorem signEs256_gives (key digest : Bytes) : Gives (MayCall hostname)
    (fun signature later => later = ⟨.signHash key digest, some signature⟩ :: past ∧ signature.length = 64)
    (fun _ _ => True) (signEs256 key digest) past := by
  simp only [signEs256, gives_bind, gives_lift, gives_ofOption, gives_refuseIf, gives_pure, meets_call,
    meets_done]
  refine ⟨mayCall_of_asksNothing rfl, fun answer => ⟨fun _ => trivial, fun signature same => ?_⟩⟩
  exact ⟨fun _ => trivial, fun length => ⟨by rw [same], Decidable.not_not.mp length⟩⟩

theorem allocatedIf_meets (allocate : Bool) {post : Bool → IssuanceHistory → Prop}
    (none : post true past) (some : ∀ answer : Bool, post answer (⟨.calloc, answer⟩ :: past)) :
    (allocatedIf allocate).Meets (MayCall hostname) post past := by
  rw [allocatedIf]
  split
  · exact ⟨mayCall_of_asksNothing rfl, some⟩
  · exact none

structure JwsOf (past now : IssuanceHistory) (header payload key text : Bytes) : Prop where
  extended : past <:+ now
  same : lastExchange now = lastExchange past
  read : ∃ signature signingInput digest, readJws text = some ⟨header, payload, signature, signingInput⟩ ∧
    ⟨.sha256 signingInput, some digest⟩ ∈ now ∧ ⟨.signHash key digest, some signature⟩ ∈ now

theorem buildJws_gives {payloadSize signingInputSize : Nat} {allocate : Bool} {header payload key : Bytes}
    {outSize : Nat} (shortHeader : header.length < 2 ^ 31) (shortPayload : payload.length < 2 ^ 31)
    (enough : 2 ≤ payloadSize) : Gives (MayCall hostname)
      (fun text now => JwsOf past now header payload key text) (fun _ _ => True)
      (buildJws payloadSize signingInputSize allocate header payload key outSize) past := by
  simp only [buildJws, gives_bind, gives_lift, gives_ofOption, gives_ofResult, gives_refuseIf,
    implies_true, true_and]
  intro protected64 encodedHeader payload64 encodedPayload
  obtain rfl := base64urlString_eq shortHeader (by decide) encodedHeader
  obtain rfl := base64urlString_eq shortPayload enough encodedPayload
  have signs (start : IssuanceHistory) (extended : past <:+ start)
      (same : lastExchange start = lastExchange past) (input : Bytes)
      (inputIs : input = urlSafeAlphabet.encode header ++ 0x2E :: urlSafeAlphabet.encode payload) :
      Gives (MayCall hostname) (fun digest now => Gives (MayCall hostname) (fun signature now =>
        ∀ signature64, base64urlString signature 96 = .ok signature64 →
          ∀ text, printed outSize (jwsText (urlSafeAlphabet.encode header) (urlSafeAlphabet.encode payload)
            signature64) = some text → JwsOf past now header payload key text)
        (fun _ _ => True) (signEs256 key digest) now) (fun _ _ => True) (sha256Bytes input) start := by
    refine (sha256Bytes_gives input).weaken ?_ fun _ _ _ => trivial
    rintro digest _ ⟨rfl, -⟩
    refine (signEs256_gives key digest).weaken ?_ fun _ _ _ => trivial
    rintro signature _ ⟨rfl, length⟩ signature64 encoded text fits
    obtain rfl := base64urlString_eq (by omega) (by decide) encoded
    obtain ⟨rfl, -⟩ := printed_eq fits
    refine ⟨extended.trans ⟨[_, _], rfl⟩, same, signature, input, digest, ?_, ?_, ?_⟩
    · rw [inputIs]
      exact readJws_jwsText header payload signature
    · exact List.mem_cons_of_mem _ (List.mem_cons_self ..)
    · exact List.mem_cons_self ..
  refine allocatedIf_meets allocate ?_ ?_
  · intro _ input fits
    exact signs past List.suffix_rfl rfl input (printed_eq fits).1
  · intro answer _ input fits
    exact signs _ (List.suffix_cons ..) rfl input (printed_eq fits).1

def FreshNonce (now : IssuanceHistory) (nonce : Bytes) : Prop :=
  nonce ≠ [] ∧ ∃ request answer, lastExchange now = some (request, answer) ∧ request.method = .head ∧
    answer.response.replayNonce = nonce

theorem getNonce_gives {nonceUrl : Bytes} (https : isHttpsUrl nonceUrl = true) : Gives (MayCall hostname)
    (fun nonce now => FreshNonce now nonce) (fun _ _ => True) (getNonce nonceUrl) past := by
  simp only [getNonce, gives_bind, gives_lift, gives_refuseIf, gives_pure, meets_call, meets_done,
    implies_true, true_and]
  refine ⟨mayCall_of_asksNothing rfl, fun allocated _ => ⟨?_, ?_⟩⟩
  · exact mayCall_of_reads (.inr rfl) (.inl https) fun _ bears => absurd bears (not_bearsToken (by decide))
  intro answer client noError status given
  exact ⟨given, _, answer, rfl, rfl, rfl⟩

theorem postJws_gives {userAgent : String} {url text : Bytes} {status : Int} {jws : Jws}
    (read : readJws text = some jws)
    (may : MayCall hostname past (.http ⟨.post, url, joseHeaders userAgent, some text⟩)) :
    Gives (MayCall hostname)
      (fun result now => Received now url jws.payload result.1 result.2 ∧ result.1.overflow = false)
      (fun _ _ => True) (postJws userAgent url text status) past := by
  simp only [postJws, gives_bind, gives_lift, gives_refuseIf, gives_pure, meets_call, meets_done,
    implies_true, true_and]
  refine ⟨may, fun answer client noError whole => ⟨?_, by simpa using whole⟩⟩
  exact ⟨_, answer, jws, List.mem_cons_self .., by simp [postedJws, read], rfl, by simpa using client,
    by simpa using noError, rfl, rfl⟩

structure PayloadDue (hostname : Bytes) (past : IssuanceHistory) (url payload : Bytes) : Prop where
  secure : UrlDue past hostname url
  trigger : payload = triggerPayload → TriggerDue past hostname url
  finalize : ∀ csr64, payload = finalizePayload csr64 → FinalizeDue past hostname url

theorem PayloadDue.later {now : IssuanceHistory} {url payload : Bytes}
    (due : PayloadDue hostname past url payload) (extended : past <:+ now) :
    PayloadDue hostname now url payload :=
  ⟨due.secure.later extended, fun same => (due.trigger same).later extended,
    fun csr64 same => (due.finalize csr64 same).later extended⟩

theorem mayCall_post {url payload key identity nonce text : Bytes} {start : IssuanceHistory}
    {userAgent : String} (free : ¬ascii "Bearer " <:+: ascii userAgent)
    (due : PayloadDue hostname past url payload) (known : AccountKey past key) (identifies : Identifies past key identity)
    (fresh : FreshNonce start nonce) (extended : past <:+ start) {now : IssuanceHistory}
    (built : JwsOf start now (jwsHeader identity nonce url) payload key text) :
    MayCall hostname now (.http ⟨.post, url, joseHeaders userAgent, some text⟩) := by
  obtain ⟨given, request, answer, last, head, is⟩ := fresh
  obtain ⟨later, same, signature, input, digest, read, hashed, signs⟩ := built
  have after := extended.trans later
  have posted : ∀ other jws, postedJws (.http ⟨.post, url, joseHeaders userAgent, some text⟩) = some (other, jws) →
      other = url ∧ jws = ⟨jwsHeader identity nonce url, payload, signature, input⟩ := by
    intro other jws posted
    rw [postedJws, read] at posted
    cases posted
    exact ⟨rfl, rfl⟩
  refine ⟨?_, ?_, ?_, ?_, ?_, ?_, by simp, by simp, by simp, by simp⟩
  · rintro request ⟨⟩
    exact due.secure.later after
  · rintro request token ⟨⟩ bears
    refine absurd bears (not_bearsToken ?_)
    simp only [joseHeaders, List.forall_mem_cons]
    have named : ascii "User-Agent" ≠ ascii "Authorization" := by decide
    exact ⟨by decide, by decide, ⟨named, free⟩, by simp⟩
  · rintro other headers body ⟨⟩
    exact ⟨text, rfl, .inl (by simp [read])⟩
  · intro other jws posts
    obtain ⟨rfl, rfl⟩ := posted other jws posts
    exact ⟨key, identity, nonce, known.later after, identifies.later after, rfl, given,
      ⟨request, answer, same.trans last, head, is⟩, digest, hashed, signs⟩
  · intro other jws posts is
    obtain ⟨rfl, rfl⟩ := posted other jws posts
    exact (due.later after).trigger is
  · intro other jws csr64 posts is
    obtain ⟨rfl, rfl⟩ := posted other jws posts
    exact (due.later after).finalize csr64 is

/-! ## Signed requests -/

theorem kidProtected_eq (kid nonce url : Bytes) :
    kidProtected kid nonce url = jwsHeader (ascii "\"kid\":\"" ++ kid ++ ascii "\"") nonce url := by
  have opening : ascii "\x7b\"alg\":\"ES256\",\"kid\":\"" =
      ascii "\x7b\"alg\":\"ES256\"," ++ ascii "\"kid\":\"" := rfl
  have closing : ascii "\",\"nonce\":\"" = ascii "\"" ++ ascii ",\"nonce\":\"" := rfl
  simp only [kidProtected, jwsHeader, opening, closing, List.append_assoc]

theorem newAccountProtected_eq (jwk nonce url : Bytes) :
    newAccountProtected jwk nonce url = jwsHeader (ascii "\"jwk\":" ++ jwk) nonce url := by
  have opening : ascii "\x7b\"alg\":\"ES256\",\"jwk\":" =
      ascii "\x7b\"alg\":\"ES256\"," ++ ascii "\"jwk\":" := rfl
  simp only [newAccountProtected, jwsHeader, opening, List.append_assoc]

structure Account (past : IssuanceHistory) (key kid : Bytes) : Prop where
  known : AccountKey past key
  url : ⟨.nvsGetStr "acct_prod", .found kid⟩ ∈ past
  https : isHttpsUrl kid = true

theorem Account.later {now : IssuanceHistory} {key kid : Bytes} (account : Account past key kid)
    (extended : past <:+ now) : Account now key kid :=
  ⟨account.known.later extended, extended.mem account.url, account.https⟩

theorem buildKidJws_gives {url nonce kid payload key : Bytes} (short : payload.length < 2 ^ 31) :
    Gives (MayCall hostname) (fun text now => JwsOf past now
      (jwsHeader (ascii "\"kid\":\"" ++ kid ++ ascii "\"") nonce url) payload key text) (fun _ _ => True)
      (buildKidJws url nonce kid payload key acmeJwsMax) past := by
  simp only [buildKidJws, gives_bind, gives_ofOption, implies_true, true_and]
  intro header fits
  have is := (printed_eq fits).1.trans (kidProtected_eq kid nonce url)
  have small : header.length < 2 ^ 31 := by
    rw [(printed_eq fits).1]
    exact (printed_eq fits).2.trans (by decide)
  rw [← is]
  exact buildJws_gives small short (by omega)

theorem signedAttempt_gives {nonceUrl url kid payload key : Bytes}
    {again : Int → Acme (EspErr × Int) (AcmeResponse × Int)} {status : Int}
    (short : payload.length < 2 ^ 31) (https : isHttpsUrl nonceUrl = true)
    (account : Account past key kid) (due : PayloadDue hostname past url payload)
    (next : ∀ now status, past <:+ now → Gives (MayCall hostname)
      (fun result now => Received now url payload result.1 result.2 ∧ past <:+ now) (fun _ _ => True)
      (again status) now) : Gives (MayCall hostname)
      (fun result now => Received now url payload result.1 result.2 ∧ past <:+ now) (fun _ _ => True)
      (signedAttempt nonceUrl url kid payload key again status) past := by
  simp only [signedAttempt, gives_bind, gives_lift, gives_refuseIf, gives_failing, meets_call, meets_done,
    implies_true, true_and]
  refine (getNonce_gives https).extends.weaken ?_ fun _ _ _ => trivial
  rintro nonce start ⟨fresh, extended⟩
  refine ⟨mayCall_of_asksNothing rfl, fun allocated _ => ?_⟩
  refine (buildKidJws_gives short).weaken ?_ fun _ _ _ => trivial
  intro text now built
  have held : past <:+ ⟨.calloc, allocated⟩ :: start := extended.trans (List.suffix_cons ..)
  have still : FreshNonce (⟨.calloc, allocated⟩ :: start) nonce := fresh
  have identifies : Identifies past key _ := .inl ⟨kid, account.url, account.https, rfl⟩
  obtain ⟨signature, input, digest, read, -⟩ := built.read
  refine (postJws_gives read (mayCall_post (by decide) due account.known identifies still held built)).extends.weaken ?_ fun _ _ _ => trivial
  rintro ⟨response, status⟩ last ⟨⟨received, -⟩, after⟩
  have all := (held.trans built.extended).trans after
  split
  · exact next last status all
  · exact (gives_pure _).mpr ⟨received, all⟩

theorem signedAttempts_gives {nonceUrl url kid payload key : Bytes} {status : Int} (retries : Nat)
    (short : payload.length < 2 ^ 31) (https : isHttpsUrl nonceUrl = true)
    (account : Account past key kid) (due : PayloadDue hostname past url payload) : Gives (MayCall hostname)
      (fun result now => Received now url payload result.1 result.2 ∧ past <:+ now) (fun _ _ => True)
      (signedAttempts nonceUrl url kid payload key retries status) past := by
  induction retries generalizing past status with
  | zero => exact signedAttempt_gives short https account due fun _ _ _ => (gives_throw _).mpr trivial
  | succ retries ih =>
      refine signedAttempt_gives short https account due fun now status extended => ?_
      refine (ih (account.later extended) (due.later extended)).weaken ?_ fun _ _ _ => trivial
      exact fun result last met => ⟨met.1, extended.trans met.2⟩

theorem signedRequest_gives {nonceUrl url kid payload key : Bytes} (short : payload.length < 2 ^ 31)
    (https : isHttpsUrl nonceUrl = true) (account : Account past key kid) (due : PayloadDue hostname past url payload) :
    Gives (MayCall hostname)
      (fun result now => Received now url payload result.1 result.2 ∧ past <:+ now) (fun _ _ => True)
      (signedRequest nonceUrl url kid payload key) past := signedAttempts_gives _ short https account due

end

end NtsTimeServer.Proof
