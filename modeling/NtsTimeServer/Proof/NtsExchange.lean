import NtsTimeServer.Model.NtsExchange
import NtsTimeServer.Proof.AuthResponse
import NtsTimeServer.Proof.CookieLifetime
import NtsTimeServer.Proof.CookieRoundTrip

namespace NtsTimeServer.Proof
open Model Lib

variable {aead : Aead}

theorem authenticatorFields_authBytes {nonce ciphertext : Bytes}
    (length : nonce.length = ntsAesSivNonceLen) (aligned : ciphertext.length % 4 = 0)
    (fits : ciphertext.length < 65536) :
    authenticatorFields (authBytes nonce ciphertext) = some (nonce, ciphertext) := by
  obtain ⟨nonceLen, ciphertextLen, nonceBytes, rest⟩ := authBytes_reads length fits
  have size : (authBytes nonce ciphertext).length = 20 + ciphertext.length := authBytes_length length
  have padded : roundUp4 16 = 16 := rfl
  unfold authenticatorFields
  dsimp only
  rw [nonceLen, ciphertextLen, padded, roundUp4_eq aligned, if_neg (by omega), nonceBytes, rest,
    List.take_length]

section

variable {context : NtsNtpAuthContext} {nonce : CookieNonce} {cookies : List Bytes}
  {ciphertext packet packet' : Bytes} {capacity packetLen : Nat}

theorem ProtectedBy.wellFormed (protects : ProtectedBy aead context nonce cookies ciphertext packet
    packet' capacity packetLen) :
    ∀ field ∈ [uniqueIdField context, authenticatorField nonce ciphertext], field.WellFormed := by
  have few := cookieCount_le context
  have count := protects.count
  have uid := protects.uid
  have ciphertextLen := ciphertext_length protects.whole protects.encrypted
  have uidLen : (uniqueIdField context).body.length = context.uniqueIdLen := by
    rw [uniqueIdField, List.length_take, context.uniqueId.length, min_eq_left uid.1]
  have authLen : (authenticatorField nonce ciphertext).body.length = 20 + ciphertext.length :=
    authBytes_length nonce.length
  have uidField : (uniqueIdField context).WellFormed :=
    ⟨show ntsEfUniqueIdentifier < 65536 by decide, by omega, by omega⟩
  have authField : (authenticatorField nonce ciphertext).WellFormed :=
    ⟨show ntsEfAuthenticator < 65536 by decide, by omega, by omega⟩
  exact List.forall_mem_cons.mpr ⟨uidField, List.forall_mem_singleton.mpr authField⟩

theorem cookieField_wellFormed {cookies : List Bytes}
    (whole : ∀ cookie ∈ cookies, cookie.length = ntsCookieLen) :
    ∀ field ∈ cookies.map cookieField, field.WellFormed := by
  refine List.forall_mem_map.mpr fun cookie mem => ?_
  have length : (cookieField cookie).body.length = 128 := whole cookie mem
  exact ⟨show ntsEfCookie < 65536 by decide, by omega, by omega⟩

theorem cookieField_bodies (cookies : List Bytes) :
    ((cookies.map cookieField).filter fun field => field.type == ntsEfCookie).map Field.body = cookies := by
  induction cookies with
  | nil => rfl
  | cons cookie rest ih => simpa [cookieField] using ih

theorem clientCookies_of_protected (roundTrip : aead.RoundTrip)
    (protects : ProtectedBy aead context nonce cookies ciphertext packet packet' capacity packetLen)
    (base : 48 ≤ packet.length) :
    clientCookies aead context.keys.s2cKey (packet'.take packetLen) = some cookies := by
  have few := cookieCount_le context
  have count := protects.count
  have ciphertextLen := ciphertext_length protects.whole protects.encrypted
  have header : (packet.take 48).length = ntpHeaderLen := by
    rw [List.length_take, min_eq_left base]
    rfl
  have body : (packet'.take packetLen).drop ntpHeaderLen =
      encodeFields [uniqueIdField context, authenticatorField nonce ciphertext] := by
    rw [protects.sent base, List.drop_left' header]
    simp
  have associated : (packet'.take packetLen).take
      (ntpHeaderLen + (encodeFields [uniqueIdField context]).length) =
      packet.take 48 ++ (uniqueIdField context).encode := by
    rw [protects.sent base, ← List.append_assoc]
    refine List.take_left' ?_
    rw [List.length_append, header]
    simp
  have parts : authenticatorFields (authenticatorField nonce ciphertext).body =
      some (nonce.bytes, ciphertext) :=
    authenticatorFields_authBytes nonce.length (by omega) (by omega)
  have before : [uniqueIdField context, authenticatorField nonce ciphertext].takeWhile
      (fun field => field.type != ntsEfAuthenticator) = [uniqueIdField context] := rfl
  have found : [uniqueIdField context, authenticatorField nonce ciphertext].find?
      (fun field => field.type == ntsEfAuthenticator) = some (authenticatorField nonce ciphertext) := rfl
  have decrypted := roundTrip _ _ _ _ _ protects.encrypted
  have inner := parseFields_encodeFields (cookieField_wellFormed protects.whole)
  simp only [clientCookies, body, parseFields_encodeFields protects.wellFormed, before, found,
    associated, parts, decrypted, Except.toOption, inner, cookieField_bodies, Option.bind_eq_bind,
    Option.bind_some, Option.pure_def]

end

/-! ## New requests -/

/-- A request with one cookie that a client authenticates with its C2S key. -/
structure Requests (aead : Aead) (c2sKey : TrafficKey) (cookie : Bytes) (layout : Layout) : Prop where
  wellFormed : layout.WellFormed
  fits : layout.packet.length ≤ ntsNtpMaxPacketSize
  uniqueId : ∃ uid, bodies ntsEfUniqueIdentifier layout.before = [uid] ∧ 32 ≤ uid.length ∧
    uid.length ≤ ntsNtpMaxUidLen
  cookie : bodies ntsEfCookie layout.before = [cookie]
  authenticated : ∃ (nonce : CookieNonce) (tag : Bytes),
    layout.authenticator.body = authBytes nonce.bytes tag ∧
      aead.encrypt c2sKey.bytes layout.associatedData nonce.bytes [] = .ok tag

theorem Requests.collects {c2sKey : TrafficKey} {cookie : Bytes} {layout : Layout}
    (requests : Requests aead c2sKey cookie layout) (length : cookie.length = 128) :
    ∃ uid placeholderLengths, collectFields layout.packet layout.packet.length ntpHeaderLen noFields =
        .ok ⟨some uid, some cookie, placeholderLengths,
          some (layout.associatedData.length, layout.authenticator.body)⟩ ∧
      placeholderLengths =
        ((bodies ntsEfCookiePlaceholder layout.before).map List.length).take ntsNtpMaxPlaceholders := by
  obtain ⟨wellFormed, fits, ⟨uid, uidBodies, least, most⟩, cookieBodies, -⟩ := requests
  have collectable : Collectable ([] ++ layout.before) := by
    rw [List.nil_append]
    refine ⟨by rw [uidBodies]; rfl, ?_, by rw [cookieBodies]; rfl, ?_⟩
    · rw [uidBodies]
      exact List.forall_mem_singleton.mpr ⟨least, most⟩
    · rw [cookieBodies]
      exact List.forall_mem_singleton.mpr ⟨by omega, by simp only [ntsCookieMaxLen]; omega⟩
  have others : ∀ field ∈ layout.before, field.type ≠ ntsEfAuthenticator :=
    fun field mem => (wellFormed.before field mem).2
  obtain ⟨fields, folded⟩ := foldFields_ok noFields_collected others collectable
  have collected := foldFields_collected noFields_collected others folded
  have fieldsUid := collected.uid
  have fieldsCookie := collected.cookie
  rw [List.nil_append, uidBodies] at fieldsUid
  rw [List.nil_append, cookieBodies] at fieldsCookie
  have placeholders := collected.placeholders
  obtain ⟨fieldUid, fieldCookie, placeholderLengths, auth⟩ := fields
  obtain rfl : fieldUid = some uid := Option.toList_eq_singleton_iff.mp fieldsUid.symm
  obtain rfl : fieldCookie = some cookie := Option.toList_eq_singleton_iff.mp fieldsCookie.symm
  have locals := wellFormed.collectFields
  rw [folded] at locals
  exact ⟨uid, placeholderLengths, locals, placeholders⟩

theorem Requests.authenticates (roundTrip : aead.RoundTrip) {c2sKey : TrafficKey} {cookie : Bytes}
    {layout : Layout} (requests : Requests aead c2sKey cookie layout) :
    ∃ (nonce : CookieNonce) (tag : Bytes),
      authenticatorParts layout.authenticator.body = .ok (nonce.bytes, tag) ∧
      aead.decrypt c2sKey.bytes (layout.packet.take layout.associatedData.length) nonce.bytes tag = .ok [] := by
  obtain ⟨nonce, tag, body, encrypted⟩ := requests.authenticated
  have tagLen := aead.encrypt_length encrypted
  simp only [ntsAesSivTagLen, List.length_nil] at tagLen
  refine ⟨nonce, tag, ?_, ?_⟩
  · rw [body]
    exact authenticatorParts_authBytes nonce.length (by simp only [ntsAesSivTagLen]; omega) (by omega)
      (by omega)
  · rw [Layout.packet, List.take_left' rfl]
    exact roundTrip _ _ _ _ _ encrypted

theorem Requests.least {c2sKey : TrafficKey} {cookie : Bytes} {layout : Layout}
    (requests : Requests aead c2sKey cookie layout) : ntpHeaderLen ≤ layout.packet.length := by
  have header := requests.wellFormed.header
  simp only [Layout.packet, Layout.associatedData, List.length_append]
  omega

theorem Requests.verified (roundTrip : aead.RoundTrip) {keys : CookieKeys} {cookie : Bytes}
    {layout : Layout} (requests : Requests aead keys.c2sKey cookie layout) {store store' : Option Keyring}
    {env : CookieEnv} (unpacked : ntsCookieUnpack aead store env cookie = (.ok keys, store')) :
    ∃ context, ntsNtpAuthVerifyRequest aead store env layout.packet = (.ok context, store') ∧
      context.keys = keys := by
  have length : cookie.length = 128 := ntsCookieUnpack_length (by rw [unpacked])
  obtain ⟨uid, placeholderLengths, collected, -⟩ := requests.collects length
  obtain ⟨nonce, tag, parts, decrypted⟩ := requests.authenticates roundTrip
  have accepts : Accepts aead store env layout.packet
      ⟨uniqueIdOf uid, uid.length, placeholderLengths.count cookie.length, layout.packet.length, keys, true⟩
      store' ⟨uid, cookie, placeholderLengths, layout.associatedData.length, layout.authenticator.body,
        nonce.bytes, tag⟩ :=
    ⟨requests.least, requests.fits, collected, parts, unpacked, decrypted, rfl⟩
  exact ⟨_, accepts.verified, rfl⟩

section

variable {ι : Type}

theorem createReturns_ok {s : CookieSystem ι} {task : ι} {keys : CookieKeys} {loadFails : Bool}
    {nonce : CookieNonce} {cookie : Bytes}
    (returned : s.createReturns aead task keys loadFails nonce = .ok cookie) :
    ∃ keyring cookieLen, s.tasks task = .maintained (.create keys cookieLen) ∧
      loadCookieKeyring s.store loadFails = .ok keyring ∧
      createLoaded aead keyring keys cookieLen nonce = .ok cookie := by
  unfold CookieSystem.createReturns at returned
  split at returned
  · rename_i keys' cookieLen maintained
    split at returned
    · rename_i same
      subst same
      split at returned
      · cases returned
      · rename_i keyring loaded
        exact ⟨keyring, cookieLen, maintained, loaded, returned⟩
    · cases returned
  · cases returned

theorem createReturns_length {s : CookieSystem ι} {task : ι} {keys : CookieKeys} {loadFails : Bool}
    {nonce : CookieNonce} {cookie : Bytes}
    (returned : s.createReturns aead task keys loadFails nonce = .ok cookie) :
    cookie.length = ntsCookieLen := by
  obtain ⟨keyring, cookieLen, -, -, created⟩ := createReturns_ok returned
  unfold createLoaded at created
  split at created
  · cases created
  · split at created
    · cases created
    · exact sealCookie_length created

variable [DecidableEq ι]

theorem apply_created {s t : CookieSystem ι} {event : CookieEvent ι}
    (taken : s.apply aead event = some t) : s.created ⊆ t.created := by
  cases applied_of_apply taken with
  | finish => exact List.subset_cons_self _ _
  | _ => exact List.Subset.refl _

theorem cookieStep_created {s t : CookieSystem ι} {event : CookieEvent ι}
    (taken : cookieStep aead s event = some t) : s.created ⊆ t.created := by
  obtain ⟨now, -, -, -, -, taken⟩ := cookieStep_some taken
  have kept := apply_created taken
  exact kept

theorem run_created {meets : CookieSystem ι → CookieEvent ι → Prop} {s t : CookieSystem ι}
    {events : List (CookieEvent ι)} (run : Run (cookieStep aead) meets s events t) :
    s.created ⊆ t.created :=
  run.invariant (fun _ t => s.created ⊆ t.created) (List.Subset.refl _)
    fun _ _ _ _ kept _ taken => List.Subset.trans kept (cookieStep_created taken)

/-- Every cookie that a call returns has been created in the history that the call is part of. -/
def CreatesInHistory (aead : Aead) (keys : CookieKeys)
    (create : Nat → ExceptT (Halt EspErr) (StateM (CookieSystem ι)) Bytes) : Prop :=
  ∀ turn s cookie s', (create turn).run.run s = (.ok cookie, s') →
    ∃ events, Run (cookieStep aead) SavesKeep s events s' ∧ (cookie, keys) ∈ s'.created

theorem finish_created {s t : CookieSystem ι} {task : ι} {keys : CookieKeys} {loadFails : Bool}
    {nonce : CookieNonce} {cookie : Bytes}
    (returned : s.createReturns aead task keys loadFails nonce = .ok cookie)
    (taken : cookieStep aead s (.finish task loadFails nonce) = some t) :
    (cookie, keys) ∈ t.created := by
  obtain ⟨keyring, cookieLen, maintained, loaded, created⟩ := createReturns_ok returned
  simp only [cookieStep, CookieEvent.clock, CookieSystem.apply, maintained, loaded, created] at taken
  cases taken
  exact List.mem_cons_self

theorem createIn_run (task : ι) (keys : CookieKeys) (history : CreateHistory ι) (s : CookieSystem ι) :
    (createIn aead SavesKeep task keys history).run.run s =
      match execute (cookieStep aead) SavesKeep s
          (.call task (.create keys ntsCookieMaxLen) :: history.events) with
      | none => (.error (.error .fail), s)
      | some last =>
          match cookieStep aead last (.finish task history.loadFails history.nonce) with
          | none => (.error (.error .fail), last)
          | some s' =>
              ((last.createReturns aead task keys history.loadFails history.nonce).mapError .error, s') :=
  rfl

theorem createIn_cases {task : ι} {keys : CookieKeys} (history : CreateHistory ι) (s : CookieSystem ι) :
    (∃ err s', (createIn aead SavesKeep task keys history).run.run s = (.error (.error err), s')) ∨
      ∃ events last s' cookie, Run (cookieStep aead) SavesKeep s events last ∧
        cookieStep aead last (.finish task history.loadFails history.nonce) = some s' ∧
        last.createReturns aead task keys history.loadFails history.nonce = .ok cookie ∧
        (createIn aead SavesKeep task keys history).run.run s = (.ok cookie, s') := by
  cases executed : execute (cookieStep aead) SavesKeep s
      (.call task (.create keys ntsCookieMaxLen) :: history.events) with
  | none => exact Or.inl ⟨.fail, s, by rw [createIn_run, executed]⟩
  | some last =>
      cases taken : cookieStep aead last (.finish task history.loadFails history.nonce) with
      | none => exact Or.inl ⟨.fail, last, by rw [createIn_run, executed]; simp only [taken]⟩
      | some s' =>
          cases returned : last.createReturns aead task keys history.loadFails history.nonce with
          | error err => exact Or.inl ⟨err, s', by rw [createIn_run, executed]; simp only [taken, returned]; rfl⟩
          | ok cookie =>
              exact Or.inr ⟨_, last, s', cookie, execute_run executed, taken, returned,
                by rw [createIn_run, executed]; simp only [taken, returned]; rfl⟩

theorem createIn_whole (task : ι) (keys : CookieKeys) (histories : Nat → CreateHistory ι) :
    CreatesWhole fun turn => createIn aead SavesKeep task keys (histories turn) := by
  intro turn s
  rcases createIn_cases (histories turn) s with failed | ⟨_, _, s', cookie, _, _, returned, run⟩
  · exact Or.inr failed
  · exact Or.inl ⟨cookie, s', run, createReturns_length returned⟩

theorem createIn_history (task : ι) (keys : CookieKeys) (histories : Nat → CreateHistory ι) :
    CreatesInHistory aead keys fun turn => createIn aead SavesKeep task keys (histories turn) := by
  intro turn s cookie s' result
  rcases createIn_cases (histories turn) s with ⟨err, s'', failed⟩ |
    ⟨events, last, s'', cookie', run, taken, returned, result'⟩
  · cases failed.symm.trans result
  · cases result'.symm.trans result
    have met : SavesKeep last (.finish task (histories turn).loadFails (histories turn).nonce) := trivial
    exact ⟨_, .next run met taken, finish_created returned taken⟩

theorem CreatesWith.history {keys : CookieKeys}
    {create : Nat → ExceptT (Halt EspErr) (StateM (CookieSystem ι)) Bytes}
    (inHistory : CreatesInHistory aead keys create) {s s' : CookieSystem ι} {cookies : List Bytes}
    (creates : CreatesWith create s cookies s') :
    ∃ events, Run (cookieStep aead) SavesKeep s events s' ∧
      ∀ cookie ∈ cookies, (cookie, keys) ∈ s'.created := by
  induction creates with
  | none create s => exact ⟨[], .start, nofun⟩
  | @next create s mid s' cookie cookies returned _ ih =>
      obtain ⟨events, run, created⟩ := inHistory 0 s cookie mid returned
      obtain ⟨later, run', created'⟩ := ih fun turn => inHistory (turn + 1)
      exact ⟨later ++ events, run.append run',
        List.forall_mem_cons.mpr ⟨run_created run' created, created'⟩⟩

end

/-! ## Continuing from a response -/

section

variable {ι : Type}

/-- A call of `nts_cookie_unpack` that reads its clock before the cookie expires returns the keys of
the cookie, and a new request with the cookie is accepted. -/
def Continues (aead : Aead) (keys : CookieKeys) (s : CookieSystem ι) (cookie : Bytes) : Prop :=
  ∀ env maintained read, Works env maintained read → s.nowNtp ≤ maintained → maintained ≤ read →
    read < 2 ^ 32 → read < keys.expiresNtpSeconds →
    ∃ masterKeyId store,
      ntsCookieUnpack aead s.store env cookie = (.ok { keys with masterKeyId := masterKeyId }, store) ∧
      ∀ layout, Requests aead keys.c2sKey cookie layout →
        ∃ context, ntsNtpAuthVerifyRequest aead s.store env layout.packet = (.ok context, store) ∧
          context.keys = { keys with masterKeyId := masterKeyId }

theorem Sound.continues (roundTrip : aead.RoundTrip) {s : CookieSystem ι} (sound : Sound aead s)
    {cookie : Bytes} {keys : CookieKeys} (created : (cookie, keys) ∈ s.created) :
    Continues aead keys s cookie := by
  intro env maintained read works later le era unexpired
  obtain ⟨masterKeyId, store, unpacked⟩ := sound.survives roundTrip created works later le era unexpired
  refine ⟨masterKeyId, store, unpacked, fun layout requests => ?_⟩
  have sameKey : Requests aead { keys with masterKeyId := masterKeyId }.c2sKey cookie layout := requests
  exact sameKey.verified roundTrip unpacked

theorem Sound.accepted_promised (roundTrip : aead.RoundTrip) {s : CookieSystem ι} (sound : Sound aead s)
    {cookie : Bytes} {keys keys' : CookieKeys} (created : (cookie, keys) ∈ s.created)
    {env : CookieEnv} {maintained read : Nat} (works : Works env maintained read)
    (later : s.nowNtp ≤ maintained) (le : maintained ≤ read) (era : read < 2 ^ 32)
    (unexpired : read < keys.expiresNtpSeconds) {store : Option Keyring}
    (accepted : ntsCookieUnpack aead s.store env cookie = (.ok keys', store)) (cookieLen : Nat) :
    s.promised (.create keys' cookieLen) := by
  obtain ⟨masterKeyId, store', unpacked⟩ := sound.survives roundTrip created works later le era unexpired
  cases accepted.symm.trans unpacked
  have promised := (sound.created _ created).promised
  exact ⟨promised.issued, promised.expires⟩

variable [DecidableEq ι]

/-- From every cookie of a response the client can continue, whatever happens to the keyring before,
while and after the response is built. -/
theorem client_continues (roundTrip : aead.RoundTrip) {requestStore requestStore' : Option Keyring}
    {env : CookieEnv} {request : Bytes} {context : NtsNtpAuthContext}
    (verified : ntsNtpAuthVerifyRequest aead requestStore env request = (.ok context, requestStore'))
    {past : List (CookieEvent ι)} {s s' : CookieSystem ι}
    (history : Run (cookieStep aead) SavesKeep cookieStart past s) {task : ι}
    {histories : Nat → CreateHistory ι} {nonce : CookieNonce} {packet packet' : Bytes}
    (size : packet.length = ntsNtpMaxPacketSize) {packetLen : Nat}
    (returned : (protectResponseWith aead
      (fun turn => createIn aead SavesKeep task context.keys (histories turn)) nonce context packet
      ntpHeaderLen ntsNtpMaxPacketSize).run.run s = (.ok (packet', packetLen), s')) :
    ∃ cookies, clientCookies aead context.keys.s2cKey (packet'.take packetLen) = some cookies ∧
      cookies.length = 1 + context.validPlaceholders ∧
      ∀ cookie ∈ cookies, cookie.length = 128 ∧
        ∀ later t, Run (cookieStep aead) SavesKeep s' later t → Continues aead context.keys t cookie := by
  have base : 48 ≤ packet.length := by
    rw [size]
    decide
  obtain ⟨locals, accepts⟩ := accepts_of_verified verified
  obtain ⟨layout, rfl, found⟩ := accepts.layout
  have answerable := (accepts.authenticates found).answerable (by rw [accepts.context])
    (by rw [accepts.context]) accepts.most
  obtain ⟨cookies, ciphertext, creates, protects⟩ := protectResponseWith_inv
    (createIn_whole task context.keys histories) size.ge returned
  obtain ⟨events, run, created⟩ := creates.history (createIn_history task context.keys histories)
  refine ⟨cookies, clientCookies_of_protected roundTrip protects base,
    protects.count.trans (cookieCount_eq answerable), fun cookie mem => ⟨protects.whole cookie mem, ?_⟩⟩
  intro later t after
  have sound : Sound aead t := run_sound ((history.append run).append after)
  exact sound.continues roundTrip (run_created after (created cookie mem))

end

def exchangeKeys : CookieKeys := ⟨fixedKey, fixedKey, 1, 2592990, 2679390⟩

def exchangeEvents : List (CookieEvent ServerTask) :=
  [.ensure false (some 1000) (randomBytes 1) .saved, .wait 2592990,
    .call .ntsKe (.create exchangeKeys ntsCookieMaxLen), .load .ntsKe false,
    .rotate .ntsKe (some 2592991) (randomBytes 5), .finish .ntsKe false fixedNonce]

def exchangeStart : Option (CookieSystem ServerTask) :=
  execute (cookieStep keyedAead) SavesKeep cookieStart exchangeEvents

theorem exchangeStart_executes : exchangeStart.isSome = true := by decide +kernel

def requestWith (cookie : Bytes) : Bytes :=
  let header := List.replicate 48 0 ++ encodeFields [⟨ntsEfUniqueIdentifier, List.replicate 32 9⟩,
    ⟨ntsEfCookie, cookie⟩, ⟨ntsEfCookiePlaceholder, List.replicate 128 0⟩]
  let tag := (keyedAead.encrypt fixedKey.bytes header fixedNonce.bytes []).toOption.getD []
  header ++ Field.encode ⟨ntsEfAuthenticator, authBytes fixedNonce.bytes tag⟩

def contextWith (keys : CookieKeys) : NtsNtpAuthContext :=
  ⟨uniqueIdOf (List.replicate 32 9), 32, 1, 388, keys, true⟩

def exchangeCookie : Bytes :=
  ((exchangeStart.get exchangeStart_executes).created.headD ([], exchangeKeys)).1

theorem exchangeRequest_verified : ntsNtpAuthVerifyRequest keyedAead
    (exchangeStart.get exchangeStart_executes).store (cookieEnvAt 2592995) (requestWith exchangeCookie) =
      (.ok (contextWith exchangeKeys), (exchangeStart.get exchangeStart_executes).store) := by
  decide +kernel

/-- While the first cookie is created the NTS-KE task saves a ring, so that the NTP server task has
to load the new key. -/
def exchangeHistories : Nat → CreateHistory ServerTask
  | 0 => ⟨[.call .ntsKe (.unpack []), .load .ntsKe false, .rotate .ntsKe (some 2593005) (randomBytes 6),
      .save .ntsKe .saved, .load .ntpServer false, .rotate .ntpServer (some 2593005) (randomBytes 7)],
      false, fixedNonce⟩
  | _ => ⟨[.load .ntpServer false, .rotate .ntpServer (some 2593006) (randomBytes 8)], false, fixedNonce⟩

def exchangeReply : Except (Halt EspErr) (Bytes × Nat) × CookieSystem ServerTask :=
  (protectResponseWith keyedAead
    (fun turn => createIn keyedAead SavesKeep .ntpServer exchangeKeys (exchangeHistories turn)) fixedNonce
    (contextWith exchangeKeys) (List.replicate ntsNtpMaxPacketSize 0) ntpHeaderLen
    ntsNtpMaxPacketSize).run.run (exchangeStart.get exchangeStart_executes)

theorem exchangeReply_sent : exchangeReply.1.toOption.isSome = true := by decide +kernel

theorem exchange_continues : ∃ packet packetLen s' cookies,
    exchangeReply = (.ok (packet, packetLen), s') ∧
      clientCookies keyedAead fixedKey (packet.take packetLen) = some cookies ∧ cookies.length = 2 ∧
      ∀ cookie ∈ cookies, cookie.length = 128 ∧ Continues keyedAead exchangeKeys s' cookie := by
  cases returned : exchangeReply with
  | mk result s' =>
      cases result with
      | error halt =>
          have sent := exchangeReply_sent
          rw [returned] at sent
          cases sent
      | ok reply =>
          obtain ⟨cookies, reads, count, continues⟩ := client_continues (idealAead_roundTrip keyedCrypto)
            exchangeRequest_verified (execute_run (Option.some_get exchangeStart_executes).symm)
            List.length_replicate returned
          exact ⟨reply.1, reply.2, s', cookies, rfl, reads, count,
            fun cookie mem => ⟨(continues cookie mem).1, (continues cookie mem).2 [] s' .start⟩⟩

/-! ## A clock that goes back to zero -/

def rolloverRing : Keyring := newKeyring 4294960000 (randomBytes 1)

def rolloverKeys : CookieKeys := ⟨fixedKey, fixedKey, 1, 4294967280, 4295053680⟩

def rolloverCookie : Bytes :=
  (sealCookie keyedAead rolloverRing.active rolloverKeys fixedNonce).toOption.getD []

def rolloverReply : Except (Halt EspErr) (Bytes × Nat) × Option Keyring :=
  (ntsNtpAuthProtectResponse keyedAead (fun _ => cookieEnvAt 4294967290) fixedNonce
    (contextWith rolloverKeys) (List.replicate ntsNtpMaxPacketSize 0) ntpHeaderLen
    ntsNtpMaxPacketSize).run.run (some rolloverRing)

def rolloverRead : Option (List Bytes) :=
  rolloverReply.1.toOption.bind fun (packet, packetLen) =>
    clientCookies keyedAead fixedKey (packet.take packetLen)

/-- The seconds of the clock have 32 bits, the expiry of a cookie has more: 16 s after the response its
cookies seem to be issued in the future. Without a clock, or without the keyring, no cookie is
unpacked. -/
theorem rollover_refuses_cookies :
    ntsNtpAuthVerifyRequest keyedAead (some rolloverRing) (cookieEnvAt 4294967290)
        (requestWith rolloverCookie) = (.ok (contextWith rolloverKeys), some rolloverRing) ∧
      (rolloverRead, rolloverReply.2) = (some [rolloverCookie, rolloverCookie], some rolloverRing) ∧
      10 < rolloverKeys.expiresNtpSeconds ∧
      ntsCookieUnpack keyedAead (some rolloverRing) (cookieEnvAt 10) rolloverCookie =
        (.error .invalidState, some rolloverRing) ∧
      ntsCookieUnpack keyedAead (some rolloverRing) { cookieEnvAt 4294967291 with clock := none }
        rolloverCookie = (.error .invalidState, some rolloverRing) ∧
      ntsCookieUnpack keyedAead (some rolloverRing) { cookieEnvAt 4294967291 with loadFails := true }
        rolloverCookie = (.error .fail, some rolloverRing) := by
  refine ⟨?_, ?_, ?_, ?_, ?_, ?_⟩ <;> decide +kernel

end NtsTimeServer.Proof
