import NtsTimeServer.Model.NtsSession
import NtsTimeServer.Proof.NtsExchange
import NtsTimeServer.Proof.NtsKeResponse

namespace NtsTimeServer.Proof
open Model Lib

variable {aead : Aead} {ι : Type} [DecidableEq ι]

def KeyringRun (aead : Aead) (s s' : CookieSystem ι) : Prop :=
  ∃ events, Run (cookieStep aead) SavesKeep s events s'

theorem KeyringRun.refl (s : CookieSystem ι) : KeyringRun aead s s := ⟨[], .start⟩

theorem KeyringRun.trans {s mid s' : CookieSystem ι} (first : KeyringRun aead s mid)
    (second : KeyringRun aead mid s') : KeyringRun aead s s' := by
  obtain ⟨past, run⟩ := first
  obtain ⟨later, after⟩ := second
  exact ⟨later ++ past, run.append after⟩

theorem KeyringRun.created {s s' : CookieSystem ι} (run : KeyringRun aead s s') : s.created ⊆ s'.created :=
  run.elim fun _ events => run_created events

theorem KeyringRun.sound {s s' : CookieSystem ι} (run : KeyringRun aead s s') (sound : Sound aead s) :
    Sound aead s' :=
  run.elim fun _ events => events.invariant (fun _ s => Sound aead s) sound
    fun _ _ _ _ sound met taken => cookieStep_sound sound met taken

theorem KeyringRun.executed {events : List (CookieEvent ι)} {s s' : CookieSystem ι}
    (executed : execute (cookieStep aead) SavesKeep s events = some s') : KeyringRun aead s s' :=
  ⟨events.reverse, execute_run executed⟩

def Moves {α : Type} (aead : Aead) (m : ExceptT (Halt EspErr) (StateM (CookieSystem ι)) α) : Prop :=
  ∀ s, KeyringRun aead s (m.run.run s).2

section

variable {α β : Type}

theorem Moves.pure (a : α) : Moves (ι := ι) aead (pure a) := KeyringRun.refl

theorem Moves.throw (halt : Halt EspErr) :
    Moves aead (throw halt : ExceptT (Halt EspErr) (StateM (CookieSystem ι)) α) := KeyringRun.refl

theorem Moves.lift (result : Except (Halt EspErr) α) :
    Moves aead (liftM result : ExceptT (Halt EspErr) (StateM (CookieSystem ι)) α) := by
  intro s
  cases result <;> exact KeyringRun.refl s

theorem Moves.bind {m : ExceptT (Halt EspErr) (StateM (CookieSystem ι)) α}
    {f : α → ExceptT (Halt EspErr) (StateM (CookieSystem ι)) β} (first : Moves aead m)
    (second : ∀ a, Moves aead (f a)) : Moves aead (m >>= f) := by
  intro s
  have moved := first s
  cases returned : m.run.run s with
  | mk result mid =>
      rw [returned] at moved
      cases result with
      | error halt => rwa [run_bind_error returned]
      | ok a =>
          rw [run_bind_ok returned]
          exact moved.trans (second a mid)

end

theorem createIn_moves (task : ι) (keys : CookieKeys) (history : CreateHistory ι) :
    Moves aead (createIn aead SavesKeep task keys history) := by
  intro s
  rw [createIn_run]
  split
  next => exact .refl s
  next last executed =>
    split
    next => exact .executed executed
    next s' taken =>
      obtain ⟨events, run⟩ := KeyringRun.executed executed
      have met : SavesKeep last (.finish task history.loadFails history.nonce) := trivial
      exact ⟨_, .next run met taken⟩

theorem keysIn_run (task : ι) (call : CookieCall) (history : KeysHistory ι)
    (read : Keyring → Option Nat → Except EspErr CookieKeys) (s : CookieSystem ι) :
    (keysIn aead SavesKeep task call history read).run.run s =
      match execute (cookieStep aead) SavesKeep s (.call task call :: history.events) with
      | none => (.error (.error .fail), s)
      | some last =>
          match execute (cookieStep aead) SavesKeep last
              (.finish task history.loadFails history.nonce :: history.clock.toList.map .wait) with
          | none => (.error (.error .fail), last)
          | some s' => ((last.keysReturn task call history read).mapError .error, s') := rfl

theorem keysIn_moves (task : ι) (call : CookieCall) (history : KeysHistory ι)
    (read : Keyring → Option Nat → Except EspErr CookieKeys) :
    Moves aead (keysIn aead SavesKeep task call history read) := by
  intro s
  rw [keysIn_run]
  split
  next => exact .refl s
  next last executed =>
    split
    next => exact .executed executed
    next s' finished => exact (KeyringRun.executed executed).trans (.executed finished)

theorem appendCookiesWith_moves {create : Nat → ExceptT (Halt EspErr) (StateM (CookieSystem ι)) Bytes}
    (moves : ∀ turn, Moves aead (create turn)) (count : Nat) (plaintext : Bytes) (plaintextLen : Nat) :
    Moves aead (appendCookiesWith create count plaintext plaintextLen) := by
  induction count generalizing create plaintext plaintextLen with
  | zero => exact .pure _
  | succ count ih =>
      exact (moves 0).bind fun cookie => (Moves.lift _).bind fun written =>
        ih (fun turn => moves (turn + 1)) _ _

theorem protectResponseWith_moves {create : Nat → ExceptT (Halt EspErr) (StateM (CookieSystem ι)) Bytes}
    (moves : ∀ turn, Moves aead (create turn)) (nonce : CookieNonce) (context : NtsNtpAuthContext)
    (packet : Bytes) (basePacketLen packetCapacity : Nat) :
    Moves aead (protectResponseWith aead create nonce context packet basePacketLen packetCapacity) := by
  unfold protectResponseWith
  dsimp only
  split
  next => exact Moves.throw _
  next =>
    refine (Moves.lift _).bind fun uid => (appendCookiesWith_moves moves _ _ _).bind fun cookies => ?_
    refine (Moves.lift _).bind fun ciphertext => (Moves.lift _).bind fun body => (Moves.lift _).bind fun written => ?_
    split
    next => exact Moves.throw _
    next => exact Moves.pure _

theorem verifyWith_moves {unpack : Bytes → ExceptT (Halt EspErr) (StateM (CookieSystem ι)) CookieKeys}
    (moves : ∀ cookie, Moves aead (unpack cookie)) (packet : Bytes) :
    Moves aead (ntsNtpAuthVerifyRequestWith aead unpack packet) := by
  intro s
  simp only [ntsNtpAuthVerifyRequestWith, ExceptT.run, StateT.run]
  split
  next => exact .refl s
  next =>
    rcases collectFields packet packet.length ntpHeaderLen noFields with
      err | ⟨_ | uid, _ | cookie, placeholderLengths, _ | ⟨authOffset, authBody⟩⟩
    case ok.some.some.some =>
      dsimp only
      rcases authenticatorParts authBody with err | ⟨nonce, ciphertext⟩
      · exact .refl s
      · have moved := moves cookie s
        simp only [ExceptT.run, StateT.run] at moved
        dsimp only
        revert moved
        rcases unpack cookie s with ⟨halt | keys, after⟩ <;> intro moved
        · exact moved
        · dsimp only
          rcases aead.decrypt keys.c2sKey.bytes (packet.take authOffset) nonce ciphertext with err | plaintext
          · exact moved
          · dsimp only
            split <;> exact moved
    all_goals exact .refl s

theorem NtpExchange.respond_moves (exchange : NtpExchange ι) : Moves aead (exchange.respond aead SavesKeep) :=
  (verifyWith_moves (fun _ => keysIn_moves _ _ _ _) _).bind fun _ =>
    protectResponseWith_moves (fun _ => createIn_moves _ _ _) _ _ _ _ _

theorem Requests.verifiedWith {c2sKey : TrafficKey} {cookie : Bytes} {layout : Layout}
    (requests : Requests aead c2sKey cookie layout) (length : cookie.length = 128) {σ : Type}
    {unpack : Bytes → ExceptT (Halt EspErr) (StateM σ) CookieKeys} {s s' : σ} {context : NtsNtpAuthContext}
    (returned : (ntsNtpAuthVerifyRequestWith aead unpack layout.packet).run.run s = (.ok context, s')) :
    (unpack cookie).run.run s = (.ok context.keys, s') ∧ context.validPlaceholders =
      (((bodies ntsEfCookiePlaceholder layout.before).map List.length).take ntsNtpMaxPlaceholders).count 128 := by
  obtain ⟨uid, placeholderLengths, collected, placeholders⟩ := requests.collects length
  simp only [ntsNtpAuthVerifyRequestWith, ExceptT.run, StateT.run, collected] at returned
  split at returned
  next => cases returned
  next =>
    split at returned
    next => cases returned
    next =>
      split at returned
      next => cases returned
      next keys after unpacked =>
        split at returned
        next => cases returned
        next =>
          split at returned
          next => cases returned
          next =>
            cases returned
            exact ⟨unpacked, by rw [← placeholders, length]⟩

theorem cookieStep_finish {s t : CookieSystem ι} {task : ι} {fails : Bool} {nonce : CookieNonce}
    (taken : cookieStep aead s (.finish task fails nonce) = some t) : t.nowNtp = s.nowNtp := by
  obtain ⟨now, -, -, same, -, applied⟩ := cookieStep_some taken
  obtain rfl := same rfl
  cases applied_of_apply applied <;> rfl

theorem keysIn_ok {s s' : CookieSystem ι} {task : ι} {call : CookieCall} {history : KeysHistory ι}
    {read : Keyring → Option Nat → Except EspErr CookieKeys} {keys : CookieKeys}
    (returned : (keysIn aead SavesKeep task call history read).run.run s = (.ok keys, s')) :
    ∃ last keyring, KeyringRun aead s last ∧ KeyringRun aead last s' ∧ keyring ∈ last.store ∧
      read keyring history.clock = .ok keys ∧
      ∀ now ∈ history.clock, last.nowNtp ≤ now ∧ now ≤ s'.nowNtp := by
  rw [keysIn_run] at returned
  split at returned
  next => cases returned
  next last executed =>
    split at returned
    next => cases returned
    next after finished =>
      obtain ⟨result, rfl⟩ := Prod.mk.inj returned
      simp only [CookieSystem.keysReturn] at result
      split at result
      next =>
        split at result
        next => cases result
        next keyring loaded =>
          refine ⟨last, keyring, .executed executed, .executed finished, loadCookieKeyring_ok loaded, ?_, ?_⟩
          · cases unpacked : read keyring history.clock with
            | error err =>
                rw [unpacked] at result
                cases result
            | ok keys' =>
                rw [unpacked] at result
                cases result
                rfl
          · intro now clock
            rw [Option.mem_def.mp clock] at finished
            simp only [Option.toList_some, List.map_cons, List.map_nil, execute, SavesKeep, if_true,
              Option.bind_eq_some_iff] at finished
            obtain ⟨idle, taken, rest⟩ := finished
            obtain ⟨t, waited, same⟩ := Option.bind_eq_some_iff.mp rest
            obtain rfl := Option.some.inj same
            obtain ⟨later, le, -, -, same, applied⟩ := cookieStep_some waited
            obtain rfl := same now rfl
            cases applied
            rw [cookieStep_finish taken] at le
            exact ⟨le, le_rfl⟩
      next => cases result

theorem unpackLoaded_clock {keyring : Keyring} {cookie : Bytes} {clock : Option Nat} {keys : CookieKeys}
    (unpacked : unpackLoaded aead keyring cookie clock = .ok keys) : clock.isSome = true := by
  cases clock with
  | none =>
      simp only [unpackLoaded, readCookiePlaintext] at unpacked
      repeat' (split at unpacked)
      all_goals cases unpacked
  | some now => rfl

theorem keysIn_unpack (roundTrip : aead.RoundTrip) {s s' : CookieSystem ι} (sound : Sound aead s) {task : ι}
    {cookie : Bytes} {history : KeysHistory ι} {keys keys' : CookieKeys} (created : (cookie, keys) ∈ s.created)
    (unexpired : ∀ now ∈ history.clock, now < keys.expiresNtpSeconds)
    (returned : (keysIn aead SavesKeep task (.unpack cookie) history fun keyring clock =>
      unpackLoaded aead keyring cookie clock).run.run s = (.ok keys', s')) :
    ∃ masterKeyId, keys' = { keys with masterKeyId := masterKeyId } := by
  obtain ⟨last, keyring, before, -, stored, unpacked, later⟩ := keysIn_ok returned
  obtain ⟨now, clock⟩ := Option.isSome_iff_exists.mp (unpackLoaded_clock unpacked)
  rw [clock] at unpacked
  obtain ⟨masterKeyId, unpacks⟩ := ((before.sound sound).unpacks roundTrip (before.created created)).unpacks
    now (later now clock).1 (unexpired now clock)
  rw [CookieSystem.unpack, Option.mem_def.mp stored] at unpacks
  exact ⟨masterKeyId, Except.ok.inj (unpacked.symm.trans unpacks)⟩

def placeholderCount (layout : Layout) : Nat :=
  (((bodies ntsEfCookiePlaceholder layout.before).map List.length).take ntsNtpMaxPlaceholders).count 128

theorem placeholderCount_le (layout : Layout) : placeholderCount layout ≤ ntsNtpMaxPlaceholders :=
  List.count_le_length.trans (by simp)

theorem NtpExchange.respond_ok (roundTrip : aead.RoundTrip) {s s' : CookieSystem ι} (sound : Sound aead s)
    {exchange : NtpExchange ι} {keys : CookieKeys} (created : (exchange.cookie, keys) ∈ s.created)
    (unexpired : ∀ now ∈ exchange.unpack.clock, now < keys.expiresNtpSeconds) {layout : Layout}
    (sent : layout.packet = exchange.request) (requests : Requests aead keys.c2sKey exchange.cookie layout)
    {packet : Bytes} {packetLen : Nat}
    (returned : (exchange.respond aead SavesKeep).run.run s = (.ok (packet, packetLen), s')) :
    ∃ cookies masterKeyId, clientCookies aead keys.s2cKey (packet.take packetLen) = some cookies ∧
      cookies.length = 1 + placeholderCount layout ∧
      ∀ cookie ∈ cookies, (cookie, { keys with masterKeyId := masterKeyId }) ∈ s'.created := by
  obtain ⟨context, mid, verified, rest⟩ := run_bind_inv returned
  rw [← sent] at verified
  obtain ⟨unpacked, count⟩ := requests.verifiedWith (sound.created _ created).length verified
  obtain ⟨masterKeyId, same⟩ := keysIn_unpack roundTrip sound created unexpired unpacked
  have base : 48 ≤ exchange.packet.length := by
    rw [exchange.size]
    decide
  obtain ⟨cookies, ciphertext, creates, protects⟩ := protectResponseWith_inv
    (createIn_whole exchange.task context.keys exchange.create) exchange.size.ge rest
  obtain ⟨events, run, made⟩ := creates.history (createIn_history exchange.task context.keys exchange.create)
  have reads := clientCookies_of_protected roundTrip protects base
  have few := placeholderCount_le layout
  rw [same] at reads made
  refine ⟨cookies, masterKeyId, reads, ?_, made⟩
  rw [protects.count, cookieCount, count, ← placeholderCount]
  simp only [ntsNtpMaxPlaceholders] at few ⊢
  rw [u16_eq (by omega), min_eq_left (by omega)]

/-! ## The NTS-KE server -/

section

variable {create : Nat → ExceptT (Halt EspErr) (StateM (CookieSystem ι)) Bytes}

theorem appendCookieRecordsWith_moves (moves : ∀ turn, Moves aead (create turn)) (remaining : Nat)
    (response : KeResponse) (s : CookieSystem ι) :
    KeyringRun aead s (appendCookieRecordsWith create remaining response s).2 := by
  induction remaining generalizing create response s with
  | zero => exact .refl s
  | succ remaining ih =>
      have first := moves 0 s
      rw [appendCookieRecordsWith]
      revert first
      rcases (create 0).run.run s with ⟨halt | cookie, mid⟩ <;> intro first
      · exact first
      · dsimp only
        rcases appendRecord response ntsKeRecordNewCookie false cookie with ⟨_ | _, response⟩
        · exact first
        · exact first.trans (ih (fun turn => moves (turn + 1)) response mid)

theorem appendCookieRecordsWith_written {σ : Type} {create : Nat → ExceptT (Halt EspErr) (StateM σ) Bytes}
    {remaining : Nat} {records : List Record} {response next : KeResponse} {s s' : σ} (written : Written records response)
    (appended : appendCookieRecordsWith create remaining response s = ((.ok (), next), s')) :
    ∃ cookies, CreatesWith create s cookies s' ∧ cookies.length = remaining ∧
      Written (records ++ cookies.map cookieRecord) next := by
  induction remaining generalizing create records response s with
  | zero =>
      cases appended
      exact ⟨[], .none create _, rfl, by simpa using written⟩
  | succ remaining ih =>
      rw [appendCookieRecordsWith] at appended
      split at appended
      next => cases appended
      next cookie mid created =>
        have small : (cookieRecord cookie).type < 0x8000 := show ntsKeRecordNewCookie < 0x8000 by decide
        by_cases room : (encodeRecords (records ++ [cookieRecord cookie])).length ≤ ntsKeResponseMax
        · obtain ⟨after, done, longer⟩ := written.append _ small room
          simp only [cookieRecord] at done
          simp only [done] at appended
          obtain ⟨cookies, creates, length, all⟩ := ih longer appended
          refine ⟨cookie :: cookies, .next created creates, by simp [length], ?_⟩
          simpa using all
        · obtain ⟨err, full⟩ := written.refused room
          simp only [cookieRecord] at full
          simp only [full] at appended
          cases appended

end

section

variable {keys : ExceptT (Halt EspErr) (StateM (CookieSystem ι)) CookieKeys}
  {create : CookieKeys → Nat → ExceptT (Halt EspErr) (StateM (CookieSystem ι)) Bytes}

theorem buildSuccessResponseWith_moves (keysMove : Moves aead keys)
    (moves : ∀ keys turn, Moves aead (create keys turn)) (response : KeResponse) (s : CookieSystem ι) :
    KeyringRun aead s (buildSuccessResponseWith keys create response s).2 := by
  have first := keysMove s
  unfold buildSuccessResponseWith
  revert first
  rcases keys.run.run s with ⟨halt | generated, mid⟩ <;> intro first
  · exact first
  · dsimp only
    rcases appendRecord _ ntsKeRecordNextProtocol true [0x00, 0x00] with ⟨_ | _, response⟩
    · exact first
    · dsimp only
      rcases appendRecord _ ntsKeRecordAeadAlgorithm false [0x00, 0x0F] with ⟨_ | _, response⟩
      · exact first
      · have others := appendCookieRecordsWith_moves (moves generated) ntsKeCookieCount response mid
        dsimp only
        revert others
        rcases appendCookieRecordsWith (create generated) ntsKeCookieCount response mid with
          ⟨⟨_ | _, response⟩, after⟩ <;> exact first.trans

theorem buildSuccessResponseWith_written {σ : Type} {keys : ExceptT (Halt EspErr) (StateM σ) CookieKeys}
    {create : CookieKeys → Nat → ExceptT (Halt EspErr) (StateM σ) Bytes} {response next : KeResponse}
    (capacity : response.buffer.length = ntsKeResponseMax) {s s' : σ}
    (built : buildSuccessResponseWith keys create response s = ((.ok (), next), s')) :
    ∃ generated mid cookies, keys.run.run s = (.ok generated, mid) ∧
      CreatesWith (create generated) mid cookies s' ∧ cookies.length = ntsKeCookieCount ∧
      Written (successRecords cookies) next := by
  unfold buildSuccessResponseWith at built
  dsimp only at built
  split at built
  next => cases built
  next generated mid made =>
    obtain ⟨first, appended, written⟩ := (written_nothing capacity).append
      ⟨true, ntsKeRecordNextProtocol, [0x00, 0x00]⟩ (by decide) (by decide)
    obtain ⟨second, appended', written⟩ := written.append
      ⟨false, ntsKeRecordAeadAlgorithm, [0x00, 0x0F]⟩ (by decide) (by decide)
    simp only [appended, appended'] at built
    split at built
    next third after all =>
      obtain ⟨cookies, creates, length, written⟩ := appendCookieRecordsWith_written written all
      have records : successRecords cookies = ([⟨true, ntsKeRecordNextProtocol, [0x00, 0x00]⟩] ++
          [⟨false, ntsKeRecordAeadAlgorithm, [0x00, 0x0F]⟩]) ++ cookies.map cookieRecord ++ [endRecord] := rfl
      refine ⟨generated, mid, cookies, made, ?_, length, ?_⟩
      · obtain ⟨-, rfl⟩ := Prod.mk.inj built
        exact creates
      · by_cases room : (encodeRecords (successRecords cookies)).length ≤ ntsKeResponseMax
        · rw [records] at room
          obtain ⟨last, ended, written⟩ := written.append _ (by decide) room
          simp only [ended] at built
          cases built
          exact written
        · rw [records] at room
          obtain ⟨err, ended⟩ := written.refused room
          simp only [ended] at built
          cases built
    next other =>
      rcases stopped : appendCookieRecordsWith (create generated) ntsKeCookieCount second mid with
        ⟨⟨_ | _, third⟩, after⟩
      · rw [stopped] at built
        cases built
      · exact absurd stopped (other third after)

theorem appendRecord_capacity (response : KeResponse) (type : Nat) (critical : Bool) (body : Bytes) :
    (appendRecord response type critical body).2.buffer.length = response.buffer.length := by
  rw [appendRecord]
  split
  next => rfl
  next =>
    split
    next => rfl
    next =>
      simp only [writeAt, List.length_append, List.length_take, List.length_drop, beBytes_length]
      omega

section

variable {σ : Type}

theorem appendCookieRecordsWith_capacity (create : Nat → ExceptT (Halt EspErr) (StateM σ) Bytes)
    (remaining : Nat) (response : KeResponse) (s : σ) :
    (appendCookieRecordsWith create remaining response s).1.2.buffer.length = response.buffer.length := by
  induction remaining generalizing create response s with
  | zero => rfl
  | succ remaining ih =>
      rw [appendCookieRecordsWith]
      rcases (create 0).run.run s with ⟨halt | cookie, mid⟩
      · rfl
      · have size := appendRecord_capacity response ntsKeRecordNewCookie false cookie
        dsimp only
        revert size
        rcases appendRecord response ntsKeRecordNewCookie false cookie with ⟨_ | _, after⟩ <;> intro size
        · exact size
        · exact (ih _ after mid).trans size

theorem buildSuccessResponseWith_capacity (keys : ExceptT (Halt EspErr) (StateM σ) CookieKeys)
    (create : CookieKeys → Nat → ExceptT (Halt EspErr) (StateM σ) Bytes) (response : KeResponse) (s : σ) :
    (buildSuccessResponseWith keys create response s).1.2.buffer.length = response.buffer.length := by
  unfold buildSuccessResponseWith
  rcases keys.run.run s with ⟨halt | generated, mid⟩
  · rfl
  · have size := appendRecord_capacity { response with used := 0 } ntsKeRecordNextProtocol true [0x00, 0x00]
    dsimp only at size ⊢
    revert size
    rcases appendRecord _ ntsKeRecordNextProtocol true [0x00, 0x00] with ⟨_ | _, first⟩ <;> intro size
    · exact size
    · have size' := appendRecord_capacity first ntsKeRecordAeadAlgorithm false [0x00, 0x0F]
      dsimp only
      revert size'
      rcases appendRecord _ ntsKeRecordAeadAlgorithm false [0x00, 0x0F] with ⟨_ | _, second⟩ <;> intro size'
      · exact size'.trans size
      · have others := appendCookieRecordsWith_capacity (create generated) ntsKeCookieCount second mid
        dsimp only
        revert others
        rcases appendCookieRecordsWith (create generated) ntsKeCookieCount second mid with
          ⟨⟨_ | _, third⟩, after⟩ <;> intro others
        · exact (others.trans size').trans size
        · exact ((appendRecord_capacity _ _ _ _).trans others).trans (size'.trans size)

end

inductive AnswersWith (keys : ExceptT (Halt EspErr) (StateM (CookieSystem ι)) CookieKeys)
    (create : CookieKeys → Nat → ExceptT (Halt EspErr) (StateM (CookieSystem ι)) Bytes) (s s' : CookieSystem ι) :
    List Record → Prop
  | refused (code : Nat) : AnswersWith keys create s s' (errorRecords code)
  | served {generated : CookieKeys} {mid : CookieSystem ι} {cookies : List Bytes} :
      keys.run.run s = (.ok generated, mid) → CreatesWith (create generated) mid cookies s' →
      cookies.length = ntsKeCookieCount → AnswersWith keys create s s' (successRecords cookies)

theorem keRespondWith_answers (keysMove : Moves aead keys) (moves : ∀ keys turn, Moves aead (create keys turn))
    (read : EspErr × Bytes) {response : KeResponse} (capacity : response.buffer.length = ntsKeResponseMax)
    (s : CookieSystem ι) : KeyringRun aead s (keRespondWith keys create read response s).2 ∧
      ∃ records, Written records (keRespondWith keys create read response s).1 ∧
        AnswersWith keys create s (keRespondWith keys create read response s).2 records := by
  rw [keRespondWith]
  split
  next =>
    dsimp only
    split
    next =>
      have moved := buildSuccessResponseWith_moves keysMove moves response s
      have size := buildSuccessResponseWith_capacity keys create response s
      rw [capacity] at size
      revert moved size
      rcases built : buildSuccessResponseWith keys create response s with ⟨⟨err | _, after⟩, s'⟩ <;>
        intro moved size
      · exact ⟨moved, _, buildErrorResponse_written size _, .refused _⟩
      · obtain ⟨generated, mid, cookies, made, creates, length, written⟩ :=
          buildSuccessResponseWith_written capacity built
        exact ⟨moved, _, written, .served made creates length⟩
    next => exact ⟨.refl s, _, buildErrorResponse_written capacity _, .refused _⟩
  next => exact ⟨.refl s, _, buildErrorResponse_written capacity _, .refused _⟩

omit [DecidableEq ι] in
theorem AnswersWith.ne_nil {s s' : CookieSystem ι} {records : List Record}
    (answers : AnswersWith keys create s s' records) : records ≠ [] := by
  cases answers <;> exact List.cons_ne_nil _ _

theorem handleClientWith_answers (keysMove : Moves aead keys)
    (moves : ∀ keys turn, Moves aead (create keys turn)) {reads : List TlsRead} {buffer : KeResponseBuffer}
    {s s' : CookieSystem ι} {sent : Option Bytes}
    (handled : handleClientWith keys create reads buffer s = some (sent, s')) :
    KeyringRun aead s s' ∧ ∃ records, sent = some (encodeRecords records) ∧
      AnswersWith keys create s s' records := by
  obtain ⟨read, -, answered⟩ := Option.map_eq_some_iff.mp handled
  obtain ⟨rfl, rfl⟩ := Prod.mk.inj answered
  obtain ⟨moved, records, written, answers⟩ := keRespondWith_answers keysMove moves read
    (show (⟨buffer.bytes, 0⟩ : KeResponse).buffer.length = _ from buffer.length) s
  exact ⟨moved, records, written_sent written answers.ne_nil, answers⟩

end

theorem clientKeCookies_errorRecords (code : Nat) : clientKeCookies (encodeRecords (errorRecords code)) = none := by
  have wellFormed : ∀ record ∈ errorRecords code, record.WellFormed := by
    intro record mem
    simp only [errorRecords, List.mem_cons, List.not_mem_nil, or_false] at mem
    obtain rfl | rfl := mem
    · exact ⟨show ntsKeRecordError < 0x8000 by decide, by simp⟩
    · exact ⟨by decide, by decide⟩
  rw [clientKeCookies, decodeRecords_encodeRecords wellFormed (Nat.lt_succ_self _)]
  rfl

theorem cookieRecord_bodies (cookies : List Bytes) :
    ((cookies.map cookieRecord).filter fun record => record.type == ntsKeRecordNewCookie).map Record.body =
      cookies := by
  induction cookies with
  | nil => rfl
  | cons cookie rest ih => simpa [cookieRecord] using ih

theorem clientKeCookies_successRecords {cookies : List Bytes}
    (whole : ∀ cookie ∈ cookies, cookie.length = ntsCookieLen) :
    clientKeCookies (encodeRecords (successRecords cookies)) = some cookies := by
  have wellFormed : ∀ record ∈ successRecords cookies, record.WellFormed := by
    intro record mem
    simp only [successRecords, List.mem_cons, List.mem_append, List.mem_map, List.not_mem_nil, or_false] at mem
    obtain rfl | rfl | ⟨cookie, held, rfl⟩ | rfl := mem
    · exact ⟨by decide, by decide⟩
    · exact ⟨by decide, by decide⟩
    · refine ⟨show ntsKeRecordNewCookie < 0x8000 by decide, ?_⟩
      rw [cookieRecord, whole cookie held]
      decide
    · exact ⟨by decide, by decide⟩
  have bodies : ((successRecords cookies).filter fun record => record.type == ntsKeRecordNewCookie).map
      Record.body = cookies := by
    have others := cookieRecord_bodies cookies
    simpa [successRecords, List.filter_append, endRecord, ntsKeRecordNextProtocol, ntsKeRecordAeadAlgorithm,
      ntsKeRecordNewCookie, ntsKeRecordEndOfMessage] using others
  have noError : (successRecords cookies).any (fun record => record.type == ntsKeRecordError) = false := by
    simp [successRecords, cookieRecord, endRecord, ntsKeRecordNextProtocol,
      ntsKeRecordAeadAlgorithm, ntsKeRecordNewCookie, ntsKeRecordEndOfMessage, ntsKeRecordError]
  rw [clientKeCookies, decodeRecords_encodeRecords wellFormed (Nat.lt_succ_self _), Option.bind_eq_bind,
    Option.bind_some, if_neg (by simp only [noError]; decide), bodies]
  rfl

theorem KeSession.keys_moves (session : KeSession ι) : Moves aead (session.keys aead SavesKeep) := by
  rw [KeSession.keys]
  split
  next => exact keysIn_moves _ _ _ _
  next => exact .throw _

theorem KeSession.keys_ok {session : KeSession ι} {s mid : CookieSystem ι} {keys : CookieKeys}
    (returned : (session.keys aead SavesKeep).run.run s = (.ok keys, mid)) :
    keys.c2sKey = session.c2sKey ∧ keys.s2cKey = session.s2cKey := by
  rw [KeSession.keys] at returned
  split at returned
  next =>
    obtain ⟨last, keyring, -, -, -, generated, -⟩ := keysIn_ok returned
    unfold generateLoaded at generated
    split at generated
    all_goals cases generated
    exact ⟨rfl, rfl⟩
  next => cases returned

theorem KeSession.respond_ok {session : KeSession ι} {s s' : CookieSystem ι} {response : Option Bytes}
    (responded : session.respond aead SavesKeep s = some (response, s')) :
    KeyringRun aead s s' ∧ ∀ cookies, response.bind clientKeCookies = some cookies →
      cookies.length = ntsKeCookieCount ∧ ∃ keys : CookieKeys, keys.c2sKey = session.c2sKey ∧
        keys.s2cKey = session.s2cKey ∧ ∀ cookie ∈ cookies, (cookie, keys) ∈ s'.created := by
  obtain ⟨moved, records, rfl, answers⟩ := handleClientWith_answers (KeSession.keys_moves session)
    (fun _ _ => createIn_moves _ _ _) responded
  refine ⟨moved, fun cookies read => ?_⟩
  cases answers with
  | refused code =>
      rw [Option.bind_some, clientKeCookies_errorRecords] at read
      cases read
  | @served generated mid made returned creates length =>
      have whole := creates.cookie_length (createIn_whole session.task generated session.create)
      obtain ⟨events, run, created⟩ := creates.history
        (createIn_history session.task generated session.create)
      rw [Option.bind_some, clientKeCookies_successRecords whole, Option.some.injEq] at read
      subst read
      exact ⟨length, generated, (KeSession.keys_ok returned).1, (KeSession.keys_ok returned).2, created⟩

/-! ## The system -/

section

variable {κ : Type}

/-- A client spends a cookie on a request of its own, before the cookie expires. -/
def AsksWith (aead : Aead) (s : NtsSystem ι κ) (client : NtsClient) (exchange : NtpExchange ι)
    (layout : Layout) : Prop :=
  layout.packet = exchange.request ∧ Requests aead client.c2sKey exchange.cookie layout ∧
    ∀ keys, (exchange.cookie, keys) ∈ s.keyring.created → ∀ now ∈ exchange.unpack.clock,
      now < keys.expiresNtpSeconds

def ClientsAsk (aead : Aead) (s : NtsSystem ι κ) : NtsEvent ι κ → Prop
  | .exchange client exchange => ∀ held, s.clients client = some held →
      ∃ layout, AsksWith aead s held exchange layout
  | .keyring _ | .establish .. => True

def HoldsIssued (keyring : CookieSystem ι) (client : NtsClient) (issued : Nat) : Prop :=
  ∀ cookie ∈ client.cookies, ∃ keys : CookieKeys, (cookie, keys) ∈ keyring.created ∧
    keys.c2sKey = client.c2sKey ∧ keys.s2cKey = client.s2cKey ∧ keys.issuedNtpSeconds = issued

structure SessionsSound (aead : Aead) (s : NtsSystem ι κ) : Prop where
  keyring : Sound aead s.keyring
  clients : ∀ client held, s.clients client = some held → ∃ issued, HoldsIssued s.keyring held issued

theorem HoldsIssued.later {keyring keyring' : CookieSystem ι} {client : NtsClient} {issued : Nat}
    (holds : HoldsIssued keyring client issued) (run : KeyringRun aead keyring keyring') :
    HoldsIssued keyring' client issued := by
  intro cookie mem
  obtain ⟨keys, created, rest⟩ := holds cookie mem
  exact ⟨keys, run.created created, rest⟩

theorem SessionsSound.keyringRun {s : NtsSystem ι κ} (sound : SessionsSound aead s) {keyring : CookieSystem ι}
    (run : KeyringRun aead s.keyring keyring) : SessionsSound aead { s with keyring := keyring } :=
  ⟨run.sound sound.keyring, fun client held here => (sound.clients client held here).imp
    fun _ holds => holds.later run⟩

variable [DecidableEq κ]

omit [DecidableEq ι] in
theorem SessionsSound.update {s : NtsSystem ι κ} (sound : SessionsSound aead s) {client : κ} {held : NtsClient}
    {issued : Nat} (holds : HoldsIssued s.keyring held issued) :
    SessionsSound aead ⟨s.keyring, Function.update s.clients client (some held)⟩ := by
  refine ⟨sound.keyring, fun other theirs here => ?_⟩
  by_cases same : other = client
  · subst same
    simp only [Function.update_self, Option.some.injEq] at here
    subst here
    exact ⟨issued, holds⟩
  · simp only [Function.update_of_ne same] at here
    exact sound.clients other theirs here

theorem establish_sound {s t : NtsSystem ι κ} (sound : SessionsSound aead s) {client : κ} {session : KeSession ι}
    (taken : s.establish aead SavesKeep client session = some t) : SessionsSound aead t := by
  obtain ⟨⟨response, keyring⟩, responded, rfl⟩ := Option.map_eq_some_iff.mp taken
  obtain ⟨moved, reads⟩ := KeSession.respond_ok responded
  have later := sound.keyringRun moved
  dsimp only
  split
  next => exact later
  next cookies read =>
    split at read
    next =>
      obtain ⟨-, keys, c2sKey, s2cKey, created⟩ := reads cookies read
      have holds : HoldsIssued keyring ⟨session.c2sKey, session.s2cKey, cookies, 0⟩ keys.issuedNtpSeconds :=
        fun cookie mem => ⟨keys, created cookie mem, c2sKey, s2cKey, rfl⟩
      exact later.update holds
    next => cases read

omit [DecidableEq ι] in
theorem spend_issued {keyring : CookieSystem ι} {held : NtsClient} {cookie : Bytes} {fresh : Option (List Bytes)}
    {issued : Nat} (holds : HoldsIssued keyring held issued)
    (brought : ∀ cookies, fresh = some cookies → HoldsIssued keyring { held with cookies := cookies } issued) :
    HoldsIssued keyring (held.spend cookie fresh) issued := by
  cases fresh with
  | none => exact fun other mem => holds other (List.mem_of_mem_erase mem)
  | some cookies =>
      intro other mem
      obtain kept | new := List.mem_append.mp mem
      · exact holds other (List.mem_of_mem_erase kept)
      · exact brought cookies rfl other new

theorem exchange_effect (roundTrip : aead.RoundTrip) {s t : NtsSystem ι κ} (sound : SessionsSound aead s)
    {client : κ} {held : NtsClient} (here : s.clients client = some held) {exchange : NtpExchange ι}
    {layout : Layout} (asks : AsksWith aead s held exchange layout)
    (taken : s.exchange aead SavesKeep client exchange = some t) :
    exchange.cookie ∈ held.cookies ∧ KeyringRun aead s.keyring t.keyring ∧ ∃ fresh,
      t.clients = Function.update s.clients client (some (held.spend exchange.cookie fresh)) ∧
      (∀ cookies, fresh = some cookies → cookies.length = 1 + placeholderCount layout) ∧
      ∀ issued, HoldsIssued s.keyring held issued →
        HoldsIssued t.keyring (held.spend exchange.cookie fresh) issued := by
  obtain ⟨sent, requests, unexpired⟩ := asks
  simp only [NtsSystem.exchange, here] at taken
  split at taken
  next mem =>
    have moved : KeyringRun aead s.keyring ((exchange.respond aead SavesKeep).run.run s.keyring).2 :=
      NtpExchange.respond_moves exchange s.keyring
    revert moved taken
    rcases replied : (exchange.respond aead SavesKeep).run.run s.keyring with ⟨reply, keyring⟩
    intro taken moved
    cases taken
    have fresh (cookies : List Bytes) (issued : Nat) (holds : HoldsIssued s.keyring held issued)
        (read : (if exchange.delivered then reply.toOption.bind fun sent =>
          clientCookies aead held.s2cKey (sent.1.take sent.2) else none) = some cookies) :
        cookies.length = 1 + placeholderCount layout ∧ HoldsIssued keyring { held with cookies := cookies } issued := by
      split at read
      next =>
        cases reply with
        | error halt => cases read
        | ok sent' =>
            obtain ⟨keys, created, c2sKey, s2cKey, sameIssue⟩ := holds exchange.cookie mem
            rw [← c2sKey] at requests
            obtain ⟨others, masterKeyId, reads, count, made⟩ := NtpExchange.respond_ok roundTrip sound.keyring
              created (unexpired keys created) sent requests replied
            rw [s2cKey] at reads
            cases reads.symm.trans read
            exact ⟨count, fun cookie new => ⟨_, made cookie new, c2sKey, s2cKey, sameIssue⟩⟩
      next => cases read
    obtain ⟨issued, holds⟩ := sound.clients client held here
    exact ⟨mem, moved, _, rfl, fun cookies read => (fresh cookies issued holds read).1, fun issued holds =>
      spend_issued (holds.later moved) fun cookies read => (fresh cookies issued holds read).2⟩
  next => cases taken

theorem ntsStep_sound (roundTrip : aead.RoundTrip) {s t : NtsSystem ι κ} (sound : SessionsSound aead s)
    {event : NtsEvent ι κ} (asks : ClientsAsk aead s event) (taken : ntsStep aead SavesKeep s event = some t) :
    SessionsSound aead t := by
  cases event with
  | keyring event =>
      rw [ntsStep] at taken
      split at taken
      next met =>
        obtain ⟨keyring, stepped, rfl⟩ := Option.map_eq_some_iff.mp taken
        exact sound.keyringRun ⟨[event], .next .start met stepped⟩
      next => cases taken
  | establish client session => exact establish_sound sound taken
  | exchange client exchange =>
      cases here : s.clients client with
      | none =>
          simp only [ntsStep, NtsSystem.exchange, here] at taken
          cases taken
      | some held =>
          obtain ⟨layout, asks⟩ := asks held here
          obtain ⟨-, moved, fresh, clients, -, holds⟩ := exchange_effect roundTrip sound here asks taken
          obtain ⟨issued, before⟩ := sound.clients client held here
          have updated := @SessionsSound.update _ _ _ _ _ (sound.keyringRun moved) client _ _ (holds issued before)
          rwa [← clients] at updated

def Replenishes (aead : Aead) (s : NtsSystem ι κ) : NtsEvent ι κ → Prop
  | .exchange client exchange => ∀ held, s.clients client = some held →
      ∃ layout, AsksWith aead s held exchange layout ∧
        placeholderCount layout = ntsKeCookieCount - held.cookies.length
  | .keyring _ | .establish .. => True

omit [DecidableEq ι] [DecidableEq κ] in
theorem Replenishes.asks {s : NtsSystem ι κ} {event : NtsEvent ι κ} (replenishes : Replenishes aead s event) :
    ClientsAsk aead s event := by
  cases event with
  | exchange client exchange => exact fun held here => (replenishes held here).imp fun _ asks => asks.1
  | _ => trivial

def HoldsAll (s : NtsSystem ι κ) : Prop :=
  ∀ client held, s.clients client = some held → held.cookies.length + held.unanswered = ntsKeCookieCount

omit [DecidableEq ι] in
theorem HoldsAll.update {s : NtsSystem ι κ} (all : HoldsAll s) {client : κ} {held : NtsClient}
    (count : held.cookies.length + held.unanswered = ntsKeCookieCount) (keyring : CookieSystem ι) :
    HoldsAll ⟨keyring, Function.update s.clients client (some held)⟩ := by
  intro other theirs here
  by_cases same : other = client
  · subst same
    simp only [Function.update_self, Option.some.injEq] at here
    rwa [← here]
  · simp only [Function.update_of_ne same] at here
    exact all other theirs here

theorem spend_count {held : NtsClient} {cookie : Bytes} (mem : cookie ∈ held.cookies)
    (all : held.cookies.length + held.unanswered = ntsKeCookieCount) {fresh : Option (List Bytes)}
    (brought : ∀ cookies, fresh = some cookies →
      cookies.length = 1 + (ntsKeCookieCount - held.cookies.length)) :
    (held.spend cookie fresh).cookies.length + (held.spend cookie fresh).unanswered = ntsKeCookieCount := by
  have erased := List.length_erase_of_mem mem
  have some := List.length_pos_of_mem mem
  cases fresh with
  | none =>
      simp only [NtsClient.spend, erased]
      omega
  | some cookies =>
      have new := brought cookies rfl
      simp only [NtsClient.spend, List.length_append, erased, new]
      omega

theorem ntsStep_holdsAll (roundTrip : aead.RoundTrip) {s t : NtsSystem ι κ} (sound : SessionsSound aead s)
    (all : HoldsAll s) {event : NtsEvent ι κ} (replenishes : Replenishes aead s event)
    (taken : ntsStep aead SavesKeep s event = some t) : HoldsAll t := by
  cases event with
  | keyring event =>
      rw [ntsStep] at taken
      split at taken
      next met =>
        obtain ⟨keyring, stepped, rfl⟩ := Option.map_eq_some_iff.mp taken
        exact all
      next => cases taken
  | establish client session =>
      obtain ⟨⟨response, keyring⟩, responded, rfl⟩ := Option.map_eq_some_iff.mp taken
      obtain ⟨moved, reads⟩ := KeSession.respond_ok responded
      dsimp only
      split
      next => exact all
      next cookies read =>
        split at read
        next => exact @HoldsAll.update _ _ _ s all client ⟨_, _, cookies, 0⟩ (reads cookies read).1 keyring
        next => cases read
  | exchange client exchange =>
      cases here : s.clients client with
      | none =>
          simp only [ntsStep, NtsSystem.exchange, here] at taken
          cases taken
      | some held =>
          obtain ⟨layout, asks, asked⟩ := replenishes held here
          obtain ⟨mem, -, fresh, clients, count, -⟩ := exchange_effect roundTrip sound here asks taken
          rw [asked] at count
          have updated := @HoldsAll.update _ _ _ s all client _ (spend_count mem (all client held here) count)
            t.keyring
          rwa [← clients] at updated

/-- A client that asks for the cookies it lacks holds eight less the requests that were not answered since the
last response: only eight losses in a row end its session. -/
theorem client_replenished (roundTrip : aead.RoundTrip) {past : List (NtsEvent ι κ)} {s : NtsSystem ι κ}
    (run : Run (ntsStep aead SavesKeep) (Replenishes aead) ntsStart past s) {client : κ} {held : NtsClient}
    (here : s.clients client = some held) : held.cookies.length + held.unanswered = 8 := by
  have holds := run.invariant (fun _ s => SessionsSound aead s ∧ HoldsAll s)
    ⟨⟨cookieStart_sound, fun _ _ here => by cases here⟩, fun _ _ here => by cases here⟩
    fun _ _ _ _ holds replenishes taken => ⟨ntsStep_sound roundTrip holds.1 replenishes.asks taken,
      ntsStep_holdsAll roundTrip holds.1 holds.2 replenishes taken⟩
  exact holds.2 client held here

end

def plainFields (cookie : Bytes) : List Field :=
  [⟨ntsEfUniqueIdentifier, List.replicate 32 9⟩, ⟨ntsEfCookie, cookie⟩]

def plainTag (cookie : Bytes) : Bytes :=
  (keyedAead.encrypt fixedKey.bytes (List.replicate 48 0 ++ encodeFields (plainFields cookie)) fixedNonce.bytes
    []).toOption.getD []

def plainRequest (cookie : Bytes) : Layout :=
  ⟨List.replicate 48 0, plainFields cookie, ⟨ntsEfAuthenticator, authBytes fixedNonce.bytes (plainTag cookie)⟩, []⟩

theorem plainTag_encrypts (cookie : Bytes) : keyedAead.encrypt fixedKey.bytes (plainRequest cookie).associatedData
    fixedNonce.bytes [] = .ok (plainTag cookie) := by
  obtain ⟨tag, encrypts⟩ := idealAead_encrypts keyedCrypto fixedKey.bytes (plainRequest cookie).associatedData
    fixedNonce.bytes []
  have same : plainTag cookie = tag := by
    rw [plainTag]
    exact congrArg (fun result => result.toOption.getD []) encrypts
  rw [same]
  exact encrypts

theorem plainTag_length (cookie : Bytes) : (plainTag cookie).length = 16 :=
  keyedAead.encrypt_length (plainTag_encrypts cookie)

theorem plainRequest_requests {cookie : Bytes} (whole : cookie.length = 128) :
    Requests keyedAead fixedKey cookie (plainRequest cookie) where
  wellFormed := by
    have length := @authBytes_length fixedNonce.bytes (plainTag cookie) fixedNonce.length
    rw [plainTag_length] at length
    refine ⟨List.length_replicate, ?_, ⟨⟨?_, ?_, ?_⟩, rfl⟩, by simp [plainRequest]⟩
    · simp only [plainRequest, plainFields, List.forall_mem_cons]
      refine ⟨⟨⟨by decide, by decide, by decide⟩, by decide⟩, ⟨⟨?_, ?_, ?_⟩, ?_⟩, by simp⟩ <;>
        simp [whole, ntsEfCookie, ntsEfAuthenticator]
    all_goals simp [plainRequest, length, ntsEfAuthenticator]
  fits := by
    have length := @authBytes_length fixedNonce.bytes (plainTag cookie) fixedNonce.length
    simp [plainRequest, Layout.packet, Layout.associatedData, plainFields, length, plainTag_length, whole,
      encodeFields, ntsNtpMaxPacketSize]
  uniqueId := ⟨List.replicate 32 9, rfl, by decide, by decide⟩
  cookie := rfl
  authenticated := ⟨fixedNonce, plainTag cookie, rfl, plainTag_encrypts cookie⟩

def quietCreate (task : ServerTask) (_ : Nat) : CreateHistory ServerTask :=
  ⟨[.load task false, .rotate task (some 2000) (randomBytes 5)], false, fixedNonce⟩

def quietKeys (task : ServerTask) : KeysHistory ServerTask :=
  ⟨[.load task false, .rotate task (some 2000) (randomBytes 5)], false, fixedNonce, some 2000⟩

def establishedKe : KeSession ServerTask :=
  ⟨.ntsKe, fixedKey, fixedKey, true, [.received smallRequest], zeroBuffer, quietKeys .ntsKe, quietCreate .ntsKe,
    true⟩

def firstExchange (cookie : Bytes) : NtpExchange ServerTask :=
  ⟨.ntpServer, cookie, (plainRequest cookie).packet, quietKeys .ntpServer, quietCreate .ntpServer, fixedNonce,
    List.replicate ntsNtpMaxPacketSize 0, List.length_replicate, true⟩

theorem firstExchange_asks {s : NtsSystem ServerTask Unit} {held : NtsClient} {cookie : Bytes}
    (key : held.c2sKey = fixedKey) (whole : cookie.length = 128)
    (unexpired : ∀ entry ∈ s.keyring.created, 2000 < entry.2.expiresNtpSeconds) :
    AsksWith keyedAead s held (firstExchange cookie) (plainRequest cookie) := by
  refine ⟨rfl, ?_, ?_⟩
  · rw [key]
    exact plainRequest_requests whole
  · intro keys created now read
    cases read
    exact unexpired _ created

theorem plainRequest_placeholders (cookie : Bytes) : placeholderCount (plainRequest cookie) = 0 := by
  simp [placeholderCount, plainRequest, plainFields, bodies, ntsEfUniqueIdentifier, ntsEfCookie,
    ntsEfCookiePlaceholder]

def establishedSystem : Option (NtsSystem ServerTask Unit) :=
  (ntsStep keyedAead SavesKeep ntsStart (.keyring (.ensure false (some 1000) (randomBytes 1) .saved))).bind
    fun s => ntsStep keyedAead SavesKeep s (.establish () establishedKe)

def establishedCookie : Bytes :=
  ((establishedSystem.bind fun s => s.clients ()).bind fun held => held.cookies.head?).getD []

def answeredSystem : Option (NtsSystem ServerTask Unit) :=
  establishedSystem.bind fun s => ntsStep keyedAead SavesKeep s (.exchange () (firstExchange establishedCookie))

theorem answeredSystem_held :
    ((answeredSystem.bind fun s => s.clients ()).map fun held => (held.cookies.length, held.unanswered)) =
      some (8, 0) := by decide +kernel

theorem establishedSystem_held : establishedSystem.all (fun s => (s.clients ()).all fun held =>
    held.cookies.length == 8 && held.c2sKey == fixedKey &&
      s.keyring.created.all fun entry => 2000 < entry.2.expiresNtpSeconds) = true := by decide +kernel

theorem establishedCookie_length : (establishedCookie.length == 128) = true := by decide +kernel

theorem answeredSystem_run : ∃ (past : List (NtsEvent ServerTask Unit)) (s : NtsSystem ServerTask Unit)
    (held : NtsClient), Run (ntsStep keyedAead SavesKeep) (Replenishes keyedAead) ntsStart past s ∧
      s.clients () = some held ∧ held.cookies ≠ [] := by
  obtain ⟨held, isHeld, count⟩ := Option.map_eq_some_iff.mp answeredSystem_held
  obtain ⟨s, answered, here⟩ := Option.bind_eq_some_iff.mp isHeld
  obtain ⟨mid, established, exchanged⟩ := Option.bind_eq_some_iff.mp answered
  obtain ⟨first, ensured, opened⟩ := Option.bind_eq_some_iff.mp established
  have facts := establishedSystem_held
  rw [established] at facts
  have asks : Replenishes keyedAead mid (.exchange () (firstExchange establishedCookie)) := by
    intro held here
    simp only [Option.all_some, here, Bool.and_eq_true, beq_iff_eq, List.all_eq_true, decide_eq_true_eq] at facts
    obtain ⟨⟨eight, key⟩, unexpired⟩ := facts
    have whole : establishedCookie.length = 128 := beq_iff_eq.mp establishedCookie_length
    refine ⟨plainRequest establishedCookie, firstExchange_asks key whole unexpired, ?_⟩
    rw [plainRequest_placeholders, eight]
    rfl
  have ensures : Replenishes keyedAead (ntsStart : NtsSystem ServerTask Unit)
    (.keyring (.ensure false (some 1000) (randomBytes 1) .saved)) := trivial
  have opens : Replenishes keyedAead first (.establish () establishedKe) := trivial
  refine ⟨_, s, held, .next (.next (.next .start ensures ensured) opens opened) asks exchanged, here, ?_⟩
  intro none
  simp [none] at count

theorem answered_client_replenished : ∃ (past : List (NtsEvent ServerTask Unit)) (s : NtsSystem ServerTask Unit)
    (held : NtsClient), Run (ntsStep keyedAead SavesKeep) (Replenishes keyedAead) ntsStart past s ∧
      s.clients () = some held ∧ held.cookies ≠ [] ∧ held.cookies.length + held.unanswered = 8 := by
  obtain ⟨past, s, held, run, here, some⟩ := answeredSystem_run
  exact ⟨past, s, held, run, here, some, client_replenished (idealAead_roundTrip keyedCrypto) run here⟩

end NtsTimeServer.Proof
