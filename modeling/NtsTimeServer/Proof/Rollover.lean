import NtsTimeServer.Model.CookieSystem
import NtsTimeServer.Model.TrueTime
import NtsTimeServer.Proof.CookieRoundTrip
import NtsTimeServer.Proof.KeyringHistory
import NtsTimeServer.Proof.ServedTime

namespace NtsTimeServer.Proof
open Model Lib

/-- The NTP seconds at which the era of an instant begins. -/
def eraOf (utcSeconds : Nat) : Nat := eraStart (2 ^ 32) (ntpSeconds utcSeconds)

def SameEra (first second : Nat) : Prop := eraOf first = eraOf second

instance (first second : Nat) : Decidable (SameEra first second) :=
  inferInstanceAs (Decidable (_ = _))

theorem ntpReading_lt (utcSeconds : Nat) : ntpReading utcSeconds < 2 ^ 32 :=
  Nat.mod_lt _ (by decide)

theorem ntpReading_add_eraOf (utcSeconds : Nat) :
    ntpReading utcSeconds + eraOf utcSeconds = ntpSeconds utcSeconds :=
  residue_add_eraStart _ _

theorem eraOf_cases {first second : Nat} (le : first ≤ second) :
    SameEra first second ∨ eraOf first + 2 ^ 32 ≤ eraOf second := by
  have counts : ntpSeconds first ≤ ntpSeconds second := Nat.add_le_add_right le _
  exact (eraStart_eq_or_later (2 ^ 32) counts).imp Eq.symm id

theorem eraOf_mono {first second : Nat} (le : first ≤ second) : eraOf first ≤ eraOf second :=
  eraStart_mono _ (Nat.add_le_add_right le _)

theorem getNtpTimestamp_seconds {F : Type} [Double F] {clock : ClockContext F} {lock : Bool}
    {nowCaptureUs : Nat} {timestamp : NtpTimestamp}
    (served : getNtpTimestamp clock lock (some nowCaptureUs) = some timestamp) :
    timestamp.seconds = ntpReading (servedSeconds clock nowCaptureUs) := by
  rw [(getNtpTimestamp_some served).2.2]
  rfl

theorem getCurrentUnixTime_iff {timestamp : NtpTimestamp} {utcSeconds : Nat}
    (shown : timestamp.seconds = ntpReading utcSeconds) :
    getCurrentUnixTime (some timestamp) = some (utcSeconds : Int) ↔
      ntpSeconds utcSeconds < 2 ^ 32 := by
  have below := ntpReading_lt utcSeconds
  rw [getCurrentUnixTime, shown]
  constructor
  · intro returned
    by_cases early : ntpReading utcSeconds < appNtpEpochDelta
    · rw [if_pos early] at returned
      cases returned
    · rw [if_neg early, Option.some.injEq] at returned
      have count : ntpReading utcSeconds = ntpSeconds utcSeconds := by
        simp only [ntpSeconds]
        omega
      omega
  · intro fits
    have count : ntpReading utcSeconds = utcSeconds + appNtpEpochDelta := u32_eq fits
    rw [if_neg (by omega), count]
    simp

/-! ## The lifetime of a cookie -/

structure HoldsKey (aead : Aead) (store : Option Keyring) (env : CookieEnv) (keys : CookieKeys)
    (cookie : Bytes) (ring : Keyring) (slot : CookieKey) (nonce : CookieNonce) : Prop where
  maintained : ntsStorageMaintainCookieKeyring store env.maintain = (.ok, some ring)
  loads : env.loadFails = false
  found : findCookieMasterKey ring slot.keyId = some slot
  /-- key ids have 32 bits -/
  id : slot.keyId < 2 ^ 32
  sealed : sealCookie aead slot keys nonce = .ok cookie

variable {aead : Aead}

theorem HoldsKey.accepted_iff (roundTrip : aead.RoundTrip) {store : Option Keyring}
    {env : CookieEnv} {keys : CookieKeys} {cookie : Bytes} {ring : Keyring} {slot : CookieKey}
    {nonce : CookieNonce} (holds : HoldsKey aead store env keys cookie ring slot nonce)
    (fit : TimesFit keys) {nowNtp : Nat} (reads : env.clock = some nowNtp) :
    (∃ opened, (ntsCookieUnpack aead store env cookie).1 = .ok opened) ↔
      keys.issuedNtpSeconds ≤ nowNtp ∧ nowNtp < keys.expiresNtpSeconds := by
  have unpacked : (ntsCookieUnpack aead store env cookie).1 =
      unpackLoaded aead ring cookie (some nowNtp) := by
    rw [ntsCookieUnpack, if_neg (not_not.mpr (sealCookie_length holds.sealed)),
      withMaintainedKeyring, holds.maintained]
    simp [loadCookieKeyring, holds.loads, reads]
  rw [unpacked, unpackLoaded_found_eq roundTrip holds.found holds.id fit holds.sealed]
  split
  · rename_i outside
    simp only [reduceCtorEq, exists_false, false_iff]
    omega
  · rename_i within
    simp only [Except.ok.injEq, exists_eq', true_iff]
    omega

theorem generated_times {store store' : Option Keyring} {env : CookieEnv} {keys : CookieKeys}
    (generated : ntsCookieGenerateKeys store env ntsKeCookieLifetimeSeconds = (.ok keys, store'))
    {nowNtp : Nat} (reads : env.clock = some nowNtp) (fits : nowNtp < 2 ^ 32) :
    keys.issuedNtpSeconds = nowNtp ∧
      keys.expiresNtpSeconds = nowNtp + ntsKeCookieLifetimeSeconds := by
  rw [ntsCookieGenerateKeys, if_neg (by decide)] at generated
  obtain ⟨ring, -, made⟩ := withMaintainedKeyring_ok generated
  rw [reads] at made
  split at made
  · cases made
  · rename_i clock
    cases clock
  · rename_i clock
    cases clock
    cases made
    exact ⟨rfl, u64_eq (by simp only [ntsKeCookieLifetimeSeconds]; omega)⟩

/-- Both the cookie's own seconds and the readings refuse a cookie. -/
def RefusedByBoth (issued now : Nat) : Prop :=
  issued + ntsKeCookieLifetimeSeconds ≤ now ∧ ¬(ntpReading issued ≤ ntpReading now ∧
    ntpReading now < ntpReading issued + ntsKeCookieLifetimeSeconds)

theorem reading_in_lifetime_iff {issued now : Nat} (le : issued ≤ now) :
    ((ntpReading issued ≤ ntpReading now ∧
        ntpReading now < ntpReading issued + ntsKeCookieLifetimeSeconds) ↔
      issued ≤ now ∧ now < issued + ntsKeCookieLifetimeSeconds) ↔
    SameEra issued now ∨ RefusedByBoth issued now := by
  have issuedCount := ntpReading_add_eraOf issued
  have nowCount := ntpReading_add_eraOf now
  have issuedBelow := ntpReading_lt issued
  simp only [ntpSeconds] at issuedCount nowCount
  simp only [RefusedByBoth, ntsKeCookieLifetimeSeconds]
  rcases eraOf_cases le with same | later
  · have equal : eraOf issued = eraOf now := same
    simp only [same, true_or, iff_true]
    omega
  · have different : ¬SameEra issued now := fun same => by
      have equal : eraOf issued = eraOf now := same
      omega
    simp only [different, false_or]
    omega

/-! ## The interval of the active key -/

theorem Regular.storedSound {keyring : Keyring} (regular : Regular keyring) :
    StoredSound keyring := by
  have start := regular.activeStart
  have nextEnd := regular.nextEnd
  rw [regular.nextStart, regular.activeEnd] at nextEnd
  simp only [ntsStorageKeyPeriodSeconds] at nextEnd
  exact ⟨regular.validates, regular.consecutive, by omega⟩

theorem RotationLoop.start {nowNtp : Nat} {random : Nat → Bytes} {keyring result : Keyring}
    (loop : RotationLoop nowNtp random keyring result)
    (contiguous : keyring.next.notBeforeNtp = keyring.active.notAfterNtp) :
    result = keyring ∨ result.active.notBeforeNtp ≤ nowNtp := by
  induction loop with
  | stop => exact Or.inl rfl
  | @turn random keyring result due _ ih =>
      rcases ih rfl with rfl | started
      · refine Or.inr ?_
        change keyring.next.notBeforeNtp ≤ nowNtp
        omega
      · exact Or.inr started

theorem rotateWhileDue_started {nowNtp : Nat} (now : nowNtp < 2 ^ 32) (random : Nat → Bytes)
    {keyring : Keyring} (regular : Regular keyring) (due : keyring.active.notAfterNtp ≤ nowNtp) :
    let after := rotateWhileDue nowNtp (nowNtp + 1) random keyring
    Regular after ∧ after.active.notBeforeNtp ≤ nowNtp := by
  obtain ⟨regular', ends, -⟩ := rotateWhileDue_spec now random regular
    (show nowNtp < nowNtp + 1 + keyring.active.notAfterNtp by omega)
  refine ⟨regular', ((regular.storedSound.loop now random).start regular.nextStart).resolve_left ?_⟩
  intro same
  rw [same] at ends
  omega

theorem maintain_leaves {store : Option Keyring} (regular : ∀ keyring ∈ store, Regular keyring)
    {env : StorageEnv} (fits : env.clockFits = true) {after : Keyring}
    (stored : after ∈ (ntsStorageMaintainCookieKeyring store env).2) :
    after ∈ store ∨ ∃ nowNtp ∈ env.clock, Regular after ∧ after.active.notBeforeNtp ≤ nowNtp := by
  rcases maintain_cases store env with ⟨-, kept⟩ | ⟨keyring, nowNtp, rfl, clock, maintained⟩
  · exact Or.inl (kept ▸ stored)
  · rw [maintained] at stored
    split at stored
    · rename_i due
      rcases saveCookieKeyring_mem stored with rfl | mem
      · exact Or.inr ⟨nowNtp, clock, rotateWhileDue_started (StorageEnv.clock_lt fits clock) _
          (regular keyring rfl) due⟩
      · exact Or.inl mem
    · exact Or.inl stored

theorem maintain_active {store : Option Keyring} (regular : ∀ keyring ∈ store, Regular keyring)
    {env : StorageEnv} {nowNtp : Nat} (reads : env.clock = some nowNtp) (now : nowNtp < 2 ^ 32)
    (ok : (ntsStorageMaintainCookieKeyring store env).1 = .ok) :
    ∃ keyring after, store = some keyring ∧
      (ntsStorageMaintainCookieKeyring store env).2 = some after ∧
      nowNtp < after.active.notAfterNtp ∧
      (after = keyring ∨ keyring.active.notAfterNtp ≤ nowNtp ∧ Regular after ∧
        after.active.notBeforeNtp ≤ nowNtp) := by
  rcases maintain_cases store env with ⟨failed, -⟩ | ⟨keyring, read, rfl, clock, maintained⟩
  · exact absurd ok failed
  · obtain rfl : nowNtp = read := Option.some.inj (reads.symm.trans clock)
    rw [maintained] at ok ⊢
    by_cases due : nowNtp ≥ keyring.active.notAfterNtp
    · rw [if_pos due] at ok ⊢
      have loop := (regular keyring rfl).storedSound.loop now env.random
      cases save : env.save with
      | saved => exact ⟨keyring, _, rfl, rfl, loop.ends, Or.inr ⟨due,
          rotateWhileDue_started now env.random (regular keyring rfl) due⟩⟩
      | failed written => simp [save, saveCookieKeyring] at ok
    · rw [if_neg due]
      exact ⟨keyring, keyring, rfl, rfl, not_le.mp due, Or.inl rfl⟩

/-- The rings of a store whose clock shows the true time: the active key has begun, counted from
the era in which the ring was created. -/
structure TimedSound (s : TimedKeyring) : Prop where
  regular : ∀ keyring ∈ s.store, Regular keyring
  created : s.store ≠ none → s.created ≤ s.now
  started : ∀ keyring ∈ s.store,
    keyring.active.notBeforeNtp + eraOf s.created ≤ ntpSeconds s.now

theorem StorageEnv.readsAt_iff {env : StorageEnv} {utcSeconds nowNtp : Nat}
    (reads : env.readsAt utcSeconds = true) (clock : env.clock = some nowNtp) :
    nowNtp = ntpReading utcSeconds := by
  simpa [StorageEnv.readsAt, clock] using reads

theorem reading_started {created utcSeconds start : Nat} (le : created ≤ utcSeconds)
    (begun : start ≤ ntpReading utcSeconds) : start + eraOf created ≤ ntpSeconds utcSeconds := by
  have era := eraOf_mono le
  have count := ntpReading_add_eraOf utcSeconds
  omega

theorem keyringStep_leaves {store store' : Option Keyring} {call : KeyringCall} {utcSeconds : Nat}
    (regular : ∀ keyring ∈ store, Regular keyring) (reads : call.readsAt utcSeconds = true)
    (taken : keyringStep store call = some store') : ∀ after ∈ store', after ∈ store ∨
      Regular after ∧ after.active.notBeforeNtp ≤ ntpReading utcSeconds := by
  intro after stored
  cases call with
  | reboot =>
      cases taken
      exact Or.inl stored
  | ensure env =>
      rw [keyringStep, Option.ite_none_right_eq_some, Option.some.injEq] at taken
      obtain ⟨fits, rfl⟩ := taken
      rcases ensure_leaves stored with mem | ⟨nowNtp, clock, rfl⟩
      · exact Or.inl mem
      · refine Or.inr ⟨newKeyring_regular (StorageEnv.clock_lt fits clock) _, ?_⟩
        exact (StorageEnv.readsAt_iff reads clock).le
  | maintain env =>
      rw [keyringStep, Option.ite_none_right_eq_some, Option.some.injEq] at taken
      obtain ⟨fits, rfl⟩ := taken
      rcases maintain_leaves regular fits stored with mem | ⟨nowNtp, clock, regular', started⟩
      · exact Or.inl mem
      · exact Or.inr ⟨regular', started.trans (StorageEnv.readsAt_iff reads clock).le⟩

theorem timedStep_sound {s t : TimedKeyring} {event : Nat × KeyringCall} (sound : TimedSound s)
    (taken : timedStep s event = some t) : TimedSound t := by
  obtain ⟨utcSeconds, call⟩ := event
  rw [timedStep, Option.ite_none_right_eq_some, Option.map_eq_some_iff] at taken
  obtain ⟨⟨later, reads⟩, store', stepped, rfl⟩ := taken
  have leaves := keyringStep_leaves sound.regular reads stepped
  have created : (if s.store = none then utcSeconds else s.created) ≤ utcSeconds := by
    split
    · exact le_rfl
    · rename_i stored
      exact (sound.created stored).trans later
  refine ⟨fun after stored => ?_, fun _ => created, fun after stored => ?_⟩
  · exact (leaves after stored).elim (sound.regular after) And.left
  · rcases leaves after stored with mem | ⟨-, started⟩
    · have same : s.store ≠ none := fun empty => by simp [empty] at mem
      have before := sound.started after mem
      simp only [if_neg same, ntpSeconds] at before ⊢
      omega
    · exact reading_started created started

theorem timedRun_sound {past : List (Nat × KeyringCall)} {s : TimedKeyring}
    (run : FreeRun timedStep timedStart past s) : TimedSound s :=
  run.invariant (fun _ s => TimedSound s)
    ⟨by simp [timedStart], fun stored => absurd rfl stored, by simp [timedStart]⟩
    fun _ _ _ _ sound _ taken => timedStep_sound sound taken

def ActiveContains (created : Nat) (keyring : Keyring) (utcSeconds : Nat) : Prop :=
  keyring.active.notBeforeNtp + eraOf created ≤ ntpSeconds utcSeconds ∧
    ntpSeconds utcSeconds < keyring.active.notAfterNtp + eraOf created

theorem TimedSound.active_contains_iff {s : TimedKeyring} (sound : TimedSound s) {utcSeconds : Nat}
    (later : s.now ≤ utcSeconds) {env : StorageEnv} (reads : env.clock = some (ntpReading utcSeconds))
    (ok : (ntsStorageMaintainCookieKeyring s.store env).1 = .ok) :
    (∀ keyring ∈ (ntsStorageMaintainCookieKeyring s.store env).2,
        ActiveContains s.created keyring utcSeconds) ↔
      SameEra s.created utcSeconds ∨ ∀ keyring ∈ s.store,
        ntpSeconds utcSeconds < keyring.active.notAfterNtp + eraOf s.created := by
  obtain ⟨keyring, after, stored, left, ends, shape⟩ :=
    maintain_active sound.regular reads (ntpReading_lt utcSeconds) ok
  have created : s.created ≤ utcSeconds := (sound.created (by simp [stored])).trans later
  have count := ntpReading_add_eraOf utcSeconds
  have begun : after.active.notBeforeNtp + eraOf s.created ≤ ntpSeconds utcSeconds := by
    rcases shape with rfl | ⟨-, -, started⟩
    · have before := sound.started after stored
      simp only [ntpSeconds] at before ⊢
      omega
    · exact reading_started created started
  rw [left, stored]
  simp only [Option.mem_def, Option.some.injEq, forall_eq', ActiveContains, begun, true_and]
  rcases eraOf_cases created with same | wrapped
  · have era : eraOf s.created = eraOf utcSeconds := same
    simp only [same, true_or, iff_true]
    omega
  · have different : ¬SameEra s.created utcSeconds := fun same => by
      have era : eraOf s.created = eraOf utcSeconds := same
      omega
    simp only [different, false_or]
    rcases shape with rfl | ⟨due, regular, started⟩
    · rfl
    · -- the readings have come round to the key, or to a later one, of the earlier era
      have activeEnd := regular.activeEnd
      simp only [ntsStorageKeyPeriodSeconds] at activeEnd
      omega

theorem decisions_agree_iff {F : Type} [Double F] (roundTrip : aead.RoundTrip)
    {past : List (Nat × KeyringCall)} {s : TimedKeyring} (run : FreeRun timedStep timedStart past s)
    {now : Nat} (later : s.now ≤ now) :
    (∀ (clock : ClockContext F) lock nowCaptureUs timestamp,
      getNtpTimestamp clock lock (some nowCaptureUs) = some timestamp →
      servedSeconds clock nowCaptureUs = now →
      (getCurrentUnixTime (some timestamp) = some (now : Int) ↔ ntpSeconds now < 2 ^ 32)) ∧
    (∀ env, env.clock = some (ntpReading now) →
      (ntsStorageMaintainCookieKeyring s.store env).1 = .ok →
      ((∀ keyring ∈ (ntsStorageMaintainCookieKeyring s.store env).2,
          ActiveContains s.created keyring now) ↔
        SameEra s.created now ∨ ∀ keyring ∈ s.store,
          ntpSeconds now < keyring.active.notAfterNtp + eraOf s.created)) ∧
    (∀ issued store₀ store₁ env₀ store env keys cookie ring slot nonce, issued ≤ now →
      ntsCookieGenerateKeys store₀ env₀ ntsKeCookieLifetimeSeconds = (.ok keys, store₁) →
      env₀.clock = some (ntpReading issued) → HoldsKey aead store env keys cookie ring slot nonce →
      env.clock = some (ntpReading now) →
      (((∃ opened, (ntsCookieUnpack aead store env cookie).1 = .ok opened) ↔
          issued ≤ now ∧ now < issued + ntsKeCookieLifetimeSeconds) ↔
        SameEra issued now ∨ RefusedByBoth issued now)) := by
  refine ⟨fun clock lock nowCaptureUs timestamp served shown => ?_, fun env reads ok => ?_, ?_⟩
  · exact getCurrentUnixTime_iff ((getNtpTimestamp_seconds served).trans (congrArg _ shown))
  · exact (timedRun_sound run).active_contains_iff later reads ok
  · intro issued store₀ store₁ env₀ store env keys cookie ring slot nonce le generated reads₀ holds
      reads
    obtain ⟨issuedAt, expiresAt⟩ := generated_times generated reads₀ (ntpReading_lt issued)
    have below := ntpReading_lt issued
    have fit : TimesFit keys := by
      constructor
      · omega
      · simp only [expiresAt, ntsKeCookieLifetimeSeconds]
        omega
    rw [holds.accepted_iff roundTrip fit reads, issuedAt, expiresAt]
    exact reading_in_lifetime_iff le

/-! ## The rollover of 7 February 2036 -/

def storageEnvAt (utcSeconds : Nat) : StorageEnv :=
  ⟨false, some (ntpReading utcSeconds), randomBytes 1, .saved⟩

def timedRunOf (created maintained : Nat) : Option TimedKeyring :=
  execute timedStep (fun _ _ => True) timedStart
    [(created, .ensure (storageEnvAt created)), (maintained, .maintain (storageEnvAt maintained))]

theorem earlyRun_executes : (timedRunOf 1704067200 1706700000).isSome = true := by decide +kernel

def earlyKeyring : TimedKeyring := (timedRunOf 1704067200 1706700000).get earlyRun_executes

def maintainedRing : Keyring :=
  (ntsStorageMaintainCookieKeyring earlyKeyring.store (storageEnvAt 1709300000)).2.getD
    (newKeyring 0 (randomBytes 1))

theorem earlyRun_active_contains : ActiveContains earlyKeyring.created maintainedRing 1709300000 :=
  ((decisions_agree_iff (F := ℚ) (idealAead_roundTrip keyedCrypto)
    (execute_run (Option.some_get earlyRun_executes).symm) (by decide +kernel)).2.1
      (storageEnvAt 1709300000) rfl (by decide +kernel)).mpr (Or.inl (by decide +kernel)) _
        (by decide +kernel)

theorem lateRun_executes : (timedRunOf 2085978490 2085978490).isSome = true := by decide +kernel

def lateCookieKeys : CookieKeys := ⟨fixedKey, fixedKey, 1, 4294967290, 4295053690⟩

def lateRing : Keyring := newKeyring (ntpReading 2085978490) (randomBytes 1)

def lateCookie : Bytes :=
  (sealCookie keyedAead lateRing.active lateCookieKeys fixedNonce).toOption.getD []

theorem lateCookie_held : HoldsKey keyedAead (some lateRing) (cookieEnvAt (ntpReading 2085978506))
    lateCookieKeys lateCookie lateRing lateRing.active fixedNonce where
  maintained := by decide +kernel
  loads := rfl
  found := by decide +kernel
  id := by decide
  sealed := by decide +kernel

/-- At the rollover itself there is no Unix time, ten seconds later a cookie of six seconds before it
seems to come from the future, and after forty days the first key is still active. -/
theorem rollover_changes_decisions :
    (¬∀ now, getCurrentUnixTime (some ⟨ntpReading now, 0⟩) = some (now : Int)) ∧
    (¬∀ (past : List (Nat × KeyringCall)) (s : TimedKeyring), FreeRun timedStep timedStart past s →
      ∀ now env, s.now ≤ now → env.clock = some (ntpReading now) →
        (ntsStorageMaintainCookieKeyring s.store env).1 = .ok →
        ∀ keyring ∈ (ntsStorageMaintainCookieKeyring s.store env).2,
          ActiveContains s.created keyring now) ∧
    (keyedAead.RoundTrip ∧ ¬∀ issued now store₀ store₁ env₀ store env keys cookie ring slot nonce,
      issued ≤ now →
      ntsCookieGenerateKeys store₀ env₀ ntsKeCookieLifetimeSeconds = (.ok keys, store₁) →
      env₀.clock = some (ntpReading issued) →
      HoldsKey keyedAead store env keys cookie ring slot nonce → env.clock = some (ntpReading now) →
      ((∃ opened, (ntsCookieUnpack keyedAead store env cookie).1 = .ok opened) ↔
        issued ≤ now ∧ now < issued + ntsKeCookieLifetimeSeconds)) := by
  refine ⟨fun claim => ?_, fun claim => ?_, idealAead_roundTrip keyedCrypto, fun claim => ?_⟩
  · exact absurd (claim 2085978496) (by decide +kernel)
  · let s := (timedRunOf 2085978490 2085978490).get lateRun_executes
    have contains := claim _ s (execute_run (Option.some_get lateRun_executes).symm) 2089434490
      (storageEnvAt 2089434490) (by decide +kernel) rfl (by decide +kernel)
    have left : (ntsStorageMaintainCookieKeyring s.store (storageEnvAt 2089434490)).2 =
        some lateRing := by decide +kernel
    exact absurd (contains lateRing left).2 (by decide +kernel)
  · have accepted := claim 2085978490 2085978506 (some lateRing) (some lateRing)
      (cookieEnvAt (ntpReading 2085978490)) (some lateRing) (cookieEnvAt (ntpReading 2085978506))
      lateCookieKeys lateCookie lateRing lateRing.active fixedNonce (by decide) (by decide +kernel) rfl
      lateCookie_held rfl
    obtain ⟨opened, unpacked⟩ := accepted.mpr ⟨by decide, by decide⟩
    have refused : (ntsCookieUnpack keyedAead (some lateRing) (cookieEnvAt (ntpReading 2085978506))
        lateCookie).1 = .error .invalidState := by decide +kernel
    cases refused.symm.trans unpacked

end NtsTimeServer.Proof
