import NtsTimeServer.Proof.CookieRace

namespace NtsTimeServer.Proof
open Model Lib

variable {aead : Aead}

def Alone (nowNtp : Nat) (store : Option Keyring) : CookieTask → Prop
  | .loaded _ keyring => store = some keyring
  | .saving _ keyring => ∃ stored, store = some stored ∧
      Keeps ntsKeCookieLifetimeSeconds nowNtp stored keyring
  | _ => True

theorem Alone.later {nowNtp later : Nat} {store : Option Keyring} {state : CookieTask}
    (alone : Alone nowNtp store state) (le : nowNtp ≤ later) : Alone later store state := by
  cases state with
  | saving call keyring =>
      obtain ⟨stored, same, keeps⟩ := alone
      exact ⟨stored, same, keeps.later le⟩
  | _ => exact alone

theorem Alone.saveKeeps {s : CookieSystem Unit} {state : CookieTask}
    (alone : Alone s.nowNtp s.store state) (outcome : SaveOutcome) : SaveKeeps s outcome state := by
  cases state with
  | saving call keyring =>
      obtain ⟨stored, same, keeps⟩ := alone
      refine Or.inr fun stored' mem => ?_
      rw [same, Option.mem_some_iff] at mem
      subst mem
      exact keeps
  | _ => trivial

theorem ensure_some (keyring : Keyring) (env : StorageEnv) :
    (ntsStorageEnsureCookieKeyring (some keyring) env).2 = some keyring := by
  unfold ntsStorageEnsureCookieKeyring loadCookieKeyring
  cases env.loadFails <;> rfl

theorem Alone.ensure {nowNtp : Nat} {store : Option Keyring} {state : CookieTask}
    (alone : Alone nowNtp store state) (env : StorageEnv) :
    Alone nowNtp (ntsStorageEnsureCookieKeyring store env).2 state := by
  cases state with
  | loaded call keyring =>
      cases alone
      exact ensure_some keyring env
  | saving call keyring =>
      obtain ⟨stored, rfl, keeps⟩ := alone
      exact ⟨stored, ensure_some stored env, keeps⟩
  | _ => trivial

@[simp] theorem setTask_tasks (s : CookieSystem Unit) (state : CookieTask) :
    (s.setTask () state).tasks () = state := by
  simp [CookieSystem.setTask]

theorem apply_alone {s t : CookieSystem Unit} (sound : Sound aead s)
    (alone : Alone s.nowNtp s.store (s.tasks ())) {event : CookieEvent Unit}
    (now : ∀ now ∈ event.clock, now = s.nowNtp) (taken : s.apply aead event = some t) :
    Alone t.nowNtp t.store (t.tasks ()) := by
  cases applied_of_apply taken with
  | ensure => exact alone.ensure _
  | call =>
      rw [setTask_tasks]
      trivial
  | load called loaded =>
      rw [setTask_tasks]
      exact loadCookieKeyring_ok loaded
  | @rotate _ _ _ call keyring after changed loaded rotated =>
      rw [loaded] at alone
      obtain ⟨-, -, keeps, -⟩ := maintainLoaded_inv (sound.regular keyring alone) now sound.era rotated
      rw [setTask_tasks]
      cases changed with
      | true => exact ⟨keyring, alone, keeps.shorter (by decide)⟩
      | false => trivial
  | save =>
      rw [setTask_tasks]
      split <;> trivial
  | finish | abandon =>
      rw [setTask_tasks]
      trivial
  | wait => exact alone
  | reboot => trivial

theorem cookieStep_alone {s t : CookieSystem Unit} (sound : Sound aead s)
    (alone : Alone s.nowNtp s.store (s.tasks ())) {event : CookieEvent Unit}
    (taken : cookieStep aead s event = some t) : Alone t.nowNtp t.store (t.tasks ()) := by
  obtain ⟨now, later, era, -, read, taken⟩ := cookieStep_some taken
  exact apply_alone (sound.later later (era sound.era)) (alone.later later) read taken

/-- What one task does alone never drops a key that may still protect a cookie. -/
theorem alone_run {past : List (CookieEvent Unit)} {s : CookieSystem Unit}
    (run : FreeRun (cookieStep aead) cookieStart past s) :
    Run (cookieStep aead) SavesKeep cookieStart past s ∧ Sound aead s := by
  have granted (s : CookieSystem Unit) (event : CookieEvent Unit) (t : CookieSystem Unit)
      (holds : Sound aead s ∧ Alone s.nowNtp s.store (s.tasks ())) (_ : True)
      (taken : cookieStep aead s event = some t) :
      SavesKeep s event ∧ Sound aead t ∧ Alone t.nowNtp t.store (t.tasks ()) := by
    have met : SavesKeep s event := by
      cases event with
      | save task outcome => exact holds.2.saveKeeps outcome
      | _ => trivial
    exact ⟨met, cookieStep_sound holds.1 met taken, cookieStep_alone holds.1 holds.2 taken⟩
  obtain ⟨keeps, sound, -⟩ := run.strengthen _ ⟨cookieStart_sound, trivial⟩ granted
  exact ⟨keeps, sound⟩

/-! ## A whole call of `nts_cookie_unpack` -/

structure Works (env : CookieEnv) (maintained read : Nat) : Prop where
  maintainLoads : env.maintain.loadFails = false
  maintainReads : env.maintain.clock = some maintained
  saves : env.maintain.save = .saved
  loads : env.loadFails = false
  reads : env.clock = some read

theorem ntsStorageMaintainCookieKeyring_regular {keyring : Keyring} (regular : Regular keyring)
    {env : StorageEnv} (loads : env.loadFails = false) (saves : env.save = .saved) {nowNtp : Nat}
    (reads : env.clock = some nowNtp) (era : nowNtp < 2 ^ 32) :
    ∃ after, ntsStorageMaintainCookieKeyring (some keyring) env = (.ok, some after) ∧
      Regular after ∧ Keeps ntsStorageKeyPeriodSeconds nowNtp keyring after := by
  obtain ⟨changed, after, maintained, regular', -, keeps, same⟩ :=
    maintainLoaded_regular regular era env.random
  refine ⟨after, ?_, regular', keeps⟩
  rw [← reads] at maintained
  simp only [ntsStorageMaintainCookieKeyring, loadCookieKeyring, loads, Bool.false_eq_true,
    if_false, maintained]
  cases changed with
  | true => simp [saves, saveCookieKeyring]
  | false => simp [same]

theorem Sound.survives (roundTrip : aead.RoundTrip) {ι : Type} {s : CookieSystem ι}
    (sound : Sound aead s) {cookie : Bytes} {keys : CookieKeys} (created : (cookie, keys) ∈ s.created)
    {env : CookieEnv} {maintained read : Nat} (works : Works env maintained read)
    (later : s.nowNtp ≤ maintained) (le : maintained ≤ read) (era : read < 2 ^ 32)
    (unexpired : read < keys.expiresNtpSeconds) :
    ∃ masterKeyId store, ntsCookieUnpack aead s.store env cookie =
      (.ok { keys with masterKeyId := masterKeyId }, store) := by
  have kept := sound.created _ created
  rcases kept.serves with expired | ⟨stored, mem, slot, nonce, serves, sealed, within⟩
  · dsimp only at expired
    omega
  obtain ⟨after, maintains, regular, keeps⟩ := ntsStorageMaintainCookieKeyring_regular
    (sound.regular stored mem) works.maintainLoads works.saves works.maintainReads (by omega)
  have serves' : Serves after slot := by
    refine (keeps slot serves).resolve_right fun ended => ?_
    have period : ntsKeCookieLifetimeSeconds ≤ ntsStorageKeyPeriodSeconds := by decide
    dsimp only at within
    omega
  have unpacks := unpackLoaded_sealCookie roundTrip regular serves' (kept.promised.fits sound.era)
    sealed (kept.promised.issued.trans (later.trans le)) unexpired
  refine ⟨slot.keyId, some after, ?_⟩
  rw [ntsCookieUnpack, if_neg (not_not.mpr kept.length), withMaintainedKeyring,
    Option.mem_def.mp mem, maintains]
  simp [loadCookieKeyring, works.loads, works.reads, unpacks]

theorem cookie_survives_rotations (roundTrip : aead.RoundTrip) {past : List (CookieEvent Unit)}
    {s : CookieSystem Unit} (run : FreeRun (cookieStep aead) cookieStart past s) {cookie : Bytes}
    {keys : CookieKeys} (created : (cookie, keys) ∈ s.created) {env : CookieEnv}
    {maintained read : Nat} (works : Works env maintained read) (later : s.nowNtp ≤ maintained)
    (le : maintained ≤ read) (era : read < 2 ^ 32) (unexpired : read < keys.expiresNtpSeconds) :
    ∃ masterKeyId store, ntsCookieUnpack aead s.store env cookie =
      (.ok { keys with masterKeyId := masterKeyId }, store) :=
  (alone_run run).2.survives roundTrip created works later le era unexpired

def rebootEvents : List (CookieEvent Unit) :=
  [.ensure false (some 1000) (randomBytes 1) .saved, .wait 7776999,
    .call () (.create lateKeys ntsCookieMaxLen), .load () false,
    .rotate () (some 7776999) (randomBytes 5), .save () .saved, .finish () false fixedNonce,
    .reboot, .ensure false (some 7777002) (randomBytes 2) .saved,
    .call () .generate, .load () false, .rotate () (some 7777003) (randomBytes 6),
    .save () (.failed true), .reboot]

def rebootRun : Option (CookieSystem Unit) :=
  execute (cookieStep keyedAead) (fun _ _ => True) cookieStart rebootEvents

theorem rebootRun_executes : rebootRun.isSome = true := by decide +kernel

def lastSecond : CookieEnv :=
  ⟨⟨false, some 7863397, randomBytes 7, .saved⟩, false, some 7863398, fixedNonce, (fixedKey, fixedKey)⟩

theorem rebootRun_cookie_survives : ∃ cookie masterKeyId store,
    ntsCookieUnpack keyedAead (rebootRun.get rebootRun_executes).store lastSecond cookie =
      (.ok { lateKeys with masterKeyId := masterKeyId }, store) :=
  ⟨((rebootRun.get rebootRun_executes).created.headD ([], lateKeys)).1,
    cookie_survives_rotations (idealAead_roundTrip keyedCrypto)
      (execute_run (Option.some_get rebootRun_executes).symm) (by decide +kernel)
      ⟨rfl, rfl, rfl, rfl, rfl⟩ (by decide +kernel) (by decide) (by decide) (by decide)⟩

end NtsTimeServer.Proof
