import NtsTimeServer.Model.CookieSystem
import NtsTimeServer.Proof.Cookie

namespace NtsTimeServer.Proof
open Model Lib

variable {ι : Type}

def Fresh (nowNtp : Nat) (before after : Keyring) : Prop :=
  before.active.notAfterNtp ≤ after.active.notAfterNtp ∨
    before.active.notAfterNtp + ntsKeCookieLifetimeSeconds ≤ nowNtp

structure StoreKeeps (nowNtp : Nat) (before after : Option Keyring) : Prop where
  regular : ∀ keyring ∈ after, Regular keyring
  keeps : ∀ keyring ∈ before, ∃ keyring' ∈ after,
    Keeps ntsKeCookieLifetimeSeconds nowNtp keyring keyring'

theorem Keeps.shorter {lifetime shorter nowNtp : Nat} {before after : Keyring}
    (keeps : Keeps lifetime nowNtp before after) (le : shorter ≤ lifetime) :
    Keeps shorter nowNtp before after := by
  intro slot serves
  rcases keeps slot serves with serves | ended
  · exact Or.inl serves
  · exact Or.inr (by omega)

theorem Regular.active_serves {keyring : Keyring} (regular : Regular keyring) :
    Serves keyring keyring.active := ⟨regular.activeValid, Or.inr rfl⟩

theorem Serves.end_le {keyring : Keyring} (regular : Regular keyring) {slot : CookieKey}
    (serves : Serves keyring slot) : slot.notAfterNtp ≤ keyring.active.notAfterNtp := by
  obtain ⟨valid, rfl | rfl⟩ := serves
  · have ended := (regular.previousPeriod valid).2
    have period := regular.activeEnd
    omega
  · exact le_rfl

theorem Fresh.refl (nowNtp : Nat) (keyring : Keyring) : Fresh nowNtp keyring keyring :=
  Or.inl le_rfl

theorem Fresh.keeps {nowNtp : Nat} {first before after : Keyring} (fresh : Fresh nowNtp first before)
    (regular : Regular before) (regular' : Regular after)
    (keeps : Keeps ntsKeCookieLifetimeSeconds nowNtp before after) : Fresh nowNtp first after := by
  rcases fresh with le | ended
  · rcases keeps _ regular.active_serves with serves | ended
    · exact Or.inl (le.trans (serves.end_le regular'))
    · exact Or.inr (by omega)
  · exact Or.inr ended

/-! ## The invariant -/

structure Promised (nowNtp : Nat) (keys : CookieKeys) : Prop where
  issued : keys.issuedNtpSeconds ≤ nowNtp
  expires : keys.expiresNtpSeconds = keys.issuedNtpSeconds + ntsKeCookieLifetimeSeconds

def createKeys : CookieCall → Option CookieKeys
  | .create keys _ => some keys
  | .generate | .unpack _ => none

def IssuedWithin (nowNtp : Nat) (keyring : Keyring) (keys : CookieKeys) : Prop :=
  keys.issuedNtpSeconds < keyring.active.notAfterNtp ∨ keys.expiresNtpSeconds ≤ nowNtp

def TaskSound (nowNtp : Nat) (store : Option Keyring) : CookieTask → Prop
  | .idle => True
  | .called call => ∀ keys ∈ createKeys call, Promised nowNtp keys
  | .loaded call keyring => (∀ keys ∈ createKeys call, Promised nowNtp keys) ∧ Regular keyring ∧
      ∃ stored ∈ store, Fresh nowNtp keyring stored
  | .saving call keyring => (∀ keys ∈ createKeys call, Promised nowNtp keys ∧
      IssuedWithin nowNtp keyring keys) ∧ Regular keyring
  | .maintained call => ∃ stored ∈ store, ∀ keys ∈ createKeys call, Promised nowNtp keys ∧
      IssuedWithin nowNtp stored keys

structure Kept (aead : Aead) (nowNtp : Nat) (store : Option Keyring) (cookie : Bytes)
    (keys : CookieKeys) : Prop where
  promised : Promised nowNtp keys
  length : cookie.length = ntsCookieLen
  serves : keys.expiresNtpSeconds ≤ nowNtp ∨ ∃ stored ∈ store, ∃ slot nonce,
    Serves stored slot ∧ sealCookie aead slot keys nonce = .ok cookie ∧
      keys.expiresNtpSeconds ≤ slot.notAfterNtp + ntsKeCookieLifetimeSeconds

structure Sound (aead : Aead) (s : CookieSystem ι) : Prop where
  era : s.nowNtp < 2 ^ 32
  regular : ∀ stored ∈ s.store, Regular stored
  tasks : ∀ task, TaskSound s.nowNtp s.store (s.tasks task)
  created : ∀ entry ∈ s.created, Kept aead s.nowNtp s.store entry.1 entry.2

variable {aead : Aead}

theorem Promised.later {nowNtp later : Nat} {keys : CookieKeys} (promised : Promised nowNtp keys)
    (le : nowNtp ≤ later) : Promised later keys := ⟨promised.issued.trans le, promised.expires⟩

theorem Promised.fits {nowNtp : Nat} {keys : CookieKeys} (promised : Promised nowNtp keys)
    (era : nowNtp < 2 ^ 32) : TimesFit keys := by
  have issued := promised.issued
  have expires := promised.expires
  simp only [ntsKeCookieLifetimeSeconds] at expires
  exact ⟨by omega, by omega⟩

theorem IssuedWithin.later {nowNtp later : Nat} {keyring : Keyring} {keys : CookieKeys}
    (within : IssuedWithin nowNtp keyring keys) (le : nowNtp ≤ later) :
    IssuedWithin later keyring keys := within.imp_right fun expired => expired.trans le

theorem IssuedWithin.fresh {nowNtp : Nat} {before after : Keyring} {keys : CookieKeys}
    (promised : Promised nowNtp keys) (within : IssuedWithin nowNtp before keys)
    (fresh : Fresh nowNtp before after) : IssuedWithin nowNtp after keys := by
  have expires := promised.expires
  rcases within with issued | expired
  · rcases fresh with le | ended
    · exact Or.inl (by omega)
    · exact Or.inr (by omega)
  · exact Or.inr expired

theorem TaskSound.later {nowNtp later : Nat} {store : Option Keyring} {state : CookieTask}
    (sound : TaskSound nowNtp store state) (le : nowNtp ≤ later) : TaskSound later store state := by
  cases state with
  | idle => trivial
  | called call => exact fun keys mem => (sound keys mem).later le
  | loaded call keyring =>
      obtain ⟨promised, regular, stored, mem, fresh⟩ := sound
      exact ⟨fun keys mem => (promised keys mem).later le, regular, stored, mem,
        fresh.imp_right fun ended => ended.trans le⟩
  | saving call keyring =>
      exact ⟨fun keys mem => ⟨(sound.1 keys mem).1.later le, (sound.1 keys mem).2.later le⟩, sound.2⟩
  | maintained call =>
      obtain ⟨stored, mem, within⟩ := sound
      exact ⟨stored, mem, fun keys mem => ⟨(within keys mem).1.later le, (within keys mem).2.later le⟩⟩

theorem Kept.later {nowNtp later : Nat} {store : Option Keyring} {cookie : Bytes}
    {keys : CookieKeys} (kept : Kept aead nowNtp store cookie keys) (le : nowNtp ≤ later) :
    Kept aead later store cookie keys :=
  ⟨kept.promised.later le, kept.length, kept.serves.imp_left fun expired => expired.trans le⟩

theorem Sound.later {s : CookieSystem ι} (sound : Sound aead s) {now : Nat} (le : s.nowNtp ≤ now)
    (era : now < 2 ^ 32) : Sound aead { s with nowNtp := now } :=
  ⟨era, sound.regular, fun task => (sound.tasks task).later le,
    fun entry mem => (sound.created entry mem).later le⟩

theorem TaskSound.stored {nowNtp : Nat} {before after : Option Keyring} {state : CookieTask}
    (sound : TaskSound nowNtp before state) (regular : ∀ stored ∈ before, Regular stored)
    (keeps : StoreKeeps nowNtp before after) : TaskSound nowNtp after state := by
  have follow {first stored : Keyring} (mem : stored ∈ before) (fresh : Fresh nowNtp first stored) :
      ∃ stored' ∈ after, Fresh nowNtp first stored' := by
    obtain ⟨stored', mem', kept⟩ := keeps.keeps stored mem
    exact ⟨stored', mem', fresh.keeps (regular stored mem) (keeps.regular stored' mem') kept⟩
  cases state with
  | idle => trivial
  | called call => exact sound
  | loaded call keyring =>
      obtain ⟨promised, regular', stored, mem, fresh⟩ := sound
      exact ⟨promised, regular', follow mem fresh⟩
  | saving call keyring => exact sound
  | maintained call =>
      obtain ⟨stored, mem, within⟩ := sound
      obtain ⟨stored', mem', fresh⟩ := follow mem (Fresh.refl nowNtp stored)
      exact ⟨stored', mem', fun keys mem =>
        ⟨(within keys mem).1, (within keys mem).2.fresh (within keys mem).1 fresh⟩⟩

theorem Kept.stored {nowNtp : Nat} {before after : Option Keyring} {cookie : Bytes}
    {keys : CookieKeys} (kept : Kept aead nowNtp before cookie keys)
    (keeps : StoreKeeps nowNtp before after) : Kept aead nowNtp after cookie keys := by
  refine ⟨kept.promised, kept.length, ?_⟩
  rcases kept.serves with expired | ⟨stored, mem, slot, nonce, serves, sealed, within⟩
  · exact Or.inl expired
  · obtain ⟨stored', mem', kept'⟩ := keeps.keeps stored mem
    rcases kept' slot serves with serves' | ended
    · exact Or.inr ⟨stored', mem', slot, nonce, serves', sealed, within⟩
    · exact Or.inl (within.trans ended)

theorem Sound.stored {s : CookieSystem ι} (sound : Sound aead s) {store : Option Keyring}
    (keeps : StoreKeeps s.nowNtp s.store store) : Sound aead { s with store := store } :=
  ⟨sound.era, keeps.regular, fun task => (sound.tasks task).stored sound.regular keeps,
    fun entry mem => (sound.created entry mem).stored keeps⟩

theorem StoreKeeps.refl {nowNtp : Nat} {store : Option Keyring}
    (regular : ∀ stored ∈ store, Regular stored) : StoreKeeps nowNtp store store :=
  ⟨regular, fun stored mem => ⟨stored, mem, Keeps.refl _ _ _⟩⟩

theorem StoreKeeps.some {nowNtp : Nat} {store : Option Keyring} {keyring : Keyring}
    (regular : Regular keyring)
    (keeps : ∀ stored ∈ store, Keeps ntsKeCookieLifetimeSeconds nowNtp stored keyring) :
    StoreKeeps nowNtp store (some keyring) := by
  refine ⟨?_, fun stored mem => ⟨keyring, rfl, keeps stored mem⟩⟩
  rintro _ ⟨⟩
  exact regular

theorem cookieStart_sound : Sound aead (cookieStart : CookieSystem ι) :=
  ⟨Nat.two_pow_pos 32, nofun, fun _ => trivial, nofun⟩

/-! ## One step -/

theorem promised_iff {s : CookieSystem ι} {call : CookieCall} :
    s.promised call ↔ ∀ keys ∈ createKeys call, Promised s.nowNtp keys := by
  cases call with
  | create keys cookieLen =>
      simp only [createKeys, Option.mem_some_iff, forall_eq']
      exact ⟨fun ⟨issued, expires⟩ => ⟨issued, expires⟩, fun ⟨issued, expires⟩ => ⟨issued, expires⟩⟩
  | generate => simp [CookieSystem.promised, createKeys]
  | unpack cookie => simp [CookieSystem.promised, createKeys]

theorem ntsCookieGenerateKeys_promised {s : CookieSystem ι} {store after : Option Keyring}
    {env : CookieEnv} {keys : CookieKeys} (cookieLen : Nat)
    (generated : ntsCookieGenerateKeys store env ntsKeCookieLifetimeSeconds = (.ok keys, after))
    (read : ∀ now ∈ env.clock, now ≤ s.nowNtp) (era : s.nowNtp < 2 ^ 32) :
    s.promised (.create keys cookieLen) := by
  rw [ntsCookieGenerateKeys, if_neg (by decide)] at generated
  obtain ⟨keyring, -, issued⟩ := withMaintainedKeyring_ok generated
  split at issued
  · cases issued
  · cases issued
  · rename_i active now _ clock
    cases issued
    have le := read now clock
    refine ⟨le, ?_⟩
    simp only [u64, ntsKeCookieLifetimeSeconds]
    omega

variable [DecidableEq ι]

theorem Sound.setTask {s : CookieSystem ι} (sound : Sound aead s) (task : ι) {state : CookieTask}
    (state_sound : TaskSound s.nowNtp s.store state) : Sound aead (s.setTask task state) := by
  refine ⟨sound.era, sound.regular, fun other => ?_, sound.created⟩
  by_cases same : other = task
  · subst same
    simpa [CookieSystem.setTask] using state_sound
  · simpa [CookieSystem.setTask, same] using sound.tasks other

theorem saveCookieKeyring_store (store : Option Keyring) (keyring : Keyring) (outcome : SaveOutcome) :
    (saveCookieKeyring store keyring outcome).2 = some keyring ∨
      outcome = .failed false ∧ (saveCookieKeyring store keyring outcome).2 = store := by
  match outcome with
  | .saved | .failed true => exact Or.inl rfl
  | .failed false => exact Or.inr ⟨rfl, rfl⟩

theorem loadCookieKeyring_notFound {store : Option Keyring} {fails : Bool}
    (loaded : loadCookieKeyring store fails = .error .notFound) : store = none := by
  cases fails <;> cases store <;> first | rfl | cases loaded

theorem ensure_keeps {store : Option Keyring} (regular : ∀ stored ∈ store, Regular stored)
    {nowNtp : Nat} (era : nowNtp < 2 ^ 32) {env : StorageEnv} (now : ∀ now ∈ env.clock, now = nowNtp) :
    StoreKeeps nowNtp store (ntsStorageEnsureCookieKeyring store env).2 := by
  unfold ntsStorageEnsureCookieKeyring
  cases loaded : loadCookieKeyring store env.loadFails with
  | ok keyring => exact StoreKeeps.refl regular
  | error err =>
      dsimp only
      split
      · exact StoreKeeps.refl regular
      · rename_i absent
        obtain rfl := loadCookieKeyring_notFound (loaded.trans (congrArg _ (not_not.mp absent)))
        refine ⟨?_, nofun⟩
        cases clock : env.clock with
        | none => exact regular
        | some reading =>
            rcases saveCookieKeyring_store none (newKeyring reading env.random) env.save with
              written | ⟨-, unchanged⟩
            · rintro keyring mem
              rw [written, Option.mem_some_iff] at mem
              subst mem
              refine newKeyring_regular ?_ env.random
              rwa [now reading clock]
            · rw [unchanged]
              exact nofun

inductive Applied (aead : Aead) (s : CookieSystem ι) : CookieEvent ι → CookieSystem ι → Prop
  | ensure {loadFails : Bool} {clock : Option Nat} {random : Nat → Bytes} {save : SaveOutcome} :
      Applied aead s (.ensure loadFails clock random save) { s with
        store := (ntsStorageEnsureCookieKeyring s.store ⟨loadFails, clock, random, save⟩).2 }
  | call {task : ι} {call : CookieCall} (promised : s.promised call) :
      Applied aead s (.call task call) (s.setTask task (.called call))
  | load {task : ι} {fails : Bool} {call : CookieCall} {keyring : Keyring}
      (called : s.tasks task = .called call) (loaded : loadCookieKeyring s.store fails = .ok keyring) :
      Applied aead s (.load task fails) (s.setTask task (.loaded call keyring))
  | rotate {task : ι} {clock : Option Nat} {random : Nat → Bytes} {call : CookieCall}
      {keyring after : Keyring} {changed : Bool} (loaded : s.tasks task = .loaded call keyring)
      (rotated : maintainLoaded keyring clock random = .ok (changed, after)) :
      Applied aead s (.rotate task clock random)
        (s.setTask task (if changed then .saving call after else .maintained call))
  | save {task : ι} {outcome : SaveOutcome} {call : CookieCall} {keyring : Keyring}
      (saving : s.tasks task = .saving call keyring) :
      Applied aead s (.save task outcome)
        ({ s with store := (saveCookieKeyring s.store keyring outcome).2 }.setTask task
          (if (saveCookieKeyring s.store keyring outcome).1 = EspErr.ok then .maintained call else .idle))
  | finish {task : ι} {fails : Bool} {nonce : CookieNonce} {keys : CookieKeys} {cookieLen : Nat}
      {keyring : Keyring} {cookie : Bytes}
      (maintained : s.tasks task = .maintained (.create keys cookieLen))
      (loaded : loadCookieKeyring s.store fails = .ok keyring)
      (created : createLoaded aead keyring keys cookieLen nonce = .ok cookie) :
      Applied aead s (.finish task fails nonce)
        ({ s with created := (cookie, keys) :: s.created }.setTask task .idle)
  | abandon {event : CookieEvent ι} (task : ι) : Applied aead s event (s.setTask task .idle)
  | wait {now : Nat} : Applied aead s (.wait now) s
  | reboot : Applied aead s .reboot { s with tasks := fun _ => .idle }

theorem applied_of_apply {s t : CookieSystem ι} {event : CookieEvent ι}
    (taken : s.apply aead event = some t) : Applied aead s event t := by
  cases event with
  | ensure =>
      cases taken
      exact .ensure
  | call task call =>
      simp only [CookieSystem.apply] at taken
      split at taken
      · split at taken <;> cases taken
        rename_i promised
        exact .call promised
      · cases taken
  | load task fails =>
      simp only [CookieSystem.apply] at taken
      split at taken
      · rename_i call called
        split at taken <;> cases taken
        · exact .abandon task
        · rename_i keyring loaded
          exact .load called loaded
      · cases taken
  | rotate task clock random =>
      simp only [CookieSystem.apply] at taken
      split at taken
      · rename_i call keyring loaded
        split at taken <;> cases taken
        · exact .abandon task
        · rename_i changed after rotated
          exact .rotate loaded rotated
      · cases taken
  | save task outcome =>
      simp only [CookieSystem.apply] at taken
      split at taken <;> cases taken
      rename_i call keyring saving
      exact .save saving
  | finish task fails nonce =>
      simp only [CookieSystem.apply] at taken
      split at taken
      · rename_i call maintained
        split at taken
        · rename_i keys cookieLen keyring loaded
          split at taken <;> cases taken
          · exact .abandon task
          · rename_i cookie created
            exact .finish maintained loaded created
        · cases taken
          exact .abandon task
      · cases taken
  | wait =>
      cases taken
      exact .wait
  | reboot =>
      cases taken
      exact .reboot

theorem rotate_sound {s : CookieSystem ι} (sound : Sound aead s) {task : ι} {clock : Option Nat}
    (now : ∀ now ∈ clock, now = s.nowNtp) {random : Nat → Bytes} {call : CookieCall}
    {keyring after : Keyring} {changed : Bool} (loaded : s.tasks task = .loaded call keyring)
    (rotated : maintainLoaded keyring clock random = .ok (changed, after)) :
    Sound aead (s.setTask task (if changed then .saving call after else .maintained call)) := by
  obtain ⟨promised, regular, stored, mem, fresh⟩ : TaskSound s.nowNtp s.store (.loaded call keyring) :=
    loaded ▸ sound.tasks task
  obtain ⟨regular', ends, -, same⟩ := maintainLoaded_inv regular now sound.era rotated
  have within (keys : CookieKeys) (mem : keys ∈ createKeys call) :
      Promised s.nowNtp keys ∧ IssuedWithin s.nowNtp after keys :=
    ⟨promised keys mem, Or.inl ((promised keys mem).issued.trans_lt ends)⟩
  refine sound.setTask task ?_
  cases changed with
  | true => exact ⟨within, regular'⟩
  | false =>
      obtain rfl := same rfl
      exact ⟨stored, mem, fun keys mem =>
        ⟨(within keys mem).1, (within keys mem).2.fresh (within keys mem).1 fresh⟩⟩

/-- A save drops no key that may still protect a cookie. -/
def SaveKeeps (s : CookieSystem ι) (outcome : SaveOutcome) : CookieTask → Prop
  | .saving _ keyring => outcome = .failed false ∨
      ∀ stored ∈ s.store, Keeps ntsKeCookieLifetimeSeconds s.nowNtp stored keyring
  | _ => True

def SavesKeep (s : CookieSystem ι) : CookieEvent ι → Prop
  | .save task outcome => SaveKeeps s outcome (s.tasks task)
  | _ => True

instance (s : CookieSystem ι) (outcome : SaveOutcome) :
    (state : CookieTask) → Decidable (SaveKeeps s outcome state)
  | .saving .. => inferInstanceAs (Decidable (_ ∨ _))
  | .idle | .called _ | .loaded .. | .maintained _ => inferInstanceAs (Decidable True)

instance (s : CookieSystem ι) : (event : CookieEvent ι) → Decidable (SavesKeep s event)
  | .save task outcome => inferInstanceAs (Decidable (SaveKeeps s outcome (s.tasks task)))
  | .ensure .. | .call .. | .load .. | .rotate .. | .finish .. | .wait _ | .reboot =>
      inferInstanceAs (Decidable True)

theorem save_sound {s : CookieSystem ι} (sound : Sound aead s) {task : ι} {outcome : SaveOutcome}
    {call : CookieCall} {keyring : Keyring} (saving : s.tasks task = .saving call keyring)
    (met : SaveKeeps s outcome (.saving call keyring)) :
    Sound aead ({ s with store := (saveCookieKeyring s.store keyring outcome).2 }.setTask task
      (if (saveCookieKeyring s.store keyring outcome).1 = EspErr.ok then .maintained call else .idle)) := by
  obtain ⟨within, regular⟩ : TaskSound s.nowNtp s.store (.saving call keyring) :=
    saving ▸ sound.tasks task
  match outcome, met with
  | .saved, met =>
      have keeps := StoreKeeps.some regular (met.resolve_left nofun)
      exact (sound.stored keeps).setTask task ⟨keyring, rfl, within⟩
  | .failed true, met =>
      exact (sound.stored (StoreKeeps.some regular (met.resolve_left nofun))).setTask task trivial
  | .failed false, _ => exact sound.setTask task trivial

theorem createLoaded_kept {nowNtp : Nat} {store : Option Keyring} {stored : Keyring}
    (mem : stored ∈ store) (regular : Regular stored) {keys : CookieKeys} {cookieLen : Nat}
    {nonce : CookieNonce} {cookie : Bytes} (promised : Promised nowNtp keys)
    (within : IssuedWithin nowNtp stored keys)
    (created : createLoaded aead stored keys cookieLen nonce = .ok cookie) :
    Kept aead nowNtp store cookie keys := by
  have active : getActiveCookieMasterKey stored = some stored.active :=
    if_neg (by simp [regular.activeValid])
  simp only [createLoaded, active] at created
  split at created
  · cases created
  refine ⟨promised, sealCookie_length created, ?_⟩
  rcases within with issued | expired
  · have expires := promised.expires
    exact Or.inr ⟨stored, mem, stored.active, nonce, regular.active_serves, created, by omega⟩
  · exact Or.inl expired

theorem finish_sound {s : CookieSystem ι} (sound : Sound aead s) {task : ι} {fails : Bool}
    {nonce : CookieNonce} {keys : CookieKeys} {cookieLen : Nat} {keyring : Keyring} {cookie : Bytes}
    (maintained : s.tasks task = .maintained (.create keys cookieLen))
    (loaded : loadCookieKeyring s.store fails = .ok keyring)
    (created : createLoaded aead keyring keys cookieLen nonce = .ok cookie) :
    Sound aead ({ s with created := (cookie, keys) :: s.created }.setTask task .idle) := by
  obtain ⟨stored, mem, within⟩ : TaskSound s.nowNtp s.store (.maintained (.create keys cookieLen)) :=
    maintained ▸ sound.tasks task
  obtain rfl := Option.mem_unique mem (loadCookieKeyring_ok loaded)
  obtain ⟨promised, within⟩ := within keys rfl
  have kept := createLoaded_kept mem (sound.regular _ mem) promised within created
  have added : Sound aead { s with created := (cookie, keys) :: s.created } :=
    ⟨sound.era, sound.regular, sound.tasks, List.forall_mem_cons.mpr ⟨kept, sound.created⟩⟩
  exact added.setTask task trivial

theorem apply_sound {s t : CookieSystem ι} (sound : Sound aead s) {event : CookieEvent ι}
    (now : ∀ now ∈ event.clock, now = s.nowNtp) (met : SavesKeep s event)
    (taken : s.apply aead event = some t) : Sound aead t := by
  cases applied_of_apply taken with
  | ensure => exact sound.stored (ensure_keeps sound.regular sound.era now)
  | call promised => exact sound.setTask _ (promised_iff.mp promised)
  | @load task fails call keyring called loaded =>
      have promised := sound.tasks task
      rw [called] at promised
      have stored := loadCookieKeyring_ok loaded
      exact sound.setTask task
        ⟨promised, sound.regular keyring stored, keyring, stored, Fresh.refl _ _⟩
  | rotate loaded rotated => exact rotate_sound sound now loaded rotated
  | @save task outcome call keyring saving =>
      simp only [SavesKeep, saving] at met
      exact save_sound sound saving met
  | finish maintained loaded created => exact finish_sound sound maintained loaded created
  | abandon task => exact sound.setTask task trivial
  | wait => exact sound
  | reboot => exact ⟨sound.era, sound.regular, fun _ => trivial, sound.created⟩

theorem cookieStep_some {s t : CookieSystem ι} {event : CookieEvent ι}
    (taken : cookieStep aead s event = some t) : ∃ now, s.nowNtp ≤ now ∧
      (s.nowNtp < 2 ^ 32 → now < 2 ^ 32) ∧ (event.clock = none → now = s.nowNtp) ∧
      (∀ reading ∈ event.clock, reading = now) ∧ { s with nowNtp := now }.apply aead event = some t := by
  unfold cookieStep at taken
  cases reading : event.clock with
  | none =>
      rw [reading] at taken
      exact ⟨s.nowNtp, le_rfl, id, fun _ => rfl, by simp, taken⟩
  | some now =>
      rw [reading] at taken
      dsimp only at taken
      split at taken
      · rename_i era
        exact ⟨now, era.1, fun _ => era.2, nofun, by simp, taken⟩
      · cases taken

theorem cookieStep_sound {s t : CookieSystem ι} (sound : Sound aead s) {event : CookieEvent ι}
    (met : SavesKeep s event) (taken : cookieStep aead s event = some t) : Sound aead t := by
  obtain ⟨now, later, era, same, read, taken⟩ := cookieStep_some taken
  refine apply_sound (sound.later later (era sound.era)) read ?_ taken
  cases event with
  | save task outcome =>
      obtain rfl := same rfl
      exact met
  | _ => trivial

end NtsTimeServer.Proof
