import NtsTimeServer.Lib.Run
import NtsTimeServer.Proof.Keyring

namespace NtsTimeServer.Proof
open Model Lib

structure StoredSound (keyring : Keyring) : Prop where
  validates : validateCookieKeyring keyring = .ok
  consecutive : Consecutive keyring
  /-- the slots hold 64-bit seconds -/
  fits : keyring.next.notAfterNtp < 2 ^ 64

theorem StoredSound.nextPeriod {keyring : Keyring} (sound : StoredSound keyring) :
    keyring.active.notAfterNtp < keyring.next.notAfterNtp := by
  obtain ⟨-, -, next, -, start, -⟩ := validateCookieKeyring_ok_iff.mp sound.validates
  have period := (populatedSlotValid_iff.mp next).2.2
  omega

theorem rotateOnce_wraps {keyring : Keyring} (sound : StoredSound keyring)
    (wraps : 2 ^ 64 ≤ keyring.next.notAfterNtp + ntsStorageKeyPeriodSeconds) (random : Bytes) :
    validateCookieKeyring (rotateOnce keyring random) ≠ .ok := by
  intro validates
  obtain ⟨-, -, next, -⟩ := validateCookieKeyring_ok_iff.mp validates
  have period : keyring.next.notAfterNtp <
      u64 (keyring.next.notAfterNtp + ntsStorageKeyPeriodSeconds) :=
    (populatedSlotValid_iff.mp next).2.2
  have fits := sound.fits
  simp only [u64, ntsStorageKeyPeriodSeconds] at period wraps
  omega

/-! ## The loop -/

inductive RotationLoop (nowNtp : Nat) : (Nat → Bytes) → Keyring → Keyring → Prop
  | stop {random : Nat → Bytes} {keyring : Keyring} : nowNtp < keyring.active.notAfterNtp →
      RotationLoop nowNtp random keyring keyring
  | turn {random : Nat → Bytes} {keyring result : Keyring} : keyring.active.notAfterNtp ≤ nowNtp →
      RotationLoop nowNtp (fun turn => random (turn + 1)) (rotateOnce keyring (random 0)) result →
      RotationLoop nowNtp random keyring result

theorem RotationLoop.ends {nowNtp : Nat} {random : Nat → Bytes} {keyring result : Keyring}
    (loop : RotationLoop nowNtp random keyring result) : nowNtp < result.active.notAfterNtp := by
  induction loop with
  | stop early => exact early
  | turn _ _ ih => exact ih

/-- The active key ends later after every turn; a turn that wraps is the last one, as the key it
makes active ends long after `nowNtp`. -/
theorem rotateWhileDue_loop {nowNtp : Nat} (now : nowNtp < 2 ^ 32) {fuel : Nat}
    (random : Nat → Bytes) {keyring : Keyring}
    (later : keyring.active.notAfterNtp ≤ nowNtp →
      keyring.active.notAfterNtp < keyring.next.notAfterNtp)
    (enough : nowNtp < fuel + keyring.active.notAfterNtp) :
    RotationLoop nowNtp random keyring (rotateWhileDue nowNtp fuel random keyring) := by
  induction fuel generalizing random keyring with
  | zero => exact .stop (by simpa using enough)
  | succ fuel ih =>
      rw [rotateWhileDue]
      split
      · rename_i due
        have increases := later due
        refine .turn due (ih _ (fun dueAgain => ?_) ?_)
        · change keyring.next.notAfterNtp ≤ nowNtp at dueAgain
          change keyring.next.notAfterNtp <
            u64 (keyring.next.notAfterNtp + ntsStorageKeyPeriodSeconds)
          rw [u64_eq (by simp only [ntsStorageKeyPeriodSeconds]; omega)]
          exact Nat.lt_add_of_pos_right (by decide)
        · change nowNtp < fuel + keyring.next.notAfterNtp
          omega
      · rename_i early
        exact .stop (not_le.mp early)

theorem RotationLoop.wraps {nowNtp : Nat} {random : Nat → Bytes} {keyring result : Keyring}
    (loop : RotationLoop nowNtp random keyring result) (sound : StoredSound keyring)
    (due : keyring.active.notAfterNtp = nowNtp)
    (wraps : 2 ^ 64 ≤ keyring.next.notAfterNtp + ntsStorageKeyPeriodSeconds) :
    validateCookieKeyring result ≠ .ok := by
  cases loop with
  | stop early => omega
  | turn _ rest =>
      cases rest with
      | stop => exact rotateOnce_wraps sound wraps _
      | turn dueAgain _ =>
          have later := sound.nextPeriod
          change keyring.next.notAfterNtp ≤ nowNtp at dueAgain
          omega

theorem maintain_cases (store : Option Keyring) (env : StorageEnv) :
    (ntsStorageMaintainCookieKeyring store env).1 ≠ .ok ∧
        (ntsStorageMaintainCookieKeyring store env).2 = store ∨
      ∃ keyring nowNtp, store = some keyring ∧ env.clock = some nowNtp ∧
        ntsStorageMaintainCookieKeyring store env =
          if nowNtp ≥ keyring.active.notAfterNtp then saveCookieKeyring store
            (rotateWhileDue nowNtp (nowNtp + 1) env.random keyring) env.save
          else (.ok, store) := by
  unfold ntsStorageMaintainCookieKeyring loadCookieKeyring
  cases env.loadFails with
  | true => exact Or.inl ⟨by simp, rfl⟩
  | false =>
      cases store with
      | none => exact Or.inl ⟨by simp, rfl⟩
      | some keyring =>
          by_cases validates : validateCookieKeyring keyring = .ok
          · cases clock : env.clock with
            | none => exact Or.inl ⟨by simp [maintainLoaded, validates], by simp [maintainLoaded, validates]⟩
            | some nowNtp =>
                refine Or.inr ⟨keyring, nowNtp, rfl, rfl, ?_⟩
                simp [maintainLoaded, validates]
          · exact Or.inl ⟨by simp [maintainLoaded, validates], by simp [maintainLoaded, validates]⟩

theorem StorageEnv.clock_lt {env : StorageEnv} (fits : env.clockFits = true) {nowNtp : Nat}
    (clock : env.clock = some nowNtp) : nowNtp < 2 ^ 32 := by
  simpa [StorageEnv.clockFits, clock] using fits

theorem StoredSound.loop {keyring : Keyring} (sound : StoredSound keyring) {nowNtp : Nat}
    (now : nowNtp < 2 ^ 32) (random : Nat → Bytes) :
    RotationLoop nowNtp random keyring (rotateWhileDue nowNtp (nowNtp + 1) random keyring) :=
  rotateWhileDue_loop now random (fun _ => sound.nextPeriod) (by omega)

theorem saveCookieKeyring_mem {store : Option Keyring} {keyring stored : Keyring}
    {outcome : SaveOutcome} (mem : stored ∈ (saveCookieKeyring store keyring outcome).2) :
    stored = keyring ∨ stored ∈ store := by
  cases outcome with
  | saved => exact Or.inl (Option.some.inj mem).symm
  | failed written =>
      cases written with
      | true => exact Or.inl (Option.some.inj mem).symm
      | false => exact Or.inr mem

theorem ensure_leaves {store : Option Keyring} {env : StorageEnv} {after : Keyring}
    (stored : after ∈ (ntsStorageEnsureCookieKeyring store env).2) :
    after ∈ store ∨ ∃ nowNtp, env.clock = some nowNtp ∧ after = newKeyring nowNtp env.random := by
  unfold ntsStorageEnsureCookieKeyring at stored
  split at stored
  · exact Or.inl stored
  · split at stored
    · exact Or.inl stored
    · split at stored
      · exact Or.inl stored
      · rename_i nowNtp clock
        rcases saveCookieKeyring_mem stored with rfl | mem
        · exact Or.inr ⟨nowNtp, clock, rfl⟩
        · exact Or.inl mem

end NtsTimeServer.Proof
