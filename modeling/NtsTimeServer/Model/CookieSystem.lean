import NtsTimeServer.Lib.Run
import NtsTimeServer.Model.Cookie
import Mathlib.Logic.Function.Basic

/-!
# Tasks that share the keyring

Tasks of any set `ι` that run the cookie functions on one store. The load and the save of the ring
are atomic, everything a task does between them is its own. The disciplined clock never goes back
and stays in one NTP era.
-/

namespace NtsTimeServer.Model
open Lib

def ntsKeCookieLifetimeSeconds : Nat := 86400

inductive CookieCall
  | generate
  | create (keys : CookieKeys) (cookieLen : Nat)
  | unpack (cookie : Bytes)

inductive CookieTask
  | idle
  /-- before the load of `nts_storage_maintain_cookie_keyring` -/
  | called (call : CookieCall)
  /-- after that load -/
  | loaded (call : CookieCall) (keyring : Keyring)
  /-- a rotated ring is to be saved -/
  | saving (call : CookieCall) (keyring : Keyring)
  /-- the maintenance is done, before the load of the function itself -/
  | maintained (call : CookieCall)

structure CookieSystem (ι : Type) where
  store : Option Keyring
  nowNtp : Nat
  tasks : ι → CookieTask
  /-- the cookies that `nts_cookie_create` returned, with their traffic keys -/
  created : List (Bytes × CookieKeys)

inductive CookieEvent (ι : Type)
  | ensure (loadFails : Bool) (clock : Option Nat) (random : Nat → Bytes) (save : SaveOutcome)
  | call (task : ι) (call : CookieCall)
  | load (task : ι) (fails : Bool)
  | rotate (task : ι) (clock : Option Nat) (random : Nat → Bytes)
  | save (task : ι) (outcome : SaveOutcome)
  /-- the function's own load and what follows it -/
  | finish (task : ι) (fails : Bool) (nonce : CookieNonce)
  | wait (now : Nat)
  | reboot

def cookieStart {ι : Type} : CookieSystem ι := ⟨none, 0, fun _ => .idle, []⟩

variable {ι : Type}

def CookieEvent.clock : CookieEvent ι → Option Nat
  | .ensure _ clock .. | .rotate _ clock _ => clock
  | .wait now => some now
  | .call .. | .load .. | .save .. | .finish .. | .reboot => none

/-- What the callers promise: the traffic keys come from a call of `nts_cookie_generate_keys` with
the lifetime of the NTS-KE server. -/
def CookieSystem.promised (s : CookieSystem ι) : CookieCall → Prop
  | .create keys _ => keys.issuedNtpSeconds ≤ s.nowNtp ∧
      keys.expiresNtpSeconds = keys.issuedNtpSeconds + ntsKeCookieLifetimeSeconds
  | .generate | .unpack _ => True

instance (s : CookieSystem ι) : (call : CookieCall) → Decidable (s.promised call)
  | .create .. => inferInstanceAs (Decidable (_ ∧ _))
  | .generate | .unpack _ => inferInstanceAs (Decidable True)

variable [DecidableEq ι]

def CookieSystem.setTask (s : CookieSystem ι) (task : ι) (state : CookieTask) : CookieSystem ι :=
  { s with tasks := Function.update s.tasks task state }

def CookieSystem.apply (aead : Aead) (s : CookieSystem ι) :
    CookieEvent ι → Option (CookieSystem ι)
  | .ensure loadFails clock random save =>
      some { s with store := (ntsStorageEnsureCookieKeyring s.store
        ⟨loadFails, clock, random, save⟩).2 }
  | .call task call =>
      match s.tasks task with
      | .idle => if s.promised call then some (s.setTask task (.called call)) else none
      | _ => none
  | .load task fails =>
      match s.tasks task with
      | .called call =>
          match loadCookieKeyring s.store fails with
          | .error _ => some (s.setTask task .idle)
          | .ok keyring => some (s.setTask task (.loaded call keyring))
      | _ => none
  | .rotate task clock random =>
      match s.tasks task with
      | .loaded call keyring =>
          match maintainLoaded keyring clock random with
          | .error _ => some (s.setTask task .idle)
          | .ok (changed, keyring) =>
              some (s.setTask task (if changed then .saving call keyring else .maintained call))
      | _ => none
  | .save task outcome =>
      match s.tasks task with
      | .saving call keyring =>
          let (err, store) := saveCookieKeyring s.store keyring outcome
          some ({ s with store := store }.setTask task
            (if err = EspErr.ok then .maintained call else .idle))
      | _ => none
  | .finish task fails nonce =>
      match s.tasks task with
      | .maintained call =>
          match call, loadCookieKeyring s.store fails with
          | .create keys cookieLen, .ok keyring =>
              match createLoaded aead keyring keys cookieLen nonce with
              | .error _ => some (s.setTask task .idle)
              | .ok cookie =>
                  some ({ s with created := (cookie, keys) :: s.created }.setTask task .idle)
          | _, _ => some (s.setTask task .idle)
      | _ => none
  | .wait _ => some s
  | .reboot => some { s with tasks := fun _ => .idle }

/-- What the last part of `nts_cookie_unpack` returns when its load succeeds and it reads `now`. -/
def CookieSystem.unpack (aead : Aead) (s : CookieSystem ι) (cookie : Bytes) (now : Nat) :
    Except EspErr CookieKeys :=
  match loadCookieKeyring s.store false with
  | .error err => .error err
  | .ok keyring => unpackLoaded aead keyring cookie (some now)

/-- The readings of the clock never go back and fit the 32-bit seconds of one NTP era. -/
def cookieStep (aead : Aead) (s : CookieSystem ι) (event : CookieEvent ι) :
    Option (CookieSystem ι) :=
  match event.clock with
  | none => s.apply aead event
  | some now =>
      if s.nowNtp ≤ now ∧ now < 2 ^ 32 then { s with nowNtp := now }.apply aead event else none

end NtsTimeServer.Model
