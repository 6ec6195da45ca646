import NtsTimeServer.Lib.Bytes
import NtsTimeServer.Model.Types

/-!
# The cookie keyring

`nts_storage.c`: the ring of three master keys, its validation, its rotation and its storage. The
store is the blob in NVS, `none` where there is none; the error codes of NVS are all `fail`.
-/

namespace NtsTimeServer.Model
open Lib

def ntsStorageCookieKeyLen : Nat := 32
def ntsStorageKeyPeriodSeconds : Nat := 30 * 24 * 3600

structure CookieKey where
  keyId : Nat
  notBeforeNtp : Nat
  notAfterNtp : Nat
  key : Bytes
  valid : Nat
  deriving DecidableEq, Repr

/-- `nts_storage_cookie_keyring_t`, the slots PREVIOUS, ACTIVE and NEXT. -/
structure Keyring where
  previous : CookieKey
  active : CookieKey
  next : CookieKey
  deriving DecidableEq, Repr

def emptySlot : CookieKey := ⟨0, 0, 0, List.replicate ntsStorageCookieKeyLen 0, 0⟩

def slotValidValue (slot : CookieKey) : Bool := slot.valid == 0 || slot.valid == 1

def populatedSlotValid (slot : CookieKey) : Bool :=
  slot.valid == 1 && slot.keyId != 0 && decide (slot.notBeforeNtp < slot.notAfterNtp)

def slotIdsDistinct (first second : CookieKey) : Bool :=
  first.valid == 0 || second.valid == 0 || first.keyId != second.keyId

def keyIdsDistinct (keyring : Keyring) : Bool :=
  slotIdsDistinct keyring.previous keyring.active && slotIdsDistinct keyring.previous keyring.next &&
    slotIdsDistinct keyring.active keyring.next

/-- The check of one slot in the loop of `validate_cookie_keyring`. -/
def slotAcceptable (slot : CookieKey) : Bool :=
  slotValidValue slot && (slot.valid == 0 || populatedSlotValid slot)

def validateCookieKeyring (keyring : Keyring) : EspErr :=
  if ¬slotAcceptable keyring.previous ∨ ¬slotAcceptable keyring.active ∨
      ¬slotAcceptable keyring.next then .invalidState
  else if ¬populatedSlotValid keyring.active then .invalidState
  else if ¬populatedSlotValid keyring.next then .invalidState
  else if ¬keyIdsDistinct keyring then .invalidState
  else if keyring.next.notBeforeNtp ≠ keyring.active.notAfterNtp then .invalidState
  else if keyring.next.notAfterNtp ≤ keyring.next.notBeforeNtp then .invalidState
  else if keyring.previous.valid ≠ 0 ∧
      keyring.previous.notAfterNtp ≠ keyring.active.notBeforeNtp then .invalidState
  else .ok

/-! ## Rotation -/

def nextKeyId (currentKeyId : Nat) : Nat :=
  let result := u32 (currentKeyId + 1)
  if result = 0 then 1 else result

def generateNextSlot (keyId notBeforeNtp : Nat) (random : Bytes) : CookieKey where
  keyId := keyId
  notBeforeNtp := notBeforeNtp
  notAfterNtp := u64 (notBeforeNtp + ntsStorageKeyPeriodSeconds)
  key := random
  valid := 1

def rotateOnce (keyring : Keyring) (random : Bytes) : Keyring where
  previous := keyring.active
  active := keyring.next
  next := generateNextSlot (nextKeyId keyring.next.keyId) keyring.next.notAfterNtp random

/-- The loop of `nts_storage_maintain_cookie_keyring`; `random` gives the key of each turn. -/
def rotateWhileDue (nowNtp : Nat) : Nat → (Nat → Bytes) → Keyring → Keyring
  | 0, _, keyring => keyring
  | fuel + 1, random, keyring =>
      if nowNtp ≥ keyring.active.notAfterNtp then
        rotateWhileDue nowNtp fuel (fun turn => random (turn + 1)) (rotateOnce keyring (random 0))
      else keyring

/-- The part of `nts_storage_maintain_cookie_keyring` between the load and the save: whether the
ring changed, and the ring. Every turn moves the end of the active key, so `nowNtp + 1` turns are
enough. -/
def maintainLoaded (keyring : Keyring) (clock : Option Nat) (random : Nat → Bytes) :
    Except EspErr (Bool × Keyring) :=
  if validateCookieKeyring keyring ≠ .ok then .error (validateCookieKeyring keyring)
  else match clock with
    | none => .error .invalidState
    | some nowNtp => .ok (decide (nowNtp ≥ keyring.active.notAfterNtp),
        rotateWhileDue nowNtp (nowNtp + 1) random keyring)

/-! ## Storage -/

/-- How a save ends; a failed one may have written the blob all the same. -/
inductive SaveOutcome
  | saved
  | failed (written : Bool)
  deriving DecidableEq, Repr

def loadCookieKeyring (store : Option Keyring) (fails : Bool) : Except EspErr Keyring :=
  if fails then .error .fail
  else match store with
    | none => .error .notFound
    | some keyring => .ok keyring

def saveCookieKeyring (store : Option Keyring) (keyring : Keyring) :
    SaveOutcome → EspErr × Option Keyring
  | .saved => (.ok, some keyring)
  | .failed written => (.fail, if written then some keyring else store)

/-- What the functions of the store read from outside: whether the load fails, the disciplined
clock, the random bytes and how the save ends. -/
structure StorageEnv where
  loadFails : Bool
  clock : Option Nat
  random : Nat → Bytes
  save : SaveOutcome

def newKeyring (nowNtp : Nat) (random : Nat → Bytes) : Keyring :=
  let active := generateNextSlot 1 nowNtp (random 0)
  { previous := emptySlot
    active := active
    next := generateNextSlot 2 active.notAfterNtp (random 1) }

def ntsStorageEnsureCookieKeyring (store : Option Keyring) (env : StorageEnv) :
    EspErr × Option Keyring :=
  match loadCookieKeyring store env.loadFails with
  | .ok keyring => (validateCookieKeyring keyring, store)
  | .error err =>
      if err ≠ .notFound then (err, store)
      else match env.clock with
        | none => (.invalidState, store)
        | some nowNtp => saveCookieKeyring store (newKeyring nowNtp env.random) env.save

def ntsStorageMaintainCookieKeyring (store : Option Keyring) (env : StorageEnv) :
    EspErr × Option Keyring :=
  match loadCookieKeyring store env.loadFails with
  | .error err => (err, store)
  | .ok keyring =>
      match maintainLoaded keyring env.clock env.random with
      | .error err => (err, store)
      | .ok (changed, keyring) =>
          if changed then saveCookieKeyring store keyring env.save else (.ok, store)

/-! ## Histories of the store -/

/-- The disciplined clock counts 32-bit seconds. -/
def StorageEnv.clockFits (env : StorageEnv) : Bool :=
  env.clock.all fun nowNtp => decide (nowNtp < 2 ^ 32)

inductive KeyringCall
  | ensure (env : StorageEnv)
  | maintain (env : StorageEnv)
  | reboot

def keyringStep (store : Option Keyring) : KeyringCall → Option (Option Keyring)
  | .ensure env => if env.clockFits then some (ntsStorageEnsureCookieKeyring store env).2 else none
  | .maintain env => if env.clockFits then some (ntsStorageMaintainCookieKeyring store env).2 else none
  | .reboot => some store

end NtsTimeServer.Model
