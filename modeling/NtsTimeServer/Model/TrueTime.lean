import NtsTimeServer.Lib.Eras
import NtsTimeServer.Lib.Run
import NtsTimeServer.Model.Clock
import NtsTimeServer.Model.Keyring

/-!
# Decisions on a clock that shows the true time

An instant is its UTC seconds since 1970. The disciplined clock shows it as 32-bit NTP seconds;
`nts_storage.c`, `nts_cookie.c` and `web_console.c` decide on these.
-/

namespace NtsTimeServer.Model
open Lib

/-- The NTP seconds of an instant, not reduced to 32 bits. -/
def ntpSeconds (utcSeconds : Nat) : Nat := utcSeconds + appNtpEpochDelta

/-- The seconds of `clock_discipline_get_ntp_timestamp` at an instant. -/
def ntpReading (utcSeconds : Nat) : Nat := u32 (ntpSeconds utcSeconds)

def getCurrentUnixTime : Option NtpTimestamp → Option Int
  | none => none
  | some ntpTime =>
      if ntpTime.seconds < appNtpEpochDelta then none
      else some ((ntpTime.seconds : Int) - (appNtpEpochDelta : Int))

/-! ## The keyring over time -/

/-- The stored ring, the latest instant and the one at which the ring was created. -/
structure TimedKeyring where
  store : Option Keyring
  now : Nat
  created : Nat
  deriving DecidableEq

def timedStart : TimedKeyring := ⟨none, 0, 0⟩

/-- The clock is read at the instant of the call, if it can be read. -/
def StorageEnv.readsAt (env : StorageEnv) (utcSeconds : Nat) : Bool :=
  env.clock.all fun nowNtp => nowNtp == ntpReading utcSeconds

def KeyringCall.readsAt (utcSeconds : Nat) : KeyringCall → Bool
  | .ensure env | .maintain env => env.readsAt utcSeconds
  | .reboot => true

/-- The instants of the calls do not decrease. -/
def timedStep (s : TimedKeyring) : Nat × KeyringCall → Option TimedKeyring
  | (utcSeconds, call) =>
      if s.now ≤ utcSeconds ∧ call.readsAt utcSeconds then
        (keyringStep s.store call).map fun store =>
          { store := store
            now := utcSeconds
            created := if s.store = none then utcSeconds else s.created }
      else none

end NtsTimeServer.Model
