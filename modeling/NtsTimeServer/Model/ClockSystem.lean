import NtsTimeServer.Lib.Run
import NtsTimeServer.Model.Clock

/-!
# The clock and the functions that write it

`clock_discipline_submit_sample`, `update_reference_state` and `enforce_holdover_policy` in any
order, against a counter that never goes back. The system records what it needs to speak about a
run: the results of the submitted samples and the capture time of the last accepted one.
-/

namespace NtsTimeServer.Model

inductive ClockEvent
  | submit (now : Nat) (lock : Bool) (sample : TimingSample)
  | updateReference (now : Nat) (gnss : Option GnssStatus) (pps : Option PpsStatus) (lock : Bool)
  /-- `read` tells whether the counter could be read -/
  | enforce (now : Nat) (lock read : Bool)
  | wait (now : Nat)

def ClockEvent.now : ClockEvent → Nat
  | submit now .. => now
  | updateReference now .. => now
  | enforce now .. => now
  | wait now => now

structure ClockSystem (F : Type) where
  clock : ClockContext F
  counterUs : Nat
  /-- results of `clock_discipline_submit_sample`, latest first -/
  results : List EspErr
  /-- capture time of the most recent accepted sample -/
  acceptedUs : Option Nat
  deriving DecidableEq

variable {F : Type} [Double F]

def clockStart : ClockSystem F := ⟨clockInit, 0, [], none⟩

def ClockSystem.apply (config : Kconfig) (s : ClockSystem F) : ClockEvent → ClockSystem F
  | .submit now lock sample =>
      let (err, clock) := submitSample config s.clock lock sample
      { clock := clock
        counterUs := now
        results := err :: s.results
        acceptedUs := if err = .ok then some sample.ppsCaptureUs else s.acceptedUs }
  | .updateReference now gnss pps lock =>
      { s with clock := updateReferenceState s.clock gnss pps lock, counterUs := now }
  | .enforce now lock read =>
      { s with
        clock := enforceHoldoverPolicy config s.clock lock (if read then some now else none)
        counterUs := now }
  | .wait now => { s with counterUs := now }

def clockStep (config : Kconfig) (s : ClockSystem F) (event : ClockEvent) :
    Option (ClockSystem F) :=
  if s.counterUs ≤ event.now then some (s.apply config event) else none

theorem clockStep_eq_some {config : Kconfig} {s t : ClockSystem F} {event : ClockEvent} :
    clockStep config s event = some t ↔ s.counterUs ≤ event.now ∧ s.apply config event = t := by
  simp [clockStep]

end NtsTimeServer.Model
