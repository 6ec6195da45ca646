import NtsTimeServer.Lib.Run
import NtsTimeServer.Model.Pps

/-!
# The capture timer

`pps_service.c` against a timer that only counts up. The system records the count that every capture
was taken at, and what `pps_service_wait_for_capture` and `pps_service_get_monotonic_us` returned.
-/

namespace NtsTimeServer.Model

inductive TimerEvent
  /-- a rising edge of the PPS and its interrupt -/
  | edge (ticks : Nat) (captured : Bool)
  | waitForCapture
  | getMonotonic (ticks : Nat) (counted : Bool)

structure Capture where
  ticks : Nat
  captureUs : Nat
  deriving DecidableEq

structure TimerSystem where
  pps : PpsService
  ticks : Nat
  /-- the counts of the captures in the queue, oldest first -/
  queuedTicks : List Nat
  /-- latest first -/
  delivered : List Capture
  /-- latest first -/
  readings : List Nat
  deriving DecidableEq

def timerStart : TimerSystem := ⟨ppsInit, 0, [], [], []⟩

def TimerEvent.ticks (s : TimerSystem) : TimerEvent → Nat
  | .edge ticks _ | .getMonotonic ticks _ => ticks
  | .waitForCapture => s.ticks

def TimerSystem.apply (s : TimerSystem) : TimerEvent → TimerSystem
  | .edge ticks captured =>
      let pps := ppsGpioIsrCaptured s.pps (if captured then some ticks else none)
      { s with
        pps := pps
        ticks := ticks
        queuedTicks := if pps.captureQueue.length > s.pps.captureQueue.length
          then s.queuedTicks ++ [ticks] else s.queuedTicks }
  | .waitForCapture =>
      match ppsWaitForCapture s.pps with
      | none => s
      | some (captureUs, pps) =>
          { s with
            pps := pps
            queuedTicks := s.queuedTicks.tail
            delivered := ⟨s.queuedTicks.headD 0, captureUs⟩ :: s.delivered }
  | .getMonotonic ticks counted =>
      match ppsServiceGetMonotonicUs (if counted then some ticks else none) with
      | none => { s with ticks := ticks }
      | some nowUs => { s with ticks := ticks, readings := nowUs :: s.readings }

def timerStep (s : TimerSystem) (event : TimerEvent) : Option TimerSystem :=
  if s.ticks ≤ event.ticks s then some (s.apply event) else none

end NtsTimeServer.Model
