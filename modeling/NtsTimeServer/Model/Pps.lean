import NtsTimeServer.Model.Clock

/-!
# The PPS capture service

`pps_service.c` from the capture interrupt on: the conversion of the timer's count, the queue of
captured edges and the interval statistics. The counters that nothing reads are left out.
-/

namespace NtsTimeServer.Model

def appPpsEventQueueLength : Nat := 16
def appPpsNominalIntervalUs : Nat := 1000000
def appPpsMinIntervalUs : Nat := 800000
def appPpsMaxIntervalUs : Nat := 1200000

def appPpsTimerResolutionHz : Nat := 1000000

def ticksToUs (ticks : Nat) : Nat := u64 (ticks * 1000000) / appPpsTimerResolutionHz

structure PpsService where
  /-- capture times waiting in `s_capture_queue`, oldest first -/
  captureQueue : List Nat
  previousCaptureUs : Nat
  intervalValid : Bool
  lastCaptureUs : Nat
  periodUs : Nat
  jitterUs : Nat
  deriving DecidableEq

def ppsInit : PpsService := ⟨[], 0, false, 0, 0, 0⟩

def ppsGpioIsr (pps : PpsService) (captureUs : Nat) : PpsService :=
  if pps.captureQueue.length < appPpsEventQueueLength then
    { pps with captureQueue := pps.captureQueue ++ [captureUs] }
  else pps

/-- The whole interrupt; `none` where `gptimer_get_captured_count` fails. -/
def ppsGpioIsrCaptured (pps : PpsService) : Option Nat → PpsService
  | none => pps
  | some capturedTicks => ppsGpioIsr pps (ticksToUs capturedTicks)

def ppsWaitForCapture (pps : PpsService) : Option (Nat × PpsService) :=
  match pps.captureQueue with
  | [] => none
  | captureUs :: rest =>
      let period64 := captureUs - pps.previousCaptureUs
      let measured := pps.previousCaptureUs ≠ 0 ∧ captureUs > pps.previousCaptureUs ∧
        period64 ≤ 2 ^ 32 - 1
      let intervalValid := measured ∧ appPpsMinIntervalUs ≤ period64 ∧ period64 ≤ appPpsMaxIntervalUs
      some (captureUs, {
        captureQueue := rest
        previousCaptureUs := captureUs
        intervalValid := decide intervalValid
        lastCaptureUs := captureUs
        periodUs := if measured then period64 else 0
        jitterUs := if intervalValid
          then ((period64 : Int) - appPpsNominalIntervalUs).natAbs else 0 })

/-- `none` where `gptimer_get_raw_count` fails. -/
def ppsServiceGetMonotonicUs (rawTicks : Option Nat) : Option Nat := rawTicks.map ticksToUs

def ppsGetStatus (pps : PpsService) (monotonicUs : Option Nat) : PpsStatus where
  intervalValid := pps.intervalValid
  lastCaptureUs := pps.lastCaptureUs
  periodUs := pps.periodUs
  jitterUs := pps.jitterUs
  ageUs := match monotonicUs with
    | some nowUs =>
        if pps.lastCaptureUs ≠ 0 ∧ nowUs ≥ pps.lastCaptureUs then nowUs - pps.lastCaptureUs else -1
    | none => -1

end NtsTimeServer.Model
