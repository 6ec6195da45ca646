import NtsTimeServer.Lib.Signed
import NtsTimeServer.Model.PeerMonitor

/-!
# The arithmetic of a measurement, with its overflows

The computations of `process_response` and `compute_rolling_stats` once more, statement by statement,
where a result that its C type does not hold is `none`.
-/

namespace NtsTimeServer.Model
open Lib

def measuredOffsetNs (f1 f2 f3 f4 : Nat) : Int :=
  let a := fixedDeltaNs f2 f1
  let b := fixedDeltaNs f3 f4
  a.tdiv 2 + b.tdiv 2 + (a.tmod 2 + b.tmod 2).tdiv 2

def measuredDelayNs (f1 f2 f3 f4 : Nat) : Int := fixedDeltaNs f4 f1 - fixedDeltaNs f3 f2

/-- `fixed_delta_ns` from the signed difference on. -/
def deltaNsChecked (delta : Int) : Option Int := do
  let whole ← signed 64 (delta.tdiv 4294967296 * 1000000000)
  let scaled ← signed 64 (delta.tmod 4294967296 * 1000000000)
  signed 64 (whole + scaled.tdiv 4294967296)

def fixedDeltaNsChecked (a b : Nat) : Option Int := deltaNsChecked (i64 (sub64 a b))

def measureChecked (f1 f2 f3 f4 : Nat) : Option (Int × Int) := do
  let a ← fixedDeltaNsChecked f2 f1
  let b ← fixedDeltaNsChecked f3 f4
  let halves ← signed 64 (a.tdiv 2 + b.tdiv 2)
  let odd ← signed 64 (a.tmod 2 + b.tmod 2)
  let offsetNs ← signed 64 (halves + odd.tdiv 2)
  let whole ← fixedDeltaNsChecked f4 f1
  let server ← fixedDeltaNsChecked f3 f2
  let delayNs ← signed 64 (whole - server)
  some (offsetNs, delayNs)

/-! ## The rolling statistics -/

def absI64Checked (value : Int) : Option Int :=
  if value = -2 ^ 63 then some (2 ^ 63 - 1)
  else if value < 0 then signed 64 (-value)
  else some value

def isqrtLoopChecked : Nat → Nat → Nat → Option Nat
  | 0, _, result => some result
  | turns + 1, value, result => do
      let bit := 4 ^ turns
      let tried ← unsigned 64 (result + bit)
      if value ≥ tried then isqrtLoopChecked turns (value - tried) (← unsigned 64 (result / 2 + bit))
      else isqrtLoopChecked turns value (result / 2)

def isqrtU64Checked (value : Nat) : Option Nat := isqrtLoopChecked (isqrtTurns value 32) value 0

def divRoundI64Checked (numerator denominator : Int) : Option Int :=
  if denominator ≤ 0 then some 0
  else if numerator ≥ 0 then do
    let shifted ← signed 64 (numerator + denominator.tdiv 2)
    some (shifted.tdiv denominator)
  else do
    let negated ← signed 64 (-numerator)
    let shifted ← signed 64 (negated + denominator.tdiv 2)
    signed 64 (-shifted.tdiv denominator)

def addSquareChecked (sum : Nat) (value : Int) : Option Nat := do
  let magnitude := (← absI64Checked value).toNat
  let square ← if magnitude ≠ 0 ∧ magnitude > (2 ^ 64 - 1) / magnitude then some (2 ^ 64 - 1)
    else unsigned 64 (magnitude * magnitude)
  if 2 ^ 64 - 1 - sum < square then some (2 ^ 64 - 1) else unsigned 64 (sum + square)

def addDifferenceChecked (sum : Nat) (neighbours : Int × Int) : Option Nat := do
  addSquareChecked sum (← signed 64 (neighbours.1 - neighbours.2))

def computeRollingStatsChecked (runtime : PeerRuntime) (peer : PeerStatus) : Option PeerStatus :=
  if runtime.count = 0 then some peer
  else do
    let offsets := runtime.offset.take runtime.count
    let delays := runtime.delay.take runtime.count
    let offsetSum ← offsets.foldlM (fun sum offset => signed 64 (sum + offset)) 0
    let delaySum ← delays.foldlM (fun sum delay => signed 64 (sum + delay)) 0
    let offsetSqSum ← offsets.foldlM addSquareChecked 0
    let diffSqSum ← (offsets.tail.zip offsets).foldlM addDifferenceChecked 0
    let meanOffsetNs ← divRoundI64Checked offsetSum runtime.count
    let rmsOffsetNs ← signed 64 (← isqrtU64Checked (offsetSqSum / runtime.count))
    let meanDelayNs ← divRoundI64Checked delaySum runtime.count
    let jitterNs ← if runtime.count > 1 then do
        signed 64 (← isqrtU64Checked (diffSqSum / (runtime.count - 1)))
      else some 0
    some { peer with
      rollingSamples := runtime.count
      minOffsetNs := offsets.foldl min (offsets.headD 0)
      maxOffsetNs := offsets.foldl max (offsets.headD 0)
      meanOffsetNs := meanOffsetNs
      rmsOffsetNs := rmsOffsetNs
      minDelayNs := delays.foldl min (delays.headD 0)
      meanDelayNs := meanDelayNs
      jitterNs := jitterNs }

end NtsTimeServer.Model
