import NtsTimeServer.Lib.WordProgram

/-!
# `isqrt_u64`, statement by statement

The local variables of the function are the state of its two loops. An addition or a subtraction that
would wrap is a fault.
-/

namespace NtsTimeServer.Model
open Lib

structure IsqrtState where
  value : BitVec 64
  result : BitVec 64
  bit : BitVec 64
  deriving DecidableEq, Repr

/-- `while (bit > value) bit >>= 2` -/
def lowerBit (s : IsqrtState) : Except WordFault (Option IsqrtState) :=
  if s.bit > s.value then .ok (some { s with bit := s.bit >>> 2 }) else .ok none

/-- `while (bit != 0U)` -/
def extractDigit (s : IsqrtState) : Except WordFault (Option IsqrtState) :=
  if s.bit ≠ 0 then do
    let tried ← addExact s.result s.bit
    if s.value ≥ tried then
      let value ← subExact s.value (← addExact s.result s.bit)
      let result ← addExact (s.result >>> 1) s.bit
      return some { value, result, bit := s.bit >>> 2 }
    else
      return some { s with result := s.result >>> 1, bit := s.bit >>> 2 }
  else .ok none

def isqrtU64Run (fuel : Nat) (value : BitVec 64) : Except (LoopStop WordFault) (BitVec 64) := do
  let lowered ← loop lowerBit fuel { value, result := 0, bit := 1#64 <<< 62 }
  let final ← loop extractDigit fuel lowered
  return final.result

end NtsTimeServer.Model
