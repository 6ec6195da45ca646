import Mathlib.Data.Rat.Floor

/-!
# Types shared by the modules of the server

`esp_err.h`, `app_state.h`, `app_config.h` and `Kconfig.projbuild`, and the C arithmetic the code
relies on. Counters and unsigned words are naturals, reduced where the C type would wrap; signed
words are integers.
-/

namespace NtsTimeServer.Model

inductive EspErr
  | ok | fail | noMem | invalidArg | invalidState | invalidSize | notFound | notSupported
  | timeout | invalidResponse | invalidCrc | invalidVersion | nvsTypeMismatch | nvsInvalidLength
  deriving DecidableEq, Repr

inductive LeapIndicator
  | noWarning | addSecond | deleteSecond | unknown
  deriving DecidableEq, Repr

inductive ClockState
  | unsynchronized | acquiring | synchronized | holdover | failClosed
  deriving DecidableEq, Repr

/-- The options of `Kconfig.projbuild` that the clock reads, with the ranges it admits. -/
structure Kconfig where
  lockSamples : Nat
  holdoverMaxSeconds : Nat
  lockSamples_range : 3 ≤ lockSamples ∧ lockSamples ≤ 3600
  holdoverMaxSeconds_range : 1 ≤ holdoverMaxSeconds ∧ holdoverMaxSeconds ≤ 86400

def Kconfig.default : Kconfig := ⟨32, 3600, by decide, by decide⟩

def u32 (n : Nat) : Nat := n % 2 ^ 32

def u64 (n : Nat) : Nat := n % 2 ^ 64

def u16 (n : Nat) : Nat := n % 2 ^ 16

/-- An integer as the C type `int64_t` holds it. -/
def i64 (n : Int) : Int := (n + 2 ^ 63) % 2 ^ 64 - 2 ^ 63

theorem u16_eq {n : Nat} (fits : n < 2 ^ 16) : u16 n = n := Nat.mod_eq_of_lt fits

theorem u32_eq {n : Nat} (fits : n < 2 ^ 32) : u32 n = n := Nat.mod_eq_of_lt fits

theorem u64_eq {n : Nat} (fits : n < 2 ^ 64) : u64 n = n := Nat.mod_eq_of_lt fits

theorem i64_eq {n : Int} (low : -2 ^ 63 ≤ n) (high : n < 2 ^ 63) : i64 n = n := by
  unfold i64
  omega

theorem u32_le (n : Nat) : u32 n ≤ n := Nat.mod_le _ _

def sub64 (a b : Nat) : Nat := u64 (a + 2 ^ 64 - b)

/-- What the clock code uses of the type `double`. The rationals are one instance, IEEE 754
binary64 is another; nothing is assumed here about how the operations round. -/
class Double (F : Type) extends Add F, Sub F, Mul F, Div F, Neg F, LT F where
  ofInt : Int → F
  llround : F → Int
  /-- conversion to an integer type, toward zero -/
  truncate : F → Int
  decidableLt : DecidableLT F

attribute [reducible, instance] Double.decidableLt

/-- Integers of magnitude at most 2^53 are exact in `double` arithmetic. -/
class ExactIntegers (F : Type) [Double F] : Prop where
  mul_exact (a b : Int) : |a| ≤ 2 ^ 53 → |b| ≤ 2 ^ 53 → |a * b| ≤ 2 ^ 53 →
    Double.ofInt a * Double.ofInt b = (Double.ofInt (a * b) : F)
  lt_exact (a b : Int) : |a| ≤ 2 ^ 53 → |b| ≤ 2 ^ 53 →
    ((Double.ofInt a : F) < Double.ofInt b ↔ a < b)
  truncate_exact (a : Int) : |a| ≤ 2 ^ 53 → Double.truncate (Double.ofInt a : F) = a

instance : Double ℚ where
  ofInt n := n
  llround q := if 0 ≤ q then ⌊q + 1 / 2⌋ else ⌈q - 1 / 2⌉
  truncate q := if 0 ≤ q then ⌊q⌋ else ⌈q⌉
  decidableLt := inferInstance

@[simp] theorem ofInt_rat (n : Int) : (Double.ofInt n : ℚ) = n := rfl

instance : ExactIntegers ℚ where
  mul_exact a b _ _ _ := by simp
  lt_exact a b _ _ := by simp
  truncate_exact a _ := by
    change (if (0 : ℚ) ≤ (a : ℚ) then ⌊(a : ℚ)⌋ else ⌈(a : ℚ)⌉) = a
    simp

end NtsTimeServer.Model
