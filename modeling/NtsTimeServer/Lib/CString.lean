import NtsTimeServer.Lib.Bytes

/-!
# Strings that end at the first zero byte
-/

namespace NtsTimeServer.Lib

def ascii (text : String) : Bytes := text.toList.map fun c => UInt8.ofNat c.toNat

/-- What a buffer means to a reader who stops at the first zero. -/
def cString (buffer : Bytes) : Bytes := buffer.takeWhile (· ≠ 0)

theorem cString_append_zero {text : Bytes} (noZero : 0 ∉ text) (rest : Bytes) :
    cString (text ++ 0 :: rest) = text := by
  have kept : ∀ byte ∈ text, decide (byte ≠ 0) = true := by
    intro byte member
    exact decide_eq_true fun zero => noZero (zero ▸ member)
  rw [cString, List.takeWhile_append_of_pos kept, List.takeWhile_cons_of_neg (by simp),
    List.append_nil]

end NtsTimeServer.Lib
