import NtsTimeServer.Lib.Rounding
import NtsTimeServer.Model.NtpServer
import NtsTimeServer.Model.PeerMonitor
import NtsTimeServer.Model.PtpCorrelation

namespace NtsTimeServer.Proof
open Model Lib

theorem ntpTimestampToNs_eq_roundDiv (timestamp : NtpTimestamp) :
    ntpTimestampToNs timestamp =
      timestamp.seconds * 1000000000 + roundDiv (timestamp.fraction * 1000000000) (2 ^ 32) := rfl

theorem fraction_fits {nanoseconds : Nat} (below : nanoseconds < 1000000000) :
    roundDiv (nanoseconds * 2 ^ 32) 1000000000 < 2 ^ 32 :=
  roundDiv_lt (by decide) (by omega)

theorem nsToNtpTimestamp_eq {ns : Nat} (fits : ns / 1000000000 < 2 ^ 32) :
    nsToNtpTimestamp ns =
      ⟨ns / 1000000000, roundDiv (ns % 1000000000 * 2 ^ 32) 1000000000⟩ := by
  have part := fraction_fits (Nat.mod_lt ns (show 0 < 1000000000 by decide))
  rw [nsToNtpTimestamp, u32_eq fits]
  congr 1
  exact u32_eq part

theorem timestampToFixed_nsToNtpTimestamp {ns : Nat} (fits : ns / 1000000000 < 2 ^ 32) :
    timestampToFixed (nsToNtpTimestamp ns) = roundDiv (ns * 2 ^ 32) 1000000000 := by
  rw [nsToNtpTimestamp_eq fits, timestampToFixed, ← roundDiv_split (by decide)]

theorem ntpTimestampToNs_nsToNtpTimestamp {ns : Nat} (fits : ns / 1000000000 < 2 ^ 32) :
    ntpTimestampToNs (nsToNtpTimestamp ns) = ns := by
  have back := roundDiv_roundDiv (show 0 < 1000000000 by decide)
    (show 1000000000 < 2 ^ 32 by decide) (ns % 1000000000)
  rw [nsToNtpTimestamp_eq fits, ntpTimestampToNs_eq_roundDiv, back]
  exact Nat.div_add_mod' ns 1000000000

theorem ntpTimestampToNs_error (timestamp : NtpTimestamp) :
    |(ntpTimestampToNs timestamp : ℚ) -
      (timestamp.seconds * 1000000000 + (timestamp.fraction * 1000000000 : ℚ) / 2 ^ 32)| ≤ 1 / 2 := by
  have error := roundDiv_error (show 0 < 2 ^ 32 by decide) (timestamp.fraction * 1000000000)
  rw [ntpTimestampToNs_eq_roundDiv]
  push_cast at error ⊢
  rwa [add_sub_add_left_eq_sub]

theorem ntpTimestampToNs_lt {timestamp : NtpTimestamp} (seconds : timestamp.seconds < 2 ^ 32)
    (fraction : timestamp.fraction < 2 ^ 32) : ntpTimestampToNs timestamp ≤ 2 ^ 32 * 1000000000 := by
  unfold ntpTimestampToNs
  omega

theorem ns_fraction_round_trip :
    (∀ ns, ns / 1000000000 < 2 ^ 32 →
      ntpTimestampToNs (nsToNtpTimestamp ns) = ns ∧ serverTimestampToNs (nsToNtpTimestamp ns) = ns) ∧
    (∀ nanoseconds < 1000000000,
      nanoseconds * 2 ^ 32 + 500000000 < 2 ^ 64 ∧
        (nanoseconds * 2 ^ 32 + 500000000) / 1000000000 < 2 ^ 32) ∧
    (∀ first second, first < second → second / 1000000000 < 2 ^ 32 →
      timestampToFixed (nsToNtpTimestamp first) < timestampToFixed (nsToNtpTimestamp second)) ∧
    ∀ timestamp : NtpTimestamp, timestamp.seconds < 2 ^ 32 → timestamp.fraction < 2 ^ 32 →
      timestamp.fraction * 1000000000 + 0x80000000 < 2 ^ 64 ∧ ntpTimestampToNs timestamp < 2 ^ 64 ∧
        |(ntpTimestampToNs timestamp : ℚ) - (timestamp.seconds * 1000000000 +
          (timestamp.fraction * 1000000000 : ℚ) / 2 ^ 32)| ≤ 1 / 2 := by
  refine ⟨fun ns fits => ?_, fun nanoseconds below => ?_, fun first second less fits => ?_,
    fun timestamp seconds fraction => ?_⟩
  · exact ⟨ntpTimestampToNs_nsToNtpTimestamp fits, ntpTimestampToNs_nsToNtpTimestamp fits⟩
  · exact ⟨by omega, fraction_fits below⟩
  · have firstFits : first / 1000000000 < 2 ^ 32 := (Nat.div_le_div_right less.le).trans_lt fits
    rw [timestampToFixed_nsToNtpTimestamp firstFits, timestampToFixed_nsToNtpTimestamp fits]
    exact roundDiv_strictMono (by decide) (by decide) less
  · have whole := ntpTimestampToNs_lt seconds fraction
    exact ⟨by omega, by omega, ntpTimestampToNs_error timestamp⟩

theorem lastNanosecond_round_trip :
    ntpTimestampToNs (nsToNtpTimestamp 4294967295999999999) = 4294967295999999999 :=
  (ns_fraction_round_trip.1 _ (by decide)).1

end NtsTimeServer.Proof
