import NtsTimeServer.Model.RxQueue

/-!
# The PTP clock and UTC

The functions of `eth_service.c` that relate the counter of the Ethernet MAC to disciplined UTC: the
correlation samples, and the mapping of a transmit event. Sums, differences and products of signed
words wrap.
-/

namespace NtsTimeServer.Model

/-- The seconds and the fraction that `eth_service_take_ntp_rx_timestamp` makes of nanoseconds. -/
def nsToNtpTimestamp (ns : Nat) : NtpTimestamp where
  seconds := u32 (ns / 1000000000)
  fraction := u32 ((ns % 1000000000 * 2 ^ 32 + 500000000) / 1000000000)

def utcAgeNs (ptpAgeNs denominator : Nat) : Nat :=
  let ageQuotient := ptpAgeNs / denominator
  let ageRemainder := ptpAgeNs % denominator
  u64 (u64 (ageQuotient * 1000000000) +
    u64 (u64 (ageRemainder * 1000000000) + denominator / 2) / denominator)

/-! ## `eth_map_ptp_event_to_utc_ns` -/

structure MappedEvent where
  utcNs : Nat
  bracketNs : Nat
  ageUs : Nat
  deriving DecidableEq, Repr

def ethMapPtpEventToUtcNs (eventPtp : EthMacTime) (readings : MapReadings) : Option MappedEvent :=
  match readings.utcBefore, readings.ptpNow, readings.utcAfter with
  | some utcBefore, some ptpNow, some utcAfter =>
      let utcBeforeNs := ntpTimestampToNs utcBefore
      let utcAfterNs := ntpTimestampToNs utcAfter
      let ptpNowNs := ptpTimestampToNs ptpNow
      let eventPtpNs := ptpTimestampToNs eventPtp
      if utcAfterNs < utcBeforeNs ∨ ptpNowNs < eventPtpNs then none
      else
        let bracketNs := utcAfterNs - utcBeforeNs
        let utcMidNs := utcBeforeNs + bracketNs / 2
        let ptpAgeNs := ptpNowNs - eventPtpNs
        if ¬readings.correlationValid ∨ readings.correlationSamples < 2 ∨
            readings.correlationLastUs ≤ 0 ∨ readings.nowUs < readings.correlationLastUs ∨
            readings.nowUs - readings.correlationLastUs > ethPtpCorrelationMaxAgeUs ∨
            bracketNs > ethPtpLocalMapMaxBracketNs then none
        else
          let denominator := 1000000000 + readings.ratePpb
          if denominator ≤ 0 then none
          else
            let utcAge := utcAgeNs ptpAgeNs denominator.toNat
            if utcAge > utcMidNs then none
            else some {
              utcNs := utcMidNs - utcAge
              bracketNs := min bracketNs (2 ^ 32 - 1)
              ageUs := min (ptpAgeNs / 1000) (2 ^ 32 - 1) }
  | _, _, _ => none

/-! ## `eth_ptp_correlation_sample` -/

structure PtpCorrelation where
  baselineValid : Bool
  baselineOffsetNs : Int
  baselineUtcNs : Nat
  valid : Bool
  samples : Nat
  utcOffsetNs : Int
  utcOffsetChangeNs : Int
  utcEstimatedRatePpb : Int
  utcBracketNs : Nat
  lastMonotonicUs : Int
  deriving DecidableEq, Repr

def ptpCorrelationInit : PtpCorrelation := ⟨false, 0, 0, false, 0, 0, 0, 0, 0, 0⟩

/-- The readings of a sample; `none` where a clock cannot be read. -/
structure CorrelationReadings where
  utcBefore : Option NtpTimestamp
  ptpTime : Option EthMacTime
  utcAfter : Option NtpTimestamp
  nowUs : Int
  deriving DecidableEq

def estimatedRatePpb (offsetChangeNs : Int) (elapsedNs : Nat) : Int :=
  if elapsedNs > 0 then i64 ((i64 (offsetChangeNs * 1000000000)).tdiv (i64 elapsedNs)) else 0

def ethPtpCorrelationSample (correlation : PtpCorrelation) (readings : CorrelationReadings) :
    PtpCorrelation :=
  match readings.utcBefore, readings.ptpTime, readings.utcAfter with
  | some utcBefore, some ptpTime, some utcAfter =>
      let utcBeforeNs := ntpTimestampToNs utcBefore
      let utcAfterNs := ntpTimestampToNs utcAfter
      if utcAfterNs < utcBeforeNs then correlation
      else
        let bracketNs := utcAfterNs - utcBeforeNs
        let utcMidNs := utcBeforeNs + bracketNs / 2
        let ptpNs := ptpTimestampToNs ptpTime
        let offsetNs := i64 (i64 ptpNs - i64 utcMidNs)
        let published := { correlation with
          valid := true
          samples := u32 (correlation.samples + 1)
          utcOffsetNs := offsetNs
          utcBracketNs := min bracketNs (2 ^ 32 - 1)
          lastMonotonicUs := readings.nowUs }
        if ¬correlation.baselineValid then
          { published with
            baselineValid := true
            baselineOffsetNs := offsetNs
            baselineUtcNs := utcMidNs
            utcOffsetChangeNs := 0
            utcEstimatedRatePpb := 0 }
        else
          let offsetChangeNs := i64 (offsetNs - correlation.baselineOffsetNs)
          let elapsedNs := sub64 utcMidNs correlation.baselineUtcNs
          { published with
            utcOffsetChangeNs := offsetChangeNs
            utcEstimatedRatePpb := estimatedRatePpb offsetChangeNs elapsedNs }
  | _, _, _ => correlation

def ptpCorrelationAfter : List CorrelationReadings → PtpCorrelation
  | [] => ptpCorrelationInit
  | readings :: earlier => ethPtpCorrelationSample (ptpCorrelationAfter earlier) readings

end NtsTimeServer.Model
