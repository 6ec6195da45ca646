import NtsTimeServer.Proof.PtpMapping

namespace NtsTimeServer.Proof
open Model Lib

structure ClockPair where
  utcNs : Nat
  ptpNs : Nat
  deriving DecidableEq

def sampledPair (readings : CorrelationReadings) : Option ClockPair :=
  match readings.utcBefore, readings.ptpTime, readings.utcAfter with
  | some utcBefore, some ptpTime, some utcAfter =>
      if ntpTimestampToNs utcAfter < ntpTimestampToNs utcBefore then none
      else some ⟨ntpTimestampToNs utcBefore +
        (ntpTimestampToNs utcAfter - ntpTimestampToNs utcBefore) / 2, ptpTimestampToNs ptpTime⟩
  | _, _, _ => none

def baselinePair : List CorrelationReadings → Option ClockPair
  | [] => none
  | readings :: earlier => (baselinePair earlier).or (sampledPair readings)

structure ReadingsFit (readings : CorrelationReadings) : Prop where
  utcBefore : ∀ time ∈ readings.utcBefore, time.seconds < 2 ^ 32 ∧ time.fraction < 2 ^ 32
  ptpTime : ∀ time ∈ readings.ptpTime, PtpTimeFits time
  utcAfter : ∀ time ∈ readings.utcAfter, time.seconds < 2 ^ 32 ∧ time.fraction < 2 ^ 32

def ClockPair.offsetNs (pair : ClockPair) : Int := pair.ptpNs - pair.utcNs

/-- How far the PTP clock has moved against UTC since the baseline. -/
def driftNs (baseline pair : ClockPair) : Int := pair.offsetNs - baseline.offsetNs

def elapsedNs (baseline pair : ClockPair) : Int := pair.utcNs - baseline.utcNs

structure RateExact (baseline pair : ClockPair) (ratePpb : Int) : Prop where
  quotient : ratePpb = (driftNs baseline pair * 1000000000).tdiv (elapsedNs baseline pair)
  product : elapsedNs baseline pair ≠ 0 →
    -2 ^ 63 ≤ driftNs baseline pair * 1000000000 ∧ driftNs baseline pair * 1000000000 < 2 ^ 63

/-! ## Words that suffice -/

structure PairFits (pair : ClockPair) : Prop where
  utc : pair.utcNs ≤ 2 ^ 32 * 1000000000
  ptp : pair.ptpNs ≤ 4294967299294967295

theorem sampledPair_some {readings : CorrelationReadings} {pair : ClockPair}
    (sampled : sampledPair readings = some pair) : ∃ before ptp after,
      readings.utcBefore = some before ∧ readings.ptpTime = some ptp ∧ readings.utcAfter = some after ∧
        ¬ntpTimestampToNs after < ntpTimestampToNs before ∧
        pair = ⟨ntpTimestampToNs before + (ntpTimestampToNs after - ntpTimestampToNs before) / 2,
          ptpTimestampToNs ptp⟩ := by
  obtain ⟨utcBefore, ptpTime, utcAfter, nowUs⟩ := readings
  cases utcBefore with
  | none => cases sampled
  | some before =>
    cases ptpTime with
    | none => cases sampled
    | some ptp =>
      cases utcAfter with
      | none => cases sampled
      | some after =>
        simp only [sampledPair] at sampled
        split at sampled
        · cases sampled
        next forwards => exact ⟨before, ptp, after, rfl, rfl, rfl, forwards, (Option.some.inj sampled).symm⟩

theorem sampledPair_fits {readings : CorrelationReadings} (fits : ReadingsFit readings)
    {pair : ClockPair} (sampled : sampledPair readings = some pair) : PairFits pair := by
  obtain ⟨before, ptp, after, readBefore, readPtp, readAfter, -, rfl⟩ := sampledPair_some sampled
  have beforeFits := fits.utcBefore before readBefore
  have afterFits := fits.utcAfter after readAfter
  obtain ⟨seconds, nanoseconds⟩ := fits.ptpTime ptp readPtp
  have first := ntpTimestampToNs_lt beforeFits.1 beforeFits.2
  have last := ntpTimestampToNs_lt afterFits.1 afterFits.2
  refine ⟨by dsimp only; omega, ?_⟩
  dsimp only [ptpTimestampToNs]
  omega

theorem offsetNs_eq {pair : ClockPair} (fits : PairFits pair) :
    i64 (i64 pair.ptpNs - i64 pair.utcNs) = pair.offsetNs := by
  have utc := fits.utc
  have ptp := fits.ptp
  rw [i64_eq (n := pair.ptpNs) (by omega) (by omega), i64_eq (n := pair.utcNs) (by omega) (by omega)]
  exact i64_eq (by omega) (by omega)

theorem driftNs_eq {baseline pair : ClockPair} (first : PairFits baseline) (fits : PairFits pair) :
    i64 (pair.offsetNs - baseline.offsetNs) = driftNs baseline pair := by
  have utc := fits.utc
  have ptp := fits.ptp
  have utcFirst := first.utc
  have ptpFirst := first.ptp
  simp only [driftNs, ClockPair.offsetNs]
  exact i64_eq (by omega) (by omega)

theorem elapsedNs_eq {baseline pair : ClockPair} (first : PairFits baseline) (fits : PairFits pair) :
    i64 (sub64 pair.utcNs baseline.utcNs) = elapsedNs baseline pair ∧
      (0 < sub64 pair.utcNs baseline.utcNs ↔ elapsedNs baseline pair ≠ 0) := by
  have utc := fits.utc
  have utcFirst := first.utc
  simp only [i64, sub64, u64, elapsedNs]
  omega

theorem tdiv_fits {dividend divisor : Int} (low : -2 ^ 63 < dividend) (high : dividend < 2 ^ 63) :
    i64 (dividend.tdiv divisor) = dividend.tdiv divisor := by
  have magnitude := Int.natAbs_tdiv_le_natAbs dividend divisor
  exact i64_eq (by omega) (by omega)

theorem estimatedRatePpb_eq {baseline pair : ClockPair} (first : PairFits baseline) (fits : PairFits pair)
    (near : |driftNs baseline pair| ≤ 9223372036) :
    estimatedRatePpb (driftNs baseline pair) (sub64 pair.utcNs baseline.utcNs) =
      (driftNs baseline pair * 1000000000).tdiv (elapsedNs baseline pair) := by
  obtain ⟨elapsed, positive⟩ := elapsedNs_eq first fits
  obtain ⟨low, high⟩ := abs_le.mp near
  have product : i64 (driftNs baseline pair * 1000000000) = driftNs baseline pair * 1000000000 :=
    i64_eq (by omega) (by omega)
  rw [estimatedRatePpb, elapsed, product]
  split
  · exact tdiv_fits (by omega) (by omega)
  next stopped =>
    have none := not_not.mp (mt positive.mpr stopped)
    rw [none, Int.tdiv_zero]

theorem estimatedRatePpb_stopped {baseline pair : ClockPair} (first : PairFits baseline)
    (fits : PairFits pair) (stopped : elapsedNs baseline pair = 0) (changeNs : Int) :
    estimatedRatePpb changeNs (sub64 pair.utcNs baseline.utcNs) = 0 :=
  if_neg fun positive => (elapsedNs_eq first fits).2.mp positive stopped

theorem ethPtpCorrelationSample_untaken {readings : CorrelationReadings}
    (untaken : sampledPair readings = none) (correlation : PtpCorrelation) :
    ethPtpCorrelationSample correlation readings = correlation := by
  obtain ⟨utcBefore, ptpTime, utcAfter, nowUs⟩ := readings
  cases utcBefore with
  | none => rfl
  | some before =>
    cases ptpTime with
    | none => rfl
    | some ptp =>
      cases utcAfter with
      | none => rfl
      | some after =>
        simp only [sampledPair] at untaken
        split at untaken
        next backwards =>
          simp only [ethPtpCorrelationSample]
          rw [if_pos backwards]
        · cases untaken

theorem ethPtpCorrelationSample_taken {readings : CorrelationReadings} {pair : ClockPair}
    (fits : ReadingsFit readings) (sampled : sampledPair readings = some pair)
    (correlation : PtpCorrelation) :
    (correlation.baselineValid = false →
      (ethPtpCorrelationSample correlation readings).baselineValid = true ∧
        (ethPtpCorrelationSample correlation readings).baselineOffsetNs = pair.offsetNs ∧
        (ethPtpCorrelationSample correlation readings).baselineUtcNs = pair.utcNs) ∧
    (correlation.baselineValid = true →
      (ethPtpCorrelationSample correlation readings).baselineValid = true ∧
        (ethPtpCorrelationSample correlation readings).baselineOffsetNs = correlation.baselineOffsetNs ∧
        (ethPtpCorrelationSample correlation readings).baselineUtcNs = correlation.baselineUtcNs ∧
        (ethPtpCorrelationSample correlation readings).utcEstimatedRatePpb =
          estimatedRatePpb (i64 (pair.offsetNs - correlation.baselineOffsetNs))
            (sub64 pair.utcNs correlation.baselineUtcNs)) := by
  have offset := offsetNs_eq (sampledPair_fits fits sampled)
  obtain ⟨before, ptp, after, readBefore, readPtp, readAfter, forwards, rfl⟩ := sampledPair_some sampled
  simp only at offset
  constructor
  · intro unset
    simp only [ethPtpCorrelationSample, readBefore, readPtp, readAfter, forwards, unset, offset, if_false,
      if_true, Bool.false_eq_true, not_false_eq_true, and_self]
  · intro set
    simp only [ethPtpCorrelationSample, readBefore, readPtp, readAfter, forwards, set, offset, if_false,
      not_true_eq_false, and_self]

structure BaselineKept (past : List CorrelationReadings) : Prop where
  unset : baselinePair past = none → (ptpCorrelationAfter past).baselineValid = false
  set : ∀ baseline, baselinePair past = some baseline → PairFits baseline ∧
    (ptpCorrelationAfter past).baselineValid = true ∧
    (ptpCorrelationAfter past).baselineOffsetNs = baseline.offsetNs ∧
    (ptpCorrelationAfter past).baselineUtcNs = baseline.utcNs

theorem baseline_kept {past : List CorrelationReadings} (fit : ∀ readings ∈ past, ReadingsFit readings) :
    BaselineKept past := by
  induction past with
  | nil => exact ⟨fun _ => rfl, fun _ found => by cases found⟩
  | cons readings earlier ih =>
      obtain ⟨fits, fit'⟩ := List.forall_mem_cons.mp fit
      have kept := ih fit'
      cases sampled : sampledPair readings with
      | none =>
          have same : ptpCorrelationAfter (readings :: earlier) = ptpCorrelationAfter earlier :=
            ethPtpCorrelationSample_untaken sampled _
          have baseline : baselinePair (readings :: earlier) = baselinePair earlier := by
            rw [baselinePair, sampled, Option.or_none]
          constructor
          · rw [same, baseline]
            exact kept.unset
          · rw [same, baseline]
            exact kept.set
      | some pair =>
          obtain ⟨first, later⟩ := ethPtpCorrelationSample_taken fits sampled (ptpCorrelationAfter earlier)
          cases before : baselinePair earlier with
          | none =>
              have baseline : baselinePair (readings :: earlier) = some pair := by
                rw [baselinePair, before, sampled, Option.none_or]
              refine ⟨fun unset => absurd (baseline.symm.trans unset) (Option.some_ne_none _), fun other found => ?_⟩
              rw [baseline] at found
              obtain rfl := Option.some.inj found
              exact ⟨sampledPair_fits fits sampled, first (kept.unset before)⟩
          | some baseline =>
              have same : baselinePair (readings :: earlier) = some baseline := by
                rw [baselinePair, before, Option.some_or]
              refine ⟨fun unset => absurd (same.symm.trans unset) (Option.some_ne_none _), fun other found => ?_⟩
              rw [same] at found
              obtain rfl := Option.some.inj found
              obtain ⟨baselineFits, valid, offset, utc⟩ := kept.set baseline before
              obtain ⟨valid', offset', utc', -⟩ := later valid
              exact ⟨baselineFits, valid', offset'.trans offset, utc'.trans utc⟩

theorem rate_exact_iff {past : List CorrelationReadings} {readings : CorrelationReadings}
    (fit : ∀ earlier ∈ past, ReadingsFit earlier) (fits : ReadingsFit readings)
    {baseline pair : ClockPair} (set : baselinePair past = some baseline)
    (sampled : sampledPair readings = some pair) :
    RateExact baseline pair (ptpCorrelationAfter (readings :: past)).utcEstimatedRatePpb ↔
      elapsedNs baseline pair = 0 ∨ |driftNs baseline pair| ≤ 9223372036 := by
  have pairFits := sampledPair_fits fits sampled
  obtain ⟨baselineFits, valid, offset, utc⟩ := (baseline_kept fit).set baseline set
  obtain ⟨-, -, -, rate⟩ := (ethPtpCorrelationSample_taken fits sampled _).2 valid
  rw [offset, utc, driftNs_eq baselineFits pairFits] at rate
  rw [ptpCorrelationAfter, rate]
  constructor
  · intro exact_
    refine or_iff_not_imp_left.mpr fun moving => abs_le.mpr ?_
    have product := exact_.product moving
    omega
  · rintro (stopped | near)
    · rw [estimatedRatePpb_stopped baselineFits pairFits stopped]
      refine ⟨?_, fun moving => absurd stopped moving⟩
      rw [stopped, Int.tdiv_zero]
    · obtain ⟨low, high⟩ := abs_le.mp near
      exact ⟨estimatedRatePpb_eq baselineFits pairFits near, fun _ => ⟨by omega, by omega⟩⟩

def readTogether (utcSeconds : Nat) (ptpTime : EthMacTime) (nowUs : Int) : CorrelationReadings :=
  ⟨some ⟨utcSeconds, 0⟩, some ptpTime, some ⟨utcSeconds, 0⟩, nowUs⟩

theorem readTogether_fits {utcSeconds : Nat} {ptpTime : EthMacTime} (nowUs : Int)
    (utc : utcSeconds < 2 ^ 32) (ptp : PtpTimeFits ptpTime) :
    ReadingsFit (readTogether utcSeconds ptpTime nowUs) := by
  constructor
  · rintro _ ⟨⟩
    exact ⟨utc, Nat.two_pow_pos 32⟩
  · rintro _ ⟨⟩
    exact ptp
  · rintro _ ⟨⟩
    exact ⟨utc, Nat.two_pow_pos 32⟩

theorem rate_exact_for_half_a_day :
    RateExact ⟨3900000000000000000, 1000000000000⟩ ⟨3900046116000000000, 47125223200000⟩
      (ptpCorrelationAfter [readTogether 3900046116 ⟨47125, 223200000⟩ 46126000000,
        readTogether 3900000000 ⟨1000, 0⟩ 10000000]).utcEstimatedRatePpb :=
  (rate_exact_iff
    (List.forall_mem_singleton.mpr (readTogether_fits 10000000 (by decide) ⟨by decide, by decide⟩))
    (readTogether_fits 46126000000 (by decide) ⟨by decide, by decide⟩) (by decide) (by decide)).mpr
    (Or.inr (by decide))

theorem rate_turns_after_half_a_day :
    (ptpCorrelationAfter [readTogether 3900046117 ⟨47126, 223400000⟩ 46127000000,
      readTogether 3900000000 ⟨1000, 0⟩ 10000000]).utcEstimatedRatePpb = -199998 ∧
    ¬∀ (past : List CorrelationReadings) (readings : CorrelationReadings) (baseline pair : ClockPair)
      (ratePpm : Int), (∀ earlier ∈ past, ReadingsFit earlier) → ReadingsFit readings →
      baselinePair past = some baseline → sampledPair readings = some pair →
      |ratePpm| ≤ 200 → driftNs baseline pair * 1000000 = ratePpm * elapsedNs baseline pair →
      RateExact baseline pair (ptpCorrelationAfter (readings :: past)).utcEstimatedRatePpb := by
  refine ⟨by decide, fun claim => ?_⟩
  have exact_ := claim [readTogether 3900000000 ⟨1000, 0⟩ 10000000]
    (readTogether 3900046117 ⟨47126, 223400000⟩ 46127000000)
    ⟨3900000000000000000, 1000000000000⟩ ⟨3900046117000000000, 47126223400000⟩ 200
    (List.forall_mem_singleton.mpr (readTogether_fits 10000000 (by decide) ⟨by decide, by decide⟩))
    (readTogether_fits 46127000000 (by decide) ⟨by decide, by decide⟩) (by decide) (by decide)
    (by decide) (by decide)
  exact absurd exact_.quotient (by decide)

end NtsTimeServer.Proof
