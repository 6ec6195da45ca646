import NtsTimeServer.Proof.NsConversion

namespace NtsTimeServer.Proof
open Model Lib

/-- No word overflows on the way to `utc_age_ns`, which is the quotient to the nearest, halves up. -/
structure AgeConverted (ptpAgeNs : Nat) (ratePpb : Int) : Prop where
  denominator : 1000000000 + ratePpb < 2 ^ 63
  whole : ptpAgeNs / (1000000000 + ratePpb).toNat * 1000000000 < 2 ^ 64
  part : ptpAgeNs % (1000000000 + ratePpb).toNat * 1000000000 +
    (1000000000 + ratePpb).toNat / 2 < 2 ^ 64
  sum : ptpAgeNs / (1000000000 + ratePpb).toNat * 1000000000 +
    (ptpAgeNs % (1000000000 + ratePpb).toNat * 1000000000 + (1000000000 + ratePpb).toNat / 2) /
      (1000000000 + ratePpb).toNat < 2 ^ 64
  rounded : (utcAgeNs ptpAgeNs (1000000000 + ratePpb).toNat : ℤ) =
    ⌊(ptpAgeNs * 1000000000 : ℚ) / (1000000000 + ratePpb) + 1 / 2⌋

structure PtpTimeFits (time : EthMacTime) : Prop where
  seconds : time.seconds < 2 ^ 32
  nanoseconds : time.nanoseconds < 2 ^ 32

section

variable {denominator ptpAgeNs : Nat}

theorem utcAgeNs_eq (positive : 0 < denominator)
    (part : ptpAgeNs % denominator * 1000000000 + denominator / 2 < 2 ^ 64)
    (sum : roundDiv (ptpAgeNs * 1000000000) denominator < 2 ^ 64) :
    utcAgeNs ptpAgeNs denominator = roundDiv (ptpAgeNs * 1000000000) denominator := by
  rw [roundDiv_split positive] at sum ⊢
  have whole : ptpAgeNs / denominator * 1000000000 < 2 ^ 64 := (Nat.le_add_right _ _).trans_lt sum
  have scaled : ptpAgeNs % denominator * 1000000000 < 2 ^ 64 := (Nat.le_add_right _ _).trans_lt part
  rw [utcAgeNs, u64_eq whole, u64_eq scaled, u64_eq part]
  exact u64_eq sum

theorem age_fits (low : 232830644 ≤ denominator) (high : denominator ≤ 18446744065)
    (age : ptpAgeNs ≤ 4294967299294967295) :
    ptpAgeNs % denominator * 1000000000 + denominator / 2 < 2 ^ 64 ∧
      roundDiv (ptpAgeNs * 1000000000) denominator < 2 ^ 64 := by
  have positive : 0 < denominator := by omega
  have remainder := Nat.mod_lt ptpAgeNs positive
  refine ⟨by omega, roundDiv_lt positive ?_⟩
  have bound : 2 ^ 64 * 232830644 ≤ 2 ^ 64 * denominator := Nat.mul_le_mul_left _ low
  omega

theorem age_overflows_below (positive : 0 < denominator) (low : denominator < 232830644) :
    2 ^ 64 ≤ roundDiv (4294967295999999999 * 1000000000) denominator := by
  refine (Nat.le_div_iff_mul_le positive).mpr ?_
  have bound : 2 ^ 64 * denominator ≤ 2 ^ 64 * 232830643 := Nat.mul_le_mul_left _ (by omega)
  omega

theorem age_overflows_above (high : 18446744065 < denominator) :
    2 ^ 64 ≤ min (denominator - 1) 4294967295999999999 % denominator * 1000000000 + denominator / 2 := by
  rw [Nat.mod_eq_of_lt (by omega)]
  omega

end

theorem ageConverted_of_fits {ptpAgeNs : Nat} {ratePpb : Int} (guard : 0 < 1000000000 + ratePpb)
    (denominator : 1000000000 + ratePpb < 2 ^ 63)
    (part : ptpAgeNs % (1000000000 + ratePpb).toNat * 1000000000 +
      (1000000000 + ratePpb).toNat / 2 < 2 ^ 64)
    (sum : roundDiv (ptpAgeNs * 1000000000) (1000000000 + ratePpb).toNat < 2 ^ 64) :
    AgeConverted ptpAgeNs ratePpb := by
  have positive : 0 < (1000000000 + ratePpb).toNat := by omega
  have split := sum
  rw [roundDiv_split positive] at split
  refine ⟨denominator, (Nat.le_add_right _ _).trans_lt split, part, split, ?_⟩
  have cast : ((1000000000 + ratePpb).toNat : ℚ) = 1000000000 + ratePpb := by
    have toInt : ((1000000000 + ratePpb).toNat : ℤ) = 1000000000 + ratePpb := by omega
    exact_mod_cast congrArg (Int.cast (R := ℚ)) toInt
  rw [utcAgeNs_eq positive part sum, roundDiv_eq_floor positive, cast]
  push_cast
  rfl

theorem AgeConverted.sum_lt {ptpAgeNs : Nat} {ratePpb : Int} (converted : AgeConverted ptpAgeNs ratePpb)
    (guard : 0 < 1000000000 + ratePpb) :
    roundDiv (ptpAgeNs * 1000000000) (1000000000 + ratePpb).toNat < 2 ^ 64 := by
  rw [roundDiv_split (by omega)]
  exact converted.sum

/-! ## The two copies -/

/-- The receive copy is the other one with a check of the seconds and the conversion to a fraction. -/
theorem mapRxTimestamp_eq (ptp : EthMacTime) (readings : MapReadings) :
    mapRxTimestamp ptp readings = (ethMapPtpEventToUtcNs ptp readings).bind fun event =>
      if event.utcNs / 1000000000 > 2 ^ 32 - 1 then none
      else some ⟨event.utcNs / 1000000000,
        u32 ((event.utcNs % 1000000000 * 2 ^ 32 + 500000000) / 1000000000), event.bracketNs,
        event.ageUs⟩ := by
  unfold mapRxTimestamp ethMapPtpEventToUtcNs utcAgeNs
  cases readBefore : readings.utcBefore with
  | none => rfl
  | some before =>
    cases readPtp : readings.ptpNow with
    | none => rfl
    | some ptpNow =>
      cases readAfter : readings.utcAfter with
      | none => rfl
      | some after =>
        dsimp only
        split
        · rfl
        split
        · rfl
        split
        · rfl
        split
        · rfl
        · rw [Option.bind_some]

structure CopiesAgree (ptp : EthMacTime) (readings : MapReadings) : Prop where
  refuses : mapRxTimestamp ptp readings = none ↔
    ∀ event, ethMapPtpEventToUtcNs ptp readings = some event → 2 ^ 32 ≤ event.utcNs / 1000000000
  same : ∀ event timestamp, ethMapPtpEventToUtcNs ptp readings = some event →
    mapRxTimestamp ptp readings = some timestamp →
    ntpTimestampToNs ⟨timestamp.seconds, timestamp.fraction⟩ = event.utcNs ∧
      timestamp.mappingBracketNs = event.bracketNs ∧ timestamp.mappingAgeUs = event.ageUs

theorem copies_agree (ptp : EthMacTime) (readings : MapReadings) : CopiesAgree ptp readings := by
  have copied := mapRxTimestamp_eq ptp readings
  cases mapped : ethMapPtpEventToUtcNs ptp readings with
  | none =>
      rw [mapped, Option.bind_none] at copied
      refine ⟨⟨fun _ event found => ?_, fun _ => copied⟩, fun event _ found => ?_⟩ <;>
        rw [mapped] at found <;> cases found
  | some event =>
      rw [mapped, Option.bind_some] at copied
      by_cases late : event.utcNs / 1000000000 > 2 ^ 32 - 1
      · rw [if_pos late] at copied
        refine ⟨⟨fun _ other found => ?_, fun _ => copied⟩, fun _ timestamp _ taken => ?_⟩
        · rw [mapped] at found
          obtain rfl := Option.some.inj found
          omega
        · rw [copied] at taken
          cases taken
      · have fits : event.utcNs / 1000000000 < 2 ^ 32 := by omega
        rw [if_neg late] at copied
        refine ⟨⟨fun missed => ?_, fun overdue => ?_⟩, fun other timestamp found taken => ?_⟩
        · rw [copied] at missed
          cases missed
        · exact absurd (overdue event mapped) (by omega)
        · rw [mapped] at found
          rw [copied] at taken
          obtain rfl := Option.some.inj found
          obtain rfl := Option.some.inj taken
          have back := ntpTimestampToNs_nsToNtpTimestamp fits
          rw [nsToNtpTimestamp, u32_eq fits] at back
          exact ⟨back, rfl, rfl⟩

/-! ## Rates -/

theorem age_conversion_iff {ratePpb : Int} (guard : 0 < 1000000000 + ratePpb) :
    ((∀ event now, PtpTimeFits event → PtpTimeFits now →
        ptpTimestampToNs event ≤ ptpTimestampToNs now →
        AgeConverted (ptpTimestampToNs now - ptpTimestampToNs event) ratePpb) ∧
      ∀ ptp readings, CopiesAgree ptp readings) ↔
    -767169356 ≤ ratePpb ∧ ratePpb ≤ 17446744065 := by
  refine ⟨fun ⟨converted, _⟩ => ?_, fun ⟨low, high⟩ => ⟨fun event now _ fits _ => ?_, copies_agree⟩⟩
  · have age {ageNs : Nat} (short : ageNs ≤ 4294967295999999999) : AgeConverted ageNs ratePpb := by
      have whole := Nat.div_add_mod' ageNs 1000000000
      have aged := converted ⟨0, 0⟩ ⟨ageNs / 1000000000, ageNs % 1000000000⟩ ⟨by decide, by decide⟩
        ⟨by dsimp only; omega, by dsimp only; omega⟩ (Nat.zero_le _)
      rwa [show ptpTimestampToNs ⟨ageNs / 1000000000, ageNs % 1000000000⟩ - ptpTimestampToNs ⟨0, 0⟩ =
        ageNs from whole] at aged
    constructor
    · by_contra below
      have overflow := @age_overflows_below (1000000000 + ratePpb).toNat (by omega) (by omega)
      exact absurd ((age le_rfl).sum_lt guard) (by omega)
    · by_contra above
      have overflow := @age_overflows_above (1000000000 + ratePpb).toNat (by omega)
      have part := (age (Nat.min_le_right ((1000000000 + ratePpb).toNat - 1) 4294967295999999999)).part
      exact absurd overflow (by omega)
  · have ageLimit : ptpTimestampToNs now - ptpTimestampToNs event ≤ 4294967299294967295 := by
      have seconds := fits.seconds
      have nanoseconds := fits.nanoseconds
      unfold ptpTimestampToNs
      omega
    obtain ⟨part, sum⟩ := @age_fits (1000000000 + ratePpb).toNat _ (by omega) (by omega)
      ageLimit
    exact ageConverted_of_fits guard (by omega) part sum

theorem steepest_rate_converts :
    AgeConverted (ptpTimestampToNs ⟨4294967295, 999999999⟩ - ptpTimestampToNs ⟨0, 0⟩) (-767169356) :=
  ((age_conversion_iff (by decide)).mpr ⟨by decide, by decide⟩).1 ⟨0, 0⟩ ⟨4294967295, 999999999⟩
    ⟨by decide, by decide⟩ ⟨by decide, by decide⟩ (by decide)

/-- 9.2 s that the PTP clock gains in half a second of UTC, and an event 19 s ago. -/
theorem product_of_old_event_wraps :
    utcAgeNs 19000000000 (1000000000 + 18400000000) = 28518347 ∧
    roundDiv (19000000000 * 1000000000) (1000000000 + 18400000000) = 979381443 ∧
    ¬∀ ratePpb : Int, 0 < 1000000000 + ratePpb →
      (∀ event now, PtpTimeFits event → PtpTimeFits now →
        ptpTimestampToNs event ≤ ptpTimestampToNs now →
        AgeConverted (ptpTimestampToNs now - ptpTimestampToNs event) ratePpb) ∧
      ∀ ptp readings, CopiesAgree ptp readings := by
  refine ⟨by decide, by decide, fun claim => ?_⟩
  have converted := (claim 18400000000 (by decide)).1 ⟨100, 0⟩ ⟨119, 0⟩ ⟨by decide, by decide⟩
    ⟨by decide, by decide⟩ (by decide)
  exact absurd converted.part (by decide)

end NtsTimeServer.Proof
