import NtsTimeServer.Lib.Samples
import NtsTimeServer.Proof.PeerArithmetic
import NtsTimeServer.Proof.SquareRoot

namespace NtsTimeServer.Proof
open Model Lib

def saturated (sum : Nat) : Nat := min sum (2 ^ 64 - 1)

/-- No signed sum on the way to the mean of the values leaves 64 bits. -/
structure SumFits (values : List Int) : Prop where
  running : ∀ read, read <+: values → InSigned 64 read.sum
  rounded : InSigned 64 (|values.sum| + values.length / 2)

/-- A sample that `process_response` can hand to `update_success`. -/
def AcceptedSample (sample : Int × Int) : Prop :=
  ∃ monitor index t1 t4 response,
    ntpPeerPacketSize ≤ response.length ∧ response.length ≤ 256 ∧ byteAt response 1 ≠ 0 ∧
      ¬Refused monitor index t1 response ∧ 0 ≤ sample.2 ∧
      sample.1 = measuredOffsetNs (timestampToFixed t1) (readBe64 response 32) (readBe64 response 40)
        (timestampToFixed t4) ∧
      sample.2 = measuredDelayNs (timestampToFixed t1) (readBe64 response 32) (readBe64 response 40)
        (timestampToFixed t4)

structure HoldsWindow (runtime : PeerRuntime) (samples : List (Int × Int)) : Prop where
  count_eq : runtime.count = samples.length
  offsets : runtime.offset.take runtime.count = samples.map Prod.fst
  delays : runtime.delay.take runtime.count = samples.map Prod.snd

structure ExactStats (samples : List (Int × Int)) (status : PeerStatus) : Prop where
  rollingSamples : status.rollingSamples = samples.length
  meanOffset : status.meanOffsetNs = roundAway ((samples.map Prod.fst).sum / samples.length)
  meanDelay : status.meanDelayNs = roundAway ((samples.map Prod.snd).sum / samples.length)
  rmsOffset : status.rmsOffsetNs =
    Nat.sqrt (saturated (sumSquares (samples.map Prod.fst)) / samples.length)
  jitter : status.jitterNs =
    Nat.sqrt (saturated (sumSquares (differences (samples.map Prod.fst))) / (samples.length - 1))
  minOffset : IsLeast { offset | offset ∈ samples.map Prod.fst } status.minOffsetNs
  maxOffset : IsGreatest { offset | offset ∈ samples.map Prod.fst } status.maxOffsetNs
  minDelay : IsLeast { delay | delay ∈ samples.map Prod.snd } status.minDelayNs
  between : status.minOffsetNs ≤ status.meanOffsetNs ∧ status.meanOffsetNs ≤ status.maxOffsetNs
  /-- Where the squares have not been cut off. -/
  bounded : sumSquares (samples.map Prod.fst) < 2 ^ 64 →
    |status.meanOffsetNs| ≤ status.rmsOffsetNs + 1

theorem absI64_eq {value : Int} (low : -2 ^ 63 < value) : (absI64 value).toNat = value.natAbs := by
  rw [absI64, if_neg (by omega), ← Int.natCast_natAbs, Int.toNat_natCast]

theorem absI64Checked_eq {value : Int} (low : -2 ^ 63 < value) (high : value < 2 ^ 63) :
    absI64Checked value = some (absI64 value) := by
  have negated : InSigned 64 (-value) := by
    unfold InSigned
    omega
  have above : value ≠ -2 ^ 63 := by omega
  rw [absI64Checked, absI64, if_neg above, if_neg above]
  split
  · rename_i negative
    rw [signed_eq negated, abs_of_neg negative]
  · rename_i nonneg
    rw [abs_of_nonneg (not_lt.mp nonneg)]

theorem square_guard (magnitude : Nat) :
    (magnitude ≠ 0 ∧ magnitude > (2 ^ 64 - 1) / magnitude) ↔ 2 ^ 64 - 1 < magnitude * magnitude := by
  rcases Nat.eq_zero_or_pos magnitude with zero | positive
  · simp [zero]
  · rw [gt_iff_lt, Nat.div_lt_iff_lt_mul positive, and_iff_right positive.ne']

theorem addSquare_spec {sum : Nat} {value : Int} (low : -2 ^ 63 < value) (high : value < 2 ^ 63)
    (room : sum ≤ 2 ^ 64 - 1) :
    addSquare sum value = saturated (sum + value.natAbs ^ 2) ∧
      addSquareChecked sum value = some (addSquare sum value) := by
  rw [addSquare, addSquareChecked, absI64Checked_eq low high, saturated, sq]
  dsimp only [Option.bind_eq_bind, Option.bind_some]
  rw [absI64_eq low]
  simp only [square_guard]
  generalize value.natAbs * value.natAbs = square
  by_cases large : 2 ^ 64 - 1 < square
  · rw [if_pos large, if_pos large]
    constructor
    · split <;> omega
    · split
      · rfl
      · exact unsigned_eq (by omega)
  · rw [if_neg large, if_neg large, unsigned_eq (by omega)]
    dsimp only [Option.bind_some]
    constructor
    · split <;> omega
    · split
      · rfl
      · exact unsigned_eq (by omega)

theorem foldl_addSquare {values : List Int} (bounds : ∀ value ∈ values, -2 ^ 63 < value ∧ value < 2 ^ 63)
    {sum : Nat} (room : sum ≤ 2 ^ 64 - 1) :
    values.foldl addSquare sum = saturated (sum + sumSquares values) := by
  induction values generalizing sum with
  | nil => exact (min_eq_left room).symm
  | cons value rest ih =>
      obtain ⟨low, high⟩ := bounds value List.mem_cons_self
      rw [List.foldl_cons, ih (fun value member => bounds value (List.mem_cons_of_mem _ member))
        ((addSquare_spec low high room).1 ▸ min_le_right _ _), (addSquare_spec low high room).1]
      simp only [saturated, sumSquares, List.map_cons, List.sum_cons]
      omega

theorem foldlM_addSquareChecked {values : List Int}
    (bounds : ∀ value ∈ values, -2 ^ 63 < value ∧ value < 2 ^ 63) :
    values.foldlM addSquareChecked 0 = some (values.foldl addSquare 0) := by
  refine (foldlM_some (fun sum => sum ≤ 2 ^ 64 - 1) (Nat.zero_le _) fun sum value member room => ?_).1
  obtain ⟨low, high⟩ := bounds value member
  obtain ⟨added, checked⟩ := addSquare_spec low high room
  exact ⟨checked, added ▸ min_le_right _ _⟩

theorem half_eq {denominator : Int} (positive : 0 < denominator) :
    denominator.tdiv 2 = denominator / 2 := Int.tdiv_eq_ediv_of_nonneg positive.le

theorem divRoundI64_natCast (numerator denominator : Nat) :
    divRoundI64 numerator denominator = roundDiv numerator denominator := by
  rw [divRoundI64, roundDiv]
  rcases Nat.eq_zero_or_pos denominator with zero | positive
  · simp [zero]
  · rw [half_eq (by omega), if_neg (by omega), if_pos (by omega),
      Int.tdiv_eq_ediv_of_nonneg (by omega)]
    rfl

theorem divRoundI64_neg (numerator : Nat) (denominator : Int) :
    divRoundI64 (-numerator) denominator = -divRoundI64 numerator denominator := by
  rcases lt_or_ge 0 denominator with positive | nonpos
  · have divides : ¬denominator ≤ 0 := not_le.mpr positive
    rw [divRoundI64, divRoundI64, half_eq positive, if_neg divides, if_neg divides]
    rcases Nat.eq_zero_or_pos numerator with zero | some_numerator
    · have half : (denominator / 2).tdiv denominator = 0 :=
        Int.tdiv_eq_zero_of_lt (by omega) (by omega)
      simp [zero, half]
    · rw [if_neg (by omega), if_pos (by omega), neg_neg]
  · rw [divRoundI64, divRoundI64, if_pos nonpos, if_pos nonpos, neg_zero]

theorem divRoundI64_eq {denominator : Nat} (positive : 0 < denominator) (numerator : Int) :
    divRoundI64 numerator denominator = roundAway (numerator / denominator) := by
  have forward (n : Nat) : divRoundI64 n denominator = roundAway (n / denominator) := by
    rw [divRoundI64_natCast, roundDiv_eq_roundAway positive]
  rcases Int.eq_nat_or_neg numerator with ⟨n, rfl | rfl⟩
  · rw [forward, Int.cast_natCast]
  · rw [divRoundI64_neg, forward, ← roundAway_neg]
    push_cast
    rw [neg_div]

theorem divRoundI64Checked_eq {numerator : Int} {denominator : Nat}
    (fits : InSigned 64 (|numerator| + denominator / 2)) :
    divRoundI64Checked numerator denominator = some (divRoundI64 numerator denominator) := by
  unfold InSigned at fits
  rcases Nat.eq_zero_or_pos denominator with zero | positive
  · simp [divRoundI64Checked, divRoundI64, zero]
  have quotient {n : Int} (nonneg : 0 ≤ n) : 0 ≤ n.tdiv denominator ∧ n.tdiv denominator ≤ n :=
    ⟨Int.tdiv_nonneg nonneg (by omega), Int.tdiv_le_self _ nonneg⟩
  have divides : ¬(denominator : Int) ≤ 0 := by omega
  rw [divRoundI64Checked, divRoundI64, half_eq (by omega), if_neg divides, if_neg divides]
  split
  · rename_i nonneg
    rw [abs_of_nonneg nonneg] at fits
    have shifted : InSigned 64 (numerator + denominator / 2) := fits
    rw [signed_eq shifted]
    rfl
  · rename_i negative
    rw [abs_of_neg (by omega)] at fits
    obtain ⟨low, high⟩ := quotient (show 0 ≤ -numerator + denominator / 2 by omega)
    have negated : InSigned 64 (-numerator) := by
      unfold InSigned
      omega
    have shifted : InSigned 64 (-numerator + denominator / 2) := fits
    have result : InSigned 64 (-(-numerator + denominator / 2).tdiv denominator) := by
      unfold InSigned
      omega
    rw [signed_eq negated]
    dsimp only [Option.bind_eq_bind, Option.bind_some]
    rw [signed_eq shifted, Option.bind_some, signed_eq result]

theorem abs_divRoundI64 (numerator : Int) (denominator : Nat) :
    |divRoundI64 numerator denominator| = roundDiv numerator.natAbs denominator := by
  rcases Int.eq_nat_or_neg numerator with ⟨n, rfl | rfl⟩
  · rw [divRoundI64_natCast, Int.natAbs_natCast, Nat.abs_cast]
  · rw [divRoundI64_neg, divRoundI64_natCast, abs_neg, Int.natAbs_neg, Int.natAbs_natCast, Nat.abs_cast]

/-! ## The window -/

section

variable {samples : List (Int × Int)}

theorem AcceptedSample.offset_bounds {sample : Int × Int} (accepted : AcceptedSample sample) :
    -2147483648000000000 ≤ sample.1 ∧ sample.1 ≤ 2147483648000000000 := by
  obtain ⟨monitor, index, t1, t4, response, -, -, -, -, -, offset, -⟩ := accepted
  rw [offset]
  exact measuredOffsetNs_bounds _ _ _ _

def OffsetBounds (offsets : List Int) : Prop :=
  ∀ offset ∈ offsets, -2147483648000000000 ≤ offset ∧ offset ≤ 2147483648000000000

variable {offsets : List Int}

theorem OffsetBounds.neighbours (bounds : OffsetBounds offsets) {neighbours : Int × Int}
    (member : neighbours ∈ offsets.tail.zip offsets) :
    -2 ^ 63 < neighbours.1 - neighbours.2 ∧ neighbours.1 - neighbours.2 < 2 ^ 63 := by
  obtain ⟨memberLater, memberEarlier⟩ := List.of_mem_zip member
  have later := bounds neighbours.1 (List.mem_of_mem_tail memberLater)
  have earlier := bounds neighbours.2 memberEarlier
  omega

theorem OffsetBounds.differences (bounds : OffsetBounds offsets) :
    ∀ difference ∈ differences offsets, -2 ^ 63 < difference ∧ difference < 2 ^ 63 :=
  List.forall_mem_map.mpr fun _ member => bounds.neighbours member

theorem OffsetBounds.foldl_differences (bounds : OffsetBounds offsets) :
    (offsets.tail.zip offsets).foldl
      (fun sum (offset, earlier) => addSquare sum (i64 (offset - earlier))) 0 =
        saturated (sumSquares (Lib.differences offsets)) := by
  have exact : (offsets.tail.zip offsets).map (fun (offset, earlier) => i64 (offset - earlier)) =
      Lib.differences offsets := by
    apply List.map_congr_left
    intro neighbours member
    obtain ⟨low, high⟩ := bounds.neighbours member
    exact i64_eq low.le high
  have squares := foldl_addSquare bounds.differences (Nat.zero_le _)
  rwa [← exact, List.foldl_map, exact, Nat.zero_add] at squares

theorem OffsetBounds.foldlM_differences (bounds : OffsetBounds offsets) :
    (offsets.tail.zip offsets).foldlM addDifferenceChecked 0 =
      some (saturated (sumSquares (Lib.differences offsets))) := by
  rw [← bounds.foldl_differences]
  refine (foldlM_some (fun sum => sum ≤ 2 ^ 64 - 1) (Nat.zero_le _) ?_).1
  rintro sum ⟨later, earlier⟩ member room
  obtain ⟨low, high⟩ := bounds.neighbours member
  obtain ⟨added, checked⟩ := addSquare_spec low high room
  have difference : InSigned 64 (later - earlier) := ⟨low.le, high⟩
  dsimp only [addDifferenceChecked] at low high checked added ⊢
  rw [signed_eq difference, i64_eq low.le high]
  exact ⟨checked, added ▸ min_le_right _ _⟩

theorem i64_of_signed {n m : Int} (checked : signed 64 n = some m) : i64 n = m := by
  unfold signed at checked
  split at checked
  next fits =>
    obtain rfl := Option.some.inj checked
    exact i64_eq fits.1 fits.2
  · cases checked

theorem SumFits.foldlM {values : List Int} (fits : SumFits values) :
    values.foldlM (fun sum value => signed 64 (sum + value)) 0 = some values.sum := by
  have total := foldlM_signed 0 (by simpa using fits.running)
  rwa [Int.zero_add] at total

theorem SumFits.foldl {values : List Int} (fits : SumFits values) :
    values.foldl (fun sum value => i64 (sum + value)) 0 = values.sum :=
  foldl_of_foldlM (fun _ _ _ => i64_of_signed) fits.foldlM

theorem isqrtU64_saturated (sum count : Nat) :
    isqrtU64 (saturated sum / count) = Nat.sqrt (saturated sum / count) := by
  apply isqrtU64_eq_sqrt
  have cut : saturated sum ≤ 2 ^ 64 - 1 := min_le_right _ _
  have quotient := Nat.div_le_self (saturated sum) count
  omega

def statsOf (offsets delays : List Int) (peer : PeerStatus) : PeerStatus :=
  { peer with
    rollingSamples := offsets.length
    minOffsetNs := offsets.foldl min (offsets.headD 0)
    maxOffsetNs := offsets.foldl max (offsets.headD 0)
    meanOffsetNs := divRoundI64 offsets.sum offsets.length
    rmsOffsetNs := Nat.sqrt (saturated (sumSquares offsets) / offsets.length)
    minDelayNs := delays.foldl min (delays.headD 0)
    meanDelayNs := divRoundI64 delays.sum offsets.length
    jitterNs := Nat.sqrt (saturated (sumSquares (differences offsets)) / (offsets.length - 1)) }

variable {runtime : PeerRuntime}

theorem HoldsWindow.computed (window : HoldsWindow runtime samples) (nonempty : samples ≠ [])
    (bounds : OffsetBounds (samples.map Prod.fst)) (offsetsFit : SumFits (samples.map Prod.fst))
    (delaysFit : SumFits (samples.map Prod.snd)) (peer : PeerStatus) :
    computeRollingStats runtime peer =
      statsOf (samples.map Prod.fst) (samples.map Prod.snd) peer := by
  have counted : runtime.count ≠ 0 := by
    simpa [window.count_eq] using nonempty
  have small : ∀ offset ∈ samples.map Prod.fst, -2 ^ 63 < offset ∧ offset < 2 ^ 63 := by
    intro offset member
    have := bounds offset member
    omega
  have length : (samples.map Prod.fst).length = runtime.count := by
    rw [List.length_map, window.count_eq]
  rw [computeRollingStats, if_neg counted, window.offsets, window.delays, statsOf, length]
  dsimp only
  rw [offsetsFit.foldl, delaysFit.foldl, foldl_addSquare small (Nat.zero_le _),
    bounds.foldl_differences, Nat.zero_add]
  simp only [isqrtU64_saturated]
  congr 1
  split
  · rfl
  · have alone : runtime.count - 1 = 0 := by omega
    simp [alone]

theorem signed_isqrtU64 (sum count : Nat) : signed 64 (isqrtU64 (saturated sum / count)) =
    some (Nat.sqrt (saturated sum / count) : Int) := by
  have cut : saturated sum ≤ 2 ^ 64 - 1 := min_le_right _ _
  have quotient := Nat.div_le_self (saturated sum) count
  have root : Nat.sqrt (saturated sum / count) < 2 ^ 32 := by
    rw [Nat.sqrt_lt']
    omega
  rw [isqrtU64_saturated]
  apply signed_eq
  unfold InSigned
  omega

theorem HoldsWindow.checked (window : HoldsWindow runtime samples) (nonempty : samples ≠ [])
    (bounds : OffsetBounds (samples.map Prod.fst)) (offsetsFit : SumFits (samples.map Prod.fst))
    (delaysFit : SumFits (samples.map Prod.snd)) (peer : PeerStatus) :
    computeRollingStatsChecked runtime peer =
      some (statsOf (samples.map Prod.fst) (samples.map Prod.snd) peer) := by
  have counted : runtime.count ≠ 0 := by
    simpa [window.count_eq] using nonempty
  have small : ∀ offset ∈ samples.map Prod.fst, -2 ^ 63 < offset ∧ offset < 2 ^ 63 := by
    intro offset member
    have := bounds offset member
    omega
  have length : (samples.map Prod.fst).length = runtime.count := by
    rw [List.length_map, window.count_eq]
  have delaysLength : (samples.map Prod.snd).length = runtime.count := by
    rw [List.length_map, window.count_eq]
  have offsetsRounded := divRoundI64Checked_eq offsetsFit.rounded
  have delaysRounded := divRoundI64Checked_eq delaysFit.rounded
  rw [length] at offsetsRounded
  rw [delaysLength] at delaysRounded
  have squares := foldlM_addSquareChecked small
  rw [foldl_addSquare small (Nat.zero_le _), Nat.zero_add] at squares
  rw [computeRollingStatsChecked, if_neg counted, window.offsets, window.delays, statsOf, length]
  refine yields offsetsFit.foldlM <| yields delaysFit.foldlM <| yields squares <|
    yields bounds.foldlM_differences <| yields offsetsRounded <| yields isqrtU64Checked_eq <|
    yields (signed_isqrtU64 _ _) <| yields delaysRounded ?_
  by_cases several : runtime.count > 1
  · rw [if_pos several]
    exact yields isqrtU64Checked_eq (yields (signed_isqrtU64 _ _) rfl)
  · have alone : runtime.count - 1 = 0 := by omega
    rw [if_neg several, alone, Nat.div_zero, Nat.sqrt_zero]
    exact yields rfl rfl

theorem exactStats_statsOf (nonempty : samples ≠ []) (peer : PeerStatus) :
    ExactStats samples (statsOf (samples.map Prod.fst) (samples.map Prod.snd) peer) := by
  have positive : 0 < samples.length := List.length_pos_iff.mpr nonempty
  have offsets : samples.map Prod.fst ≠ [] := by simpa using nonempty
  have delays : samples.map Prod.snd ≠ [] := by simpa using nonempty
  have least := isLeast_min offsets
  have greatest := isGreatest_max offsets
  have length : (samples.map Prod.fst).length = samples.length := List.length_map _
  have scale : (0 : ℚ) < samples.length := Nat.cast_pos.mpr positive
  have mean : divRoundI64 (samples.map Prod.fst).sum (samples.map Prod.fst).length =
      roundAway ((samples.map Prod.fst).sum / samples.length) := by
    rw [length, divRoundI64_eq positive]
  constructor
  · exact length
  · exact mean
  · simp only [statsOf, length, divRoundI64_eq positive]
  · simp only [statsOf, length]
  · simp only [statsOf, length]
  · exact least
  · exact greatest
  · exact isLeast_min delays
  · have below := List.card_nsmul_le_sum _ _ least.2
    have above := List.sum_le_card_nsmul _ _ greatest.2
    rw [length, nsmul_eq_mul] at below above
    simp only [statsOf, mean]
    constructor
    · apply le_roundAway
      rw [le_div_iff₀ scale, mul_comm]
      exact_mod_cast below
    · apply roundAway_le
      rw [div_le_iff₀ scale, mul_comm]
      exact_mod_cast above
  · intro small
    have root := roundDiv_le_sqrt positive (length ▸ sum_sq_le (samples.map Prod.fst))
    have kept : saturated (sumSquares (samples.map Prod.fst)) = sumSquares (samples.map Prod.fst) :=
      min_eq_left (by omega)
    simp only [statsOf, length, kept, abs_divRoundI64]
    exact_mod_cast root

theorem rolling_stats_exact (window : HoldsWindow runtime samples) (nonempty : samples ≠ [])
    (accepted : ∀ sample ∈ samples, AcceptedSample sample) (offsetsFit : SumFits (samples.map Prod.fst))
    (delaysFit : SumFits (samples.map Prod.snd)) (peer : PeerStatus) :
    computeRollingStatsChecked runtime peer = some (computeRollingStats runtime peer) ∧
      ExactStats samples (computeRollingStats runtime peer) := by
  have bounds : OffsetBounds (samples.map Prod.fst) :=
    List.forall_mem_map.mpr fun sample member => (accepted sample member).offset_bounds
  rw [window.checked nonempty bounds offsetsFit delaysFit,
    window.computed nonempty bounds offsetsFit delaysFit]
  exact ⟨rfl, exactStats_statsOf nonempty peer⟩

end

def responseAt (low : UInt8) : Bytes :=
  [0x24, 1] ++ List.replicate 22 0 ++ [0, 0, 3, 232, 0, 0, 0, 0] ++ [0, 0, 3, low, 0, 0, 0, 0] ++
    [0, 0, 3, low, 0, 0, 0, 0]

def runtimeOf (samples : List (Int × Int)) : PeerRuntime :=
  { zeroRuntime with
    offset := samples.map Prod.fst
    delay := samples.map Prod.snd
    count := samples.length }

theorem holdsWindow_runtimeOf (samples : List (Int × Int)) : HoldsWindow (runtimeOf samples) samples := by
  constructor
  · rfl
  · exact List.take_of_length_le (by simp [runtimeOf])
  · exact List.take_of_length_le (by simp [runtimeOf])

theorem accepted_one_second : AcceptedSample (1000000000, 0) :=
  ⟨freshMonitor, 0, ⟨1000, 0⟩, ⟨1000, 0⟩, responseAt 233, by decide, by decide, by decide,
    by unfold Refused; decide, by decide, by decide, by decide⟩

theorem accepted_five_seconds : AcceptedSample (5000000000, 0) :=
  ⟨freshMonitor, 0, ⟨1000, 0⟩, ⟨1000, 0⟩, responseAt 237, by decide, by decide, by decide,
    by unfold Refused; decide, by decide, by decide, by decide⟩

theorem rolling_stats_steady :
    ExactStats [(1000000000, 0), (1000000000, 0)]
      (computeRollingStats (runtimeOf [(1000000000, 0), (1000000000, 0)]) (zeroStatus .unknown)) := by
  have offsets : SumFits [1000000000, 1000000000] :=
    ⟨fun read isPrefix => by rw [← List.mem_inits] at isPrefix; revert read; decide, by decide⟩
  have delays : SumFits [0, 0] :=
    ⟨fun read isPrefix => by rw [← List.mem_inits] at isPrefix; revert read; decide, by decide⟩
  have window := holdsWindow_runtimeOf [(1000000000, 0), (1000000000, 0)]
  exact (rolling_stats_exact window (by decide) (by simp [accepted_one_second]) offsets delays _).2

theorem rolling_stats_saturate : ¬∀ runtime samples peer, HoldsWindow runtime samples → samples ≠ [] →
    samples.length ≤ 16 → (∀ sample ∈ samples, AcceptedSample sample) →
    (computeRollingStats runtime peer).rmsOffsetNs =
      Nat.sqrt (sumSquares (samples.map Prod.fst) / samples.length) := by
  intro exact
  have root := exact (runtimeOf [(5000000000, 0)]) _ (zeroStatus .unknown) (holdsWindow_runtimeOf _)
    (by decide) (by decide) (by simp [accepted_five_seconds])
  have cut : (computeRollingStats (runtimeOf [(5000000000, 0)]) (zeroStatus .unknown)).rmsOffsetNs =
      4294967295 := by decide
  have square : sumSquares [5000000000] / 1 = 5000000000 ^ 2 := by decide
  rw [cut, show List.length [((5000000000 : Int), (0 : Int))] = 1 from rfl] at root
  simp only [List.map_cons, List.map_nil, square, Nat.sqrt_eq'] at root
  omega

end NtsTimeServer.Proof
