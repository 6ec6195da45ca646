import Mathlib.Data.Int.ConditionallyCompleteOrder
import NtsTimeServer.Lib.Extremes
import NtsTimeServer.Model.PeerTask
import NtsTimeServer.Proof.PeerLog
import NtsTimeServer.Proof.PeerSockets

namespace NtsTimeServer.Proof
open Model Lib

def counted (s : PeerService) : List (Fin 4) :=
  (List.finRange 4).filter fun index => countsFor (s.slots index).configured (s.monitor.status index)

def exactScore (peer : PeerStatus) : Int := |peer.offsetNs| + peer.jitterNs + peer.delayNs / 4

def apart (s : PeerService) (i j : Fin 4) : Int := |(s.monitor.status i).offsetNs - (s.monitor.status j).offsetNs|

def distances (s : PeerService) : Set Int :=
  { distance | ∃ i ∈ counted s, ∃ j ∈ counted s, apart s i j = distance }

structure AggregateExact (s : PeerService) : Prop where
  healthy : s.aggregate.healthyPeers =
    (List.finRange 4).countP fun index => (s.monitor.status index).health == .healthy
  spreadValid : s.aggregate.crossPeerSpreadValid = true ↔ 2 ≤ (counted s).length
  spread : 2 ≤ (counted s).length → IsGreatest (distances s) s.aggregate.crossPeerSpreadNs
  alone : ¬2 ≤ (counted s).length → s.aggregate.crossPeerSpreadNs = 0
  best : ((counted s).argmin fun index => exactScore (s.monitor.status index)).map Fin.val =
    if s.aggregate.bestObservedPeerValid then some s.aggregate.bestObservedPeerIndex else none

structure Bounded (peer : PeerStatus) : Prop where
  offset : |peer.offsetNs| ≤ 2147483648000000000
  delay : 0 ≤ peer.delayNs ∧ peer.delayNs ≤ 4294967296000000000
  jitter : 0 ≤ peer.jitterNs ∧ peer.jitterNs ≤ 4294967296

theorem observationScore_eq {peer : PeerStatus} (bounded : Bounded peer) :
    observationScore peer = exactScore peer := by
  obtain ⟨offset, delay, jitter⟩ := bounded
  have magnitude : absI64 peer.offsetNs = |peer.offsetNs| := by
    have := abs_le.mp offset
    rw [absI64, if_neg (by omega)]
  have spread : absI64 peer.jitterNs = peer.jitterNs := by
    rw [absI64, if_neg (by omega), abs_of_nonneg jitter.1]
  have share : (if peer.delayNs > 0 then peer.delayNs.tdiv 4 else 0) = peer.delayNs / 4 := by
    split
    next => exact Int.tdiv_eq_ediv_of_nonneg delay.1
    next => omega
  have nonneg := abs_nonneg peer.offsetNs
  rw [observationScore, magnitude, spread, share, exactScore, addScore, addScore]
  rw [if_neg (by omega : ¬|peer.offsetNs| > 2 ^ 63 - 1 - peer.jitterNs), if_neg (by omega)]

/-! ## The first loop -/

structure ScannedPeers (monitor : PeerMonitor) (read : List (Fin 4)) (scan : AggregateScan) : Prop where
  sampled : scan.sampled = read.length
  haveOffset : scan.haveOffset = true ↔ read ≠ []
  bestValid : scan.bestValid = true ↔ read ≠ []
  least : read ≠ [] → IsLeast { offset | ∃ i ∈ read, (monitor.status i).offsetNs = offset } scan.minOffset
  greatest : read ≠ [] → IsGreatest { offset | ∃ i ∈ read, (monitor.status i).offsetNs = offset } scan.maxOffset
  best : (read.argmin fun index => observationScore (monitor.status index)).map Fin.val =
    if scan.bestValid then some scan.bestIndex else none
  score : ∀ best ∈ read.argmin fun index => observationScore (monitor.status index),
    scan.bestScore = observationScore (monitor.status best)

section

variable {monitor : PeerMonitor} {read : List (Fin 4)} {scan : AggregateScan}

theorem ScannedPeers.none_best (scanned : ScannedPeers monitor read scan)
    (found : (read.argmin fun index => observationScore (monitor.status index)) = none) : scan.bestValid = false := by
  have kept := scanned.best
  rw [found] at kept
  cases valid : scan.bestValid with
  | false => rfl
  | true => simp [valid] at kept

theorem ScannedPeers.some_best (scanned : ScannedPeers monitor read scan) {best : Fin 4}
    (found : (read.argmin fun index => observationScore (monitor.status index)) = some best) :
    scan.bestValid = true ∧ scan.bestIndex = best.val ∧
      scan.bestScore = observationScore (monitor.status best) := by
  have kept := scanned.best
  rw [found] at kept
  cases valid : scan.bestValid with
  | false => simp [valid] at kept
  | true => exact ⟨rfl, by simpa [valid, eq_comm] using kept, scanned.score best found⟩

theorem ScannedPeers.add (scanned : ScannedPeers monitor read scan) (index : Fin 4) :
    ScannedPeers monitor (read ++ [index]) (scan.add index (monitor.status index)) := by
  have offsets : { offset | ∃ i ∈ read ++ [index], (monitor.status i).offsetNs = offset } =
      insert (monitor.status index).offsetNs { offset | ∃ i ∈ read, (monitor.status i).offsetNs = offset } := by
    ext offset
    simp [or_comm, eq_comm]
  refine ⟨by simp [AggregateScan.add, scanned.sampled], by simp [AggregateScan.add], by simp [AggregateScan.add],
    fun _ => ?_, fun _ => ?_, ?_, ?_⟩
  · rw [offsets]
    by_cases first : read = []
    · have none : scan.haveOffset = false := by simpa [first] using scanned.haveOffset
      subst first
      simp [AggregateScan.add, none]
    · have some : scan.haveOffset = true := scanned.haveOffset.mpr first
      have least := (scanned.least first).insert (monitor.status index).offsetNs
      simp only [AggregateScan.add, some, Bool.not_true, Bool.false_or, decide_eq_true_eq]
      rwa [min_def_lt] at least
  · rw [offsets]
    by_cases first : read = []
    · have none : scan.haveOffset = false := by simpa [first] using scanned.haveOffset
      subst first
      simp [AggregateScan.add, none]
    · have some : scan.haveOffset = true := scanned.haveOffset.mpr first
      have greatest := (scanned.greatest first).insert (monitor.status index).offsetNs
      simp only [AggregateScan.add, some, Bool.not_true, Bool.false_or, decide_eq_true_eq, gt_iff_lt]
      rwa [max_comm, max_def_lt] at greatest
  · rw [List.argmin_concat]
    cases found : read.argmin fun index => observationScore (monitor.status index) with
    | none => simp [AggregateScan.add, scanned.none_best found]
    | some best =>
        obtain ⟨valid, kept, score⟩ := scanned.some_best found
        simp only [AggregateScan.add, valid, kept, score, Bool.not_true, Bool.false_or, decide_eq_true_eq]
        split <;> rfl
  · intro best
    rw [List.argmin_concat]
    cases found : read.argmin fun index => observationScore (monitor.status index) with
    | none =>
        rintro ⟨⟩
        simp [AggregateScan.add, scanned.none_best found]
    | some earlier =>
        obtain ⟨valid, kept, score⟩ := scanned.some_best found
        simp only [AggregateScan.add, valid, score, Bool.not_true, Bool.false_or, decide_eq_true_eq]
        split
        next =>
          rintro ⟨⟩
          rfl
        next =>
          rintro ⟨⟩
          rfl

end

structure OnlyAged (before after : PeerMonitor) : Prop where
  lock : after.lock = before.lock
  runtime : after.runtime = before.runtime
  status : ∀ index, ∃ age, after.status index = { before.status index with lastSuccessAgeSeconds := age }

theorem OnlyAged.refl (monitor : PeerMonitor) : OnlyAged monitor monitor :=
  ⟨rfl, rfl, fun index => ⟨(monitor.status index).lastSuccessAgeSeconds, rfl⟩⟩

structure ScanReached (s : PeerService) (read : List (Fin 4)) (t : PeerMonitor × AggregateScan) : Prop where
  aged : OnlyAged s.monitor t.1
  scanned : ScannedPeers s.monitor
    (read.filter fun index => countsFor (s.slots index).configured (s.monitor.status index)) t.2

theorem ScanReached.step {s : PeerService} {read : List (Fin 4)} {t : PeerMonitor × AggregateScan}
    (reached : ScanReached s read t) (nowUs : Int) (index : Fin 4) :
    ScanReached s (read ++ [index]) (scanPeer s.slots nowUs t index) := by
  rw [scanPeer]
  split
  next unconfigured =>
    have out : countsFor (s.slots index).configured (s.monitor.status index) = false := by
      simp [countsFor, Bool.eq_false_iff.mpr unconfigured]
    exact ⟨reached.aged, by simpa [out] using reached.scanned⟩
  next configured =>
    have configured : (s.slots index).configured = true := not_not.mp configured
    obtain ⟨age, aged⟩ := reached.aged.status index
    have status : ∃ age, { t.1.status index with
        lastSuccessAgeSeconds :=
          successAge nowUs (t.1.runtime index) (t.1.status index).lastSuccessAgeSeconds } =
        { s.monitor.status index with lastSuccessAgeSeconds := age } := by
      rw [aged]
      exact ⟨_, rfl⟩
    obtain ⟨age, status⟩ := status
    dsimp only
    rw [status]
    refine ⟨⟨reached.aged.lock, reached.aged.runtime, fun other => ?_⟩, ?_⟩
    · rw [PeerMonitor.setStatus_status]
      by_cases same : other = index
      · subst same
        exact ⟨age, Function.update_self _ _ _⟩
      · rw [Function.update_of_ne same]
        exact reached.aged.status other
    · have unaged : countsFor true { s.monitor.status index with lastSuccessAgeSeconds := age } =
          countsFor (s.slots index).configured (s.monitor.status index) := by
        rw [configured]
        rfl
      rw [unaged, List.filter_append, List.filter_singleton]
      cases countsFor (s.slots index).configured (s.monitor.status index) with
      | true => exact reached.scanned.add index
      | false =>
          rw [Bool.cond_false, List.append_nil]
          exact reached.scanned

theorem scan_reached (s : PeerService) (nowUs : Int) : ScanReached s (List.finRange 4)
    ((List.finRange 4).foldl (scanPeer s.slots nowUs) (s.monitor, ⟨0, 0, false, 0, 2 ^ 63 - 1, false, 0⟩)) := by
  refine foldl_rule (ScanReached s) ⟨.refl s.monitor, ?_⟩ fun _ index _ _ _ reached => reached.step nowUs index
  constructor <;> simp

structure Refreshed (s : PeerService) (diverging : Fin 4 → Bool) (after : PeerMonitor) : Prop where
  lock : after.lock = s.monitor.lock
  runtime : after.runtime = s.monitor.runtime
  status : ∀ index, ∃ age, after.status index = { s.monitor.status index with
    lastSuccessAgeSeconds := age
    health := if diverging index && countsFor (s.slots index).configured (s.monitor.status index) then .divergent
      else (s.monitor.status index).health }

theorem OnlyAged.refreshed {s : PeerService} {after : PeerMonitor} (aged : OnlyAged s.monitor after) :
    Refreshed s (fun _ => false) after :=
  ⟨aged.lock, aged.runtime, aged.status⟩

theorem Refreshed.diverge {s : PeerService} {read : List (Fin 4)} {after : PeerMonitor}
    (refreshed : Refreshed s (fun index => decide (index ∈ read)) after) {index : Fin 4} (fresh : index ∉ read) :
    Refreshed s (fun other => decide (other ∈ read ++ [index])) (divergePeer s.slots after index) := by
  obtain ⟨age, status⟩ := refreshed.status index
  simp only [fresh, decide_false, Bool.false_and, Bool.false_eq_true, if_false] at status
  have same : countsFor (s.slots index).configured (after.status index) =
      countsFor (s.slots index).configured (s.monitor.status index) := by
    rw [status]
    rfl
  have others (other : Fin 4) (ne : other ≠ index) :
      decide (other ∈ read ++ [index]) = decide (other ∈ read) := by
    simp [ne]
  rw [divergePeer, same]
  split
  next counts =>
    refine ⟨refreshed.lock, refreshed.runtime, fun other => ?_⟩
    rw [PeerMonitor.setStatus_status]
    by_cases here : other = index
    · subst here
      rw [Function.update_self, status]
      exact ⟨age, by simp [counts]⟩
    · rw [Function.update_of_ne here, others other here]
      exact refreshed.status other
  next out =>
    refine ⟨refreshed.lock, refreshed.runtime, fun other => ?_⟩
    by_cases here : other = index
    · subst here
      rw [status]
      exact ⟨age, by simp [out]⟩
    · rw [others other here]
      exact refreshed.status other

theorem diverge_refreshed {s : PeerService} {monitor : PeerMonitor} (aged : OnlyAged s.monitor monitor) :
    Refreshed s (fun _ => true) ((List.finRange 4).foldl (divergePeer s.slots) monitor) := by
  have all : Refreshed s (fun index => decide (index ∈ List.finRange 4))
      ((List.finRange 4).foldl (divergePeer s.slots) monitor) := by
    refine foldl_rule (fun read after => Refreshed s (fun index => decide (index ∈ read)) after) ?_ ?_
    · simpa using aged.refreshed
    · intro read index rest after split refreshed
      exact refreshed.diverge fun member => lt_irrefl _ ((finRange_split split index).mp member)
  simpa using all

/-! ## The refresh -/

def diverges (s : PeerService) : Bool :=
  (counted s).any fun i => (counted s).any fun j => decide (10000000 < apart s i j)

theorem Refreshed.same {s : PeerService} {diverging : Fin 4 → Bool} {after : PeerMonitor}
    (refreshed : Refreshed s diverging after) (index : Fin 4) :
    (after.status index).offsetNs = (s.monitor.status index).offsetNs ∧
      exactScore (after.status index) = exactScore (s.monitor.status index) ∧
      countsFor (s.slots index).configured (after.status index) =
        countsFor (s.slots index).configured (s.monitor.status index) := by
  obtain ⟨age, status⟩ := refreshed.status index
  rw [status]
  refine ⟨rfl, rfl, ?_⟩
  cases diverging index with
  | false => rfl
  | true =>
      cases counts : countsFor (s.slots index).configured (s.monitor.status index) with
      | false => exact counts
      | true =>
          simp only [countsFor, Bool.and_eq_true] at counts ⊢
          simp [counts.1.1.1]

theorem counted_of_refreshed {s t : PeerService} {diverging : Fin 4 → Bool}
    (refreshed : Refreshed s diverging t.monitor) (slots : t.slots = s.slots) : counted t = counted s := by
  unfold counted
  rw [slots]
  exact List.filter_congr fun index _ => (refreshed.same index).2.2

theorem spread_greatest {s : PeerService} {scan : AggregateScan} (scanned : ScannedPeers s.monitor (counted s) scan)
    (some : counted s ≠ []) : IsGreatest (distances s) (scan.maxOffset - scan.minOffset) := by
  have greatest := isGreatest_distance (scanned.least some) (scanned.greatest some)
  have same : { distance | ∃ a ∈ { offset | ∃ i ∈ counted s, (s.monitor.status i).offsetNs = offset },
      ∃ b ∈ { offset | ∃ i ∈ counted s, (s.monitor.status i).offsetNs = offset }, |a - b| = distance } =
      distances s := by
    ext distance
    simp [distances, apart]
  rwa [same] at greatest

theorem not_diverges {s : PeerService} (few : ¬2 ≤ (counted s).length) : diverges s = false := by
  rw [diverges]
  cases counts : counted s with
  | nil => rfl
  | cons index rest =>
      have single : rest = [] := by
        rw [counts, List.length_cons] at few
        exact List.eq_nil_of_length_eq_zero (by omega)
      rw [single]
      simp [apart]

theorem spread_exact {s : PeerService} {scan : AggregateScan} (scanned : ScannedPeers s.monitor (counted s) scan)
    (bounded : ∀ index ∈ counted s, Bounded (s.monitor.status index)) (some : counted s ≠ []) :
    i64 (scan.maxOffset - scan.minOffset) = scan.maxOffset - scan.minOffset := by
  obtain ⟨low, memLow, isLow⟩ := (scanned.least some).1
  obtain ⟨high, memHigh, isHigh⟩ := (scanned.greatest some).1
  have boundLow := abs_le.mp (bounded low memLow).offset
  have boundHigh := abs_le.mp (bounded high memHigh).offset
  apply i64_eq <;> omega

theorem diverges_iff {s : PeerService} {scan : AggregateScan} (scanned : ScannedPeers s.monitor (counted s) scan)
    (bounded : ∀ index ∈ counted s, Bounded (s.monitor.status index)) :
    (decide (scan.sampled ≥ 2) = true ∧
      (if scan.sampled ≥ 2 then i64 (scan.maxOffset - scan.minOffset) else 0) > ntpPeerDivergentNs) ↔
    diverges s = true := by
  rw [scanned.sampled, decide_eq_true_eq]
  by_cases several : (counted s).length ≥ 2
  · have some : counted s ≠ [] := by
      intro none
      simp [none] at several
    have wide : 10000000 < scan.maxOffset - scan.minOffset ↔
        ∃ distance ∈ distances s, 10000000 < distance :=
      lt_isLUB_iff (spread_greatest scanned some).isLUB
    rw [if_pos several, spread_exact scanned bounded some, ntpPeerDivergentNs, gt_iff_lt, wide]
    simp [several, diverges, distances]
  · simp [several, not_diverges several]

theorem refresh_exact {s : PeerService} (lock : s.monitor.lock = true) (bounded : ∀ index ∈ counted s,
    Bounded (s.monitor.status index)) (nowUs : Int) :
    Refreshed s (fun _ => diverges s) (refreshAggregateHealth nowUs s).monitor ∧
      AggregateExact (refreshAggregateHealth nowUs s) := by
  obtain ⟨aged, scanned⟩ := scan_reached s nowUs
  rw [refreshAggregateHealth, if_neg (not_not.mpr lock)]
  generalize (List.finRange 4).foldl (scanPeer s.slots nowUs) (s.monitor, ⟨0, 0, false, 0, 2 ^ 63 - 1, false, 0⟩) =
    result at aged scanned
  obtain ⟨monitor, scan⟩ := result
  rw [← counted] at scanned
  dsimp only at aged scanned ⊢
  have refreshed : Refreshed s (fun _ => diverges s) (if decide (scan.sampled ≥ 2) = true ∧
      (if scan.sampled ≥ 2 then i64 (scan.maxOffset - scan.minOffset) else 0) > ntpPeerDivergentNs then
        (List.finRange 4).foldl (divergePeer s.slots) monitor else monitor) := by
    by_cases wide : diverges s = true
    · rw [if_pos ((diverges_iff scanned bounded).mpr wide), wide]
      exact diverge_refreshed aged
    · rw [if_neg fun spread => wide ((diverges_iff scanned bounded).mp spread), Bool.eq_false_iff.mpr wide]
      exact aged.refreshed
  refine ⟨refreshed, ?_⟩
  generalize (if decide (scan.sampled ≥ 2) = true ∧
      (if scan.sampled ≥ 2 then i64 (scan.maxOffset - scan.minOffset) else 0) > ntpPeerDivergentNs then
        (List.finRange 4).foldl (divergePeer s.slots) monitor else monitor) = after at refreshed
  have same (aggregate : PeerAggregate) : counted { s with
      monitor := after
      aggregate := aggregate } = counted s :=
    counted_of_refreshed refreshed rfl
  constructor
  · rfl
  · rw [same, scanned.sampled, decide_eq_true_eq]
  · intro several
    rw [same] at several
    have some : counted s ≠ [] := by
      intro none
      simp [none] at several
    have greatest := spread_greatest scanned some
    simp only [scanned.sampled, if_pos several, spread_exact scanned bounded some]
    simpa only [distances, same, apart, (refreshed.same _).1] using greatest
  · intro few
    rw [same] at few
    simp only [scanned.sampled]
    exact if_neg few
  · rw [same]
    have scores : (counted s).argmin (fun index => exactScore (after.status index)) =
        (counted s).argmin (fun index => observationScore (s.monitor.status index)) := by
      apply argmin_congr
      intro index mem
      rw [(refreshed.same index).2.1, observationScore_eq (bounded index mem)]
    rw [scores]
    exact scanned.best

end NtsTimeServer.Proof
