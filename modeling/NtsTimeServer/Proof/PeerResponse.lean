import NtsTimeServer.Model.PeerMonitor

namespace NtsTimeServer.Proof
open Model Lib

/-- The datagram is not from the polled server, or answers another request. -/
def OffPath (ctx : PollContext) (bytes : Bytes) (source : PeerAddress) : Prop :=
  source ≠ ctx.address ∨ originIs bytes ctx.t1 = false

structure MeasurementsKept (before after : PeerStatus) : Prop where
  referenceId : after.referenceId = before.referenceId
  kodResponses : after.kodResponses = before.kodResponses
  samples : after.samples = before.samples
  rollingSamples : after.rollingSamples = before.rollingSamples
  offset : after.offsetNs = before.offsetNs
  delay : after.delayNs = before.delayNs
  jitter : after.jitterNs = before.jitterNs
  minOffset : after.minOffsetNs = before.minOffsetNs
  maxOffset : after.maxOffsetNs = before.maxOffsetNs
  meanOffset : after.meanOffsetNs = before.meanOffsetNs
  rmsOffset : after.rmsOffsetNs = before.rmsOffsetNs
  minDelay : after.minDelayNs = before.minDelayNs
  meanDelay : after.meanDelayNs = before.meanDelayNs

structure OffPathSafe (before after : PeerMonitor) (index : Fin 4) : Prop where
  health : (after.status index).health = (before.status index).health ∨
    (after.status index).health ∉ [.healthy, .degraded, .kod]
  measurements : MeasurementsKept (before.status index) (after.status index)
  runtime : after.runtime index = before.runtime index

/-- The datagram is taken for a kiss of death from the server before its origin is looked at. -/
structure KissAccepted (monitor : PeerMonitor) (ctx : PollContext) (bytes : Bytes)
    (source : PeerAddress) (readings : ResponseReadings) : Prop where
  lock : monitor.lock = true
  t4 : readings.t4.isSome
  length : ntpPeerPacketSize ≤ bytes.length
  source : source = ctx.address
  stratum : byteAt bytes 1 = 0

theorem MeasurementsKept.refl (status : PeerStatus) : MeasurementsKept status status :=
  ⟨rfl, rfl, rfl, rfl, rfl, rfl, rfl, rfl, rfl, rfl, rfl, rfl, rfl⟩

theorem offPathSafe_refl (monitor : PeerMonitor) (index : Fin 4) :
    OffPathSafe monitor monitor index :=
  ⟨Or.inl rfl, .refl _, rfl⟩

theorem updateFailure_locked {monitor : PeerMonitor} (lock : monitor.lock = true) (index : Fin 4)
    (requested : PeerHealth) (flags : FailureFlags) :
    ((updateFailure monitor index requested flags).status index).health =
        (if requested = .kod ∨ requested = .invalid then requested
        else if u32 ((monitor.status index).consecutiveFailures + 1) ≥ ntpPeerUnreachableFailures
          then .unreachable else .degraded) ∧
      MeasurementsKept (monitor.status index)
        ((updateFailure monitor index requested flags).status index) ∧
      (updateFailure monitor index requested flags).runtime = monitor.runtime := by
  have written (status : PeerStatus) : (monitor.setStatus index status).status index = status :=
    Function.update_self _ _ _
  rw [updateFailure, if_neg (not_not.mpr lock)]
  refine ⟨?_, ?_, rfl⟩
  · dsimp only
    rw [written]
  · dsimp only
    rw [written]
    exact ⟨rfl, rfl, rfl, rfl, rfl, rfl, rfl, rfl, rfl, rfl, rfl, rfl, rfl⟩

theorem updateFailure_unlocked {monitor : PeerMonitor} (unlocked : monitor.lock = false)
    (index : Fin 4) (requested : PeerHealth) (flags : FailureFlags) :
    updateFailure monitor index requested flags = monitor := by
  rw [updateFailure, if_pos (by simp [unlocked])]

theorem updateFailure_invalid_safe (monitor : PeerMonitor) (index : Fin 4) (flags : FailureFlags) :
    OffPathSafe monitor (updateFailure monitor index .invalid flags) index := by
  cases lock : monitor.lock with
  | false =>
      rw [updateFailure_unlocked lock]
      exact offPathSafe_refl monitor index
  | true =>
      obtain ⟨health, measurements, runtime⟩ := updateFailure_locked lock index .invalid flags
      rw [if_pos (Or.inr rfl)] at health
      exact ⟨Or.inr (by rw [health]; decide), measurements, congrFun runtime index⟩

/-! ## The response as it was sent -/

theorem readBe32_take {bytes : Bytes} {offset : Nat} (within : offset + 4 ≤ 256) :
    readBe32 (bytes.take 256) offset = readBe32 bytes offset := by
  have window : ((bytes.take 256).drop offset).take 4 = (bytes.drop offset).take 4 := by
    rw [List.drop_take, List.take_take, min_eq_left (by omega)]
  exact congrArg beValue window

theorem originIs_take (bytes : Bytes) (t1 : NtpTimestamp) :
    originIs (bytes.take 256) t1 = originIs bytes t1 := by
  rw [originIs, originIs, readBe32_take (by decide), readBe32_take (by decide)]

theorem byteAt_take {bytes : Bytes} {offset : Nat} (within : offset < 256) :
    byteAt (bytes.take 256) offset = byteAt bytes offset := by
  rw [byteAt, byteAt, List.getD_eq_getElem?_getD, List.getD_eq_getElem?_getD,
    List.getElem?_take_of_lt within]

/-- What an off-path datagram makes of the monitor, with the source's conditions on what was sent. -/
theorem processResponse_offPath (monitor : PeerMonitor) (index : Fin 4) {ctx : PollContext}
    {bytes : Bytes} {source : PeerAddress} (readings : ResponseReadings)
    (offPath : OffPath ctx bytes source) :
    ∃ flags, (processResponse monitor index ctx (.datagram bytes source) readings).1 =
      if readings.t4.isSome ∧ ntpPeerPacketSize ≤ bytes.length ∧ source = ctx.address ∧
          byteAt bytes 1 = 0 then
        updateFailure (countKod monitor index (bytes.take 256)) index .kod flags
      else updateFailure monitor index .invalid flags := by
  have length : (bytes.take 256).length < ntpPeerPacketSize ↔ bytes.length < ntpPeerPacketSize := by
    rw [List.length_take, ntpPeerPacketSize]
    omega
  refine ⟨{ rejected := true }, ?_⟩
  rw [processResponse]
  cases t4 : readings.t4 with
  | none => simp
  | some t4 =>
      dsimp only
      rw [byteAt_take (by decide)]
      simp only [length]
      by_cases refused : bytes.length < ntpPeerPacketSize ∨ source ≠ ctx.address
      · rw [if_pos refused, if_neg]
        rintro ⟨-, enough, same, -⟩
        rcases refused with short | other
        · omega
        · exact other same
      rw [if_neg refused]
      simp only [not_or, not_lt, not_not] at refused
      obtain ⟨enough, same⟩ := refused
      by_cases kiss : byteAt bytes 1 = 0
      · rw [if_pos kiss, if_pos ⟨rfl, enough, same, kiss⟩]
      · have origin : originIs (bytes.take 256) ctx.t1 = false := by
          rw [originIs_take]
          exact offPath.resolve_left (not_not.mpr same)
        rw [if_neg kiss, if_neg (fun accepted => kiss accepted.2.2.2), processMeasurement, if_pos]
        simp [origin]

/-- A datagram that is not from the server, or does not answer the outstanding request, leaves the
peer's measurements alone, unless it is taken for a kiss of death. -/
theorem off_path_safe_iff (monitor : PeerMonitor) (index : Fin 4) {ctx : PollContext}
    {bytes : Bytes} {source : PeerAddress} (readings : ResponseReadings)
    (offPath : OffPath ctx bytes source) :
    OffPathSafe monitor (processResponse monitor index ctx (.datagram bytes source) readings).1
        index ↔
      ¬KissAccepted monitor ctx bytes source readings := by
  obtain ⟨flags, processed⟩ := processResponse_offPath monitor index readings offPath
  rw [processed]
  by_cases kiss : readings.t4.isSome ∧ ntpPeerPacketSize ≤ bytes.length ∧ source = ctx.address ∧
      byteAt bytes 1 = 0
  · rw [if_pos kiss]
    obtain ⟨t4, length, same, stratum⟩ := kiss
    cases lock : monitor.lock with
    | false =>
        have counted : countKod monitor index (bytes.take 256) = monitor := by
          rw [countKod, if_pos (by simp [lock])]
        rw [counted, updateFailure_unlocked lock]
        refine iff_of_true (offPathSafe_refl monitor index) fun accepted => ?_
        have held := accepted.lock
        rw [lock] at held
        cases held
    | true =>
        refine iff_of_false (fun safe => ?_) (not_not.mpr ⟨lock, t4, length, same, stratum⟩)
        have counted : ((countKod monitor index (bytes.take 256)).status index).kodResponses =
            u32 ((monitor.status index).kodResponses + 1) := by
          rw [countKod, if_neg (not_not.mpr lock)]
          simp [PeerMonitor.setStatus]
        have held : (countKod monitor index (bytes.take 256)).lock = true := by
          rw [countKod, if_neg (not_not.mpr lock)]
          exact lock
        obtain ⟨-, kept, -⟩ := updateFailure_locked held index .kod flags
        have same := safe.measurements.kodResponses
        rw [kept.kodResponses, counted, u32] at same
        omega
  · rw [if_neg kiss]
    exact iff_of_true (updateFailure_invalid_safe monitor index flags) fun accepted =>
      kiss ⟨accepted.t4, accepted.length, accepted.source, accepted.stratum⟩

def quietPeer : PeerStatus :=
  { health := .healthy, reachability := 255, stratum := 1, leap := 0, referenceId := ['G', 'P', 'S', '.']
    offsetNs := 0, delayNs := 1000, jitterNs := 0, minOffsetNs := 0, maxOffsetNs := 0
    meanOffsetNs := 0, rmsOffsetNs := 0, minDelayNs := 1000, meanDelayNs := 1000
    rootDelay1616 := 0, rootDispersion1616 := 0, successfulPolls := 1, failedPolls := 0
    rejectedResponses := 0, duplicateResponses := 0, consecutiveFailures := 0, kodResponses := 0
    dnsFailures := 0, timeoutFailures := 0, samples := 1, rollingSamples := 1
    lastSuccessAgeSeconds := 0 }

def quietMonitor : PeerMonitor where
  lock := true
  status _ := quietPeer
  runtime _ := ⟨List.replicate 16 0, 1000 :: List.replicate 15 0, 1, 1, 1, true, 1⟩

def polledContext : PollContext :=
  ⟨some 54, true, false, ⟨0xC0000201, ntpPort⟩, ⟨3908988800, 5⟩, 2000000⟩

def forgedKiss : Bytes := [0x24, 0] ++ List.replicate 10 0 ++ [82, 65, 84, 69] ++ List.replicate 32 0

def answeredAt : ResponseReadings := ⟨some ⟨3908988800, 100⟩, 1000⟩

theorem forgedKiss_accepted_iff :
    OffPathSafe quietMonitor (processResponse quietMonitor 0 polledContext
        (.datagram forgedKiss polledContext.address) answeredAt).1 0 ↔
      ¬KissAccepted quietMonitor polledContext forgedKiss polledContext.address answeredAt :=
  off_path_safe_iff quietMonitor 0 answeredAt (Or.inr (by decide))

theorem forged_kiss_reaches_peer : ¬∀ (monitor : PeerMonitor) (index : Fin 4) (ctx : PollContext)
    (bytes : Bytes) (source : PeerAddress) (readings : ResponseReadings),
    OffPath ctx bytes source → OffPathSafe monitor
      (processResponse monitor index ctx (.datagram bytes source) readings).1 index := by
  intro claim
  have safe := claim quietMonitor 0 polledContext forgedKiss polledContext.address answeredAt
    (Or.inr (by decide))
  rcases safe.health with same | other
  · exact absurd same (by decide)
  · exact other (by decide)

end NtsTimeServer.Proof
