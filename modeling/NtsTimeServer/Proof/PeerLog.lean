import NtsTimeServer.Model.PeerLog
import NtsTimeServer.Proof.RollingWindow

namespace NtsTimeServer.Proof
open Model Lib

variable {configured : Bool} {log : PeerLog} {status : PeerStatus} {runtime : PeerRuntime}

structure SameStats (p q : PeerStatus) : Prop where
  rolling : q.rollingSamples = p.rollingSamples
  min : q.minOffsetNs = p.minOffsetNs
  max : q.maxOffsetNs = p.maxOffsetNs
  mean : q.meanOffsetNs = p.meanOffsetNs
  rms : q.rmsOffsetNs = p.rmsOffsetNs
  minDelay : q.minDelayNs = p.minDelayNs
  meanDelay : q.meanDelayNs = p.meanDelayNs
  jitter : q.jitterNs = p.jitterNs

theorem computeRollingStats_fixed {p q : PeerStatus} (fixed : computeRollingStats runtime p = p)
    (same : SameStats p q) : computeRollingStats runtime q = q := by
  obtain ⟨rolling, min, max, mean, rms, minDelay, meanDelay, jitter⟩ := same
  unfold computeRollingStats at *
  split
  next => rfl
  next some =>
    rw [if_neg some] at fixed
    rw [← fixed] at rolling min max mean rms minDelay meanDelay jitter
    cases q
    dsimp only at *
    rw [rolling, min, max, mean, rms, minDelay, meanDelay, jitter]

theorem computeRollingStats_idem (runtime : PeerRuntime) (peer : PeerStatus) :
    computeRollingStats runtime (computeRollingStats runtime peer) = computeRollingStats runtime peer := by
  unfold computeRollingStats
  split
  next => rfl
  next => rfl

theorem computeRollingStats_others (runtime : PeerRuntime) (peer : PeerStatus) :
    ∃ rolling min max mean rms minDelay meanDelay jitter, computeRollingStats runtime peer = { peer with
      rollingSamples := rolling
      minOffsetNs := min
      maxOffsetNs := max
      meanOffsetNs := mean
      rmsOffsetNs := rms
      minDelayNs := minDelay
      meanDelayNs := meanDelay
      jitterNs := jitter } := by
  unfold computeRollingStats
  split
  next => exact ⟨_, _, _, _, _, _, _, _, rfl⟩
  next => exact ⟨_, _, _, _, _, _, _, _, rfl⟩

theorem computeRollingStats_rings {past : List (Int × Int)} (rings : Rings runtime past) (peer : PeerStatus) :
    computeRollingStats runtime peer = windowStats (past.rtake 16) peer := by
  have kept := rings.inOrder.kept
  have offsets := rings.offsets.kept
  have delays := rings.delays.kept
  have count : runtime.count = (past.rtake 16).length := by
    rw [rings.inOrder.count_eq, List.rtake_eq_reverse_take_reverse]
    simp [min_comm]
  have mapped (f : Int × Int → Int) : (past.map f).rtake 16 = (past.rtake 16).map f := by
    simp [List.rtake_eq_reverse_take_reverse, List.map_take]
  rw [mapped] at offsets delays
  have whole (f : Int × Int → Int) : ((past.rtake 16).map f).take (past.rtake 16).length = (past.rtake 16).map f :=
    List.take_of_length_le (by simp)
  unfold windowStats computeRollingStats
  rw [offsets, delays, count]
  dsimp only
  rw [whole, whole]

theorem PeerLog_window (log : PeerLog) : PeerLog.window log = ((PeerLog.exchanges log).reverse.map
    fun exchange => (exchange.offsetNs, exchange.delayNs)).rtake 16 := by
  simp [PeerLog.window, List.rtake_eq_reverse_take_reverse, ntpPeerRollingWindow, List.map_take]

theorem exchanges_unheard (log : PeerLog) {outcome : PollOutcome} (unheard : outcome.isHeard = false) :
    PeerLog.exchanges (outcome :: log) = PeerLog.exchanges log := by
  cases outcome with
  | heard exchange => cases unheard
  | kissed => rfl
  | missed => rfl

structure RuntimeKeeps (log : PeerLog) (runtime : PeerRuntime) : Prop where
  rings : Rings runtime ((PeerLog.exchanges log).reverse.map fun exchange => (exchange.offsetNs, exchange.delayNs))
  valid : runtime.lastServerT3Valid = (PeerLog.exchanges log).head?.isSome
  last : ∀ exchange ∈ (PeerLog.exchanges log).head?, runtime.lastServerT3 = exchange.t3
  fresh : (PeerLog.exchanges log).IsChain fun later earlier => later.t3 ≠ earlier.t3

theorem RuntimeKeeps.unheard (keeps : RuntimeKeeps log runtime) {outcome : PollOutcome}
    (unheard : outcome.isHeard = false) : RuntimeKeeps (outcome :: log) runtime := by
  have same := exchanges_unheard log unheard
  constructor <;> rw [same]
  · exact keeps.rings
  · exact keeps.valid
  · exact keeps.last
  · exact keeps.fresh

theorem RuntimeKeeps.hear (keeps : RuntimeKeeps log runtime) {exchange : PeerExchange}
    (fresh : ¬(runtime.lastServerT3Valid = true ∧ runtime.lastServerT3 = exchange.t3)) :
    RuntimeKeeps (.heard exchange :: log)
      (recordSample runtime exchange.t3 exchange.offsetNs exchange.delayNs exchange.nowUs) where
  rings := by
    have recorded := keeps.rings.record exchange.t3 exchange.offsetNs exchange.delayNs exchange.nowUs
    simpa [PeerLog.exchanges, PollOutcome.exchange?] using recorded
  valid := rfl
  last other here := by
    cases here
    rfl
  fresh := by
    have longer : PeerLog.exchanges (.heard exchange :: log) = exchange :: PeerLog.exchanges log := rfl
    rw [longer]
    have valid := keeps.valid
    have last := keeps.last
    have earlier := keeps.fresh
    cases exchanges : PeerLog.exchanges log with
    | nil => exact .singleton _
    | cons previous rest =>
        rw [exchanges] at valid last earlier
        refine .cons_cons ?_ earlier
        intro same
        exact fresh ⟨valid, (last previous rfl).trans same.symm⟩

/-! ## The status of a peer -/

theorem testBit_shift (register bit : Nat) (heard : Bool) :
    ((register * 2 + heard.toNat) % 256).testBit bit =
      (decide (bit < 8) && if bit = 0 then heard else register.testBit (bit - 1)) := by
  rw [show 256 = 2 ^ 8 by rfl, Nat.testBit_mod_two_pow]
  cases bit with
  | zero => cases heard <;> simp [Nat.testBit_zero]
  | succ bit =>
      have half : (register * 2 + heard.toNat) / 2 = register := by
        cases heard with
        | false => simp
        | true =>
            simp
            omega
      simp [Nat.testBit_succ, half]

theorem reachability_next (shows : ∀ bit, status.reachability.testBit bit =
    (decide (bit < 8) && (log[bit]?.map PollOutcome.isHeard).getD false)) (outcome : PollOutcome) (bit : Nat) :
    ((status.reachability * 2 + outcome.isHeard.toNat) % 256).testBit bit =
      (decide (bit < 8) && ((outcome :: log)[bit]?.map PollOutcome.isHeard).getD false) := by
  rw [testBit_shift]
  cases bit with
  | zero => simp
  | succ bit =>
      rw [if_neg (by simp), Nat.add_sub_cancel, shows, List.getElem?_cons_succ]
      by_cases small : bit + 1 < 8
      · simp [small, show bit < 8 by omega]
      · simp [small]

theorem countIf_u32 (flag : Bool) (counter : Nat) : countIf flag (u32 counter) = u32 (counter + flag.toNat) := by
  cases flag <;> simp [countIf, u32]

theorem Summarises.unheard (shows : Summarises configured log status) {outcome : PollOutcome}
    (unheard : outcome.isHeard = false) {health : PeerHealth}
    (own : health = ownHealth configured status.jitterNs (outcome :: log)) :
    Summarises configured (outcome :: log) { status with
      reachability := status.reachability * 2 % 256
      failedPolls := u32 (status.failedPolls + 1)
      consecutiveFailures := u32 (status.consecutiveFailures + 1)
      timeoutFailures := countIf outcome.flags.timeout status.timeoutFailures
      dnsFailures := countIf outcome.flags.dns status.dnsFailures
      rejectedResponses := countIf outcome.flags.rejected status.rejectedResponses
      duplicateResponses := countIf outcome.flags.duplicate status.duplicateResponses
      kodResponses := countIf outcome.isKissed status.kodResponses
      referenceId := outcome.reference?.getD status.referenceId
      health := health } := by
  have same := exchanges_unheard log unheard
  have counts (flag : PollOutcome → Bool) :
      (outcome :: log).countP flag = log.countP flag + (flag outcome).toNat := by
    rw [List.countP_cons]
    cases flag outcome <;> rfl
  have longer : PeerLog.streak (outcome :: log) = PeerLog.streak log + 1 := by
    simp [PeerLog.streak, unheard]
  constructor
  · intro bit
    have next := reachability_next shows.reachability outcome bit
    simpa [unheard] using next
  · rw [same]
    exact shows.successes
  · rw [same]
    exact shows.samples
  · simp [counts, unheard, shows.failures, u32]
  · simp [longer, shows.streak, u32]
  · simp only [counts, shows.timeouts, countIf_u32]
  · simp only [counts, shows.dns, countIf_u32]
  · simp only [counts, shows.rejected, countIf_u32]
  · simp only [counts, shows.duplicates, countIf_u32]
  · simp only [counts, shows.kods, countIf_u32]
  · rw [same]
    intro exchange here
    exact ⟨(shows.last exchange here).offset, (shows.last exchange here).delay, (shows.last exchange here).stratum,
      (shows.last exchange here).leap, (shows.last exchange here).rootDelay,
      (shows.last exchange here).rootDispersion⟩
  · rw [List.findSome?_cons, shows.reference]
    cases outcome.reference? <;> rfl
  · have window : PeerLog.window (outcome :: log) = PeerLog.window log := by
      rw [PeerLog_window, PeerLog_window, same]
    rw [window]
    exact computeRollingStats_fixed shows.statistics ⟨rfl, rfl, rfl, rfl, rfl, rfl, rfl, rfl⟩
  · exact Or.inl own

theorem Summarises.hear (shows : Summarises configured log status) (exchange : PeerExchange) {peer : PeerStatus}
    (written : peer = windowStats (PeerLog.window (.heard exchange :: log)) { status with
      reachability := (status.reachability * 2 + 1) % 256
      successfulPolls := u32 (status.successfulPolls + 1)
      consecutiveFailures := 0
      samples := u32 (status.samples + 1)
      stratum := byteAt exchange.response 1
      leap := byteAt exchange.response 0 / 64
      rootDelay1616 := ((readBe32 exchange.response 4 : Int) + 2 ^ 31) % 2 ^ 32 - 2 ^ 31
      rootDispersion1616 := readBe32 exchange.response 8
      referenceId := referenceIdToText exchange.response (byteAt exchange.response 1)
      offsetNs := exchange.offsetNs
      delayNs := exchange.delayNs
      lastSuccessAgeSeconds := 0 }) :
    Summarises configured (.heard exchange :: log) { peer with
      health := if exchange.delayNs > ntpPeerDegradedDelayNs ∨ peer.jitterNs > ntpPeerDegradedJitterNs
        then .degraded else .healthy } := by
  have fixed : windowStats (PeerLog.window (.heard exchange :: log)) peer = peer := by
    rw [written]
    exact computeRollingStats_idem _ _
  have counts (flag : PollOutcome → Bool) (unflagged : flag (.heard exchange) = false) :
      (PollOutcome.heard exchange :: log).countP flag = log.countP flag :=
    List.countP_cons_of_neg (by simp [unflagged])
  obtain ⟨rolling, min, max, mean, rms, minDelay, meanDelay, jitter, others⟩ := computeRollingStats_others
    { zeroRuntime with
      offset := (PeerLog.window (.heard exchange :: log)).map Prod.fst
      delay := (PeerLog.window (.heard exchange :: log)).map Prod.snd
      count := (PeerLog.window (.heard exchange :: log)).length } _
  rw [windowStats, others] at written
  have longer : PeerLog.exchanges (.heard exchange :: log) = exchange :: PeerLog.exchanges log := rfl
  subst written
  constructor
  · exact reachability_next shows.reachability (.heard exchange)
  · simp [longer, shows.successes, u32]
  · simp [longer, shows.samples, u32]
  · rw [counts _ rfl]
    exact shows.failures
  · rfl
  · rw [counts _ rfl]
    exact shows.timeouts
  · rw [counts _ rfl]
    exact shows.dns
  · rw [counts _ rfl]
    exact shows.rejected
  · rw [counts _ rfl]
    exact shows.duplicates
  · rw [counts _ rfl]
    exact shows.kods
  · intro other here
    cases here
    exact ⟨rfl, rfl, rfl, rfl, rfl, rfl⟩
  · rfl
  · exact computeRollingStats_fixed fixed ⟨rfl, rfl, rfl, rfl, rfl, rfl, rfl, rfl⟩
  · left
    rw [ownHealth]

structure PeerLogged (configured : Bool) (log : PeerLog) (monitor : PeerMonitor) (index : Fin 4) : Prop where
  lock : monitor.lock = true
  status : Summarises configured log (monitor.status index)
  runtime : RuntimeKeeps log (monitor.runtime index)

structure SamePeer (before after : PeerMonitor) (index : Fin 4) : Prop where
  lock : after.lock = before.lock
  status : after.status index = before.status index
  runtime : after.runtime index = before.runtime index

variable {monitor after : PeerMonitor} {index other : Fin 4}

theorem PeerLogged.keep (logged : PeerLogged configured log monitor index) (keeps : SamePeer monitor after index) :
    PeerLogged configured log after index :=
  ⟨keeps.lock.trans logged.lock, keeps.status ▸ logged.status, keeps.runtime ▸ logged.runtime⟩

theorem SamePeer.trans {last : PeerMonitor} (first : SamePeer monitor after index)
    (second : SamePeer after last index) : SamePeer monitor last index :=
  ⟨second.lock.trans first.lock, second.status.trans first.status, second.runtime.trans first.runtime⟩

theorem setStatus_keeps (ne : index ≠ other) (status : PeerStatus) :
    SamePeer monitor (monitor.setStatus other status) index :=
  ⟨rfl, Function.update_of_ne ne _ _, rfl⟩

theorem updateFailure_keeps (ne : index ≠ other) (requested : PeerHealth) (flags : FailureFlags) :
    SamePeer monitor (updateFailure monitor other requested flags) index := by
  rw [updateFailure]
  split
  · exact ⟨rfl, rfl, rfl⟩
  · exact setStatus_keeps ne _

theorem countKod_keeps (ne : index ≠ other) (response : Bytes) :
    SamePeer monitor (countKod monitor other response) index := by
  rw [countKod]
  split
  · exact ⟨rfl, rfl, rfl⟩
  · exact setStatus_keeps ne _

theorem updateSuccess_keeps (ne : index ≠ other) (packet : Bytes) (serverT3 : Nat) (offsetNs delayNs nowUs : Int) :
    SamePeer monitor (updateSuccess monitor other packet serverT3 offsetNs delayNs nowUs) index := by
  have runtime (runtime : PeerRuntime) : SamePeer monitor (monitor.setRuntime other runtime) index :=
    ⟨rfl, rfl, Function.update_of_ne ne _ _⟩
  rw [updateSuccess]
  dsimp only
  split
  · exact runtime _
  · exact (runtime _).trans (setStatus_keeps ne _)

theorem processResponse_keeps (ne : index ≠ other) (ctx : PollContext) (received : ReceiveOutcome)
    (readings : ResponseReadings) :
    SamePeer monitor (processResponse monitor other ctx received readings).1 index := by
  cases received with
  | wouldBlock => exact ⟨rfl, rfl, rfl⟩
  | failed => exact updateFailure_keeps ne _ _
  | datagram bytes source =>
      rw [processResponse]
      dsimp only
      cases readings.t4 with
      | none => exact updateFailure_keeps ne _ _
      | some t4 =>
          dsimp only
          split
          next => exact updateFailure_keeps ne _ _
          split
          next => exact (countKod_keeps ne _).trans (updateFailure_keeps ne _ _)
          unfold processMeasurement
          dsimp only
          split
          next => exact updateFailure_keeps ne _ _
          split
          next => exact updateFailure_keeps ne _ _
          split
          next => exact updateFailure_keeps ne _ _
          next => exact updateSuccess_keeps ne _ _ _ _ _

theorem PeerLogged.miss (logged : PeerLogged configured log monitor index) (requested : PeerHealth)
    (flags : FailureFlags) :
    PeerLogged configured (.missed requested flags :: log) (updateFailure monitor index requested flags) index := by
  have streak : u32 ((monitor.status index).consecutiveFailures + 1) =
      u32 (PeerLog.streak (.missed requested flags :: log)) := by
    have longer : PeerLog.streak (.missed requested flags :: log) = PeerLog.streak log + 1 := rfl
    rw [logged.status.streak, longer, u32, u32, u32, Nat.mod_add_mod]
  have fails : (updateFailure monitor index requested flags).status index = { monitor.status index with
      reachability := (monitor.status index).reachability * 2 % 256
      failedPolls := u32 ((monitor.status index).failedPolls + 1)
      consecutiveFailures := u32 ((monitor.status index).consecutiveFailures + 1)
      timeoutFailures := countIf flags.timeout (monitor.status index).timeoutFailures
      dnsFailures := countIf flags.dns (monitor.status index).dnsFailures
      rejectedResponses := countIf flags.rejected (monitor.status index).rejectedResponses
      duplicateResponses := countIf flags.duplicate (monitor.status index).duplicateResponses
      health := ownHealth configured (monitor.status index).jitterNs (.missed requested flags :: log) } := by
    rw [updateFailure, if_neg (not_not.mpr logged.lock), ownHealth, ← streak]
    exact Function.update_self _ _ _
  refine ⟨?_, ?_, ?_⟩
  · rw [updateFailure, if_neg (not_not.mpr logged.lock)]
    exact logged.lock
  · rw [fails]
    exact @Summarises.unheard _ _ _ logged.status (.missed requested flags) rfl _ rfl
  · have same : (updateFailure monitor index requested flags).runtime = monitor.runtime := by
      rw [updateFailure, if_neg (not_not.mpr logged.lock)]
      rfl
    rw [same]
    exact logged.runtime.unheard rfl

theorem PeerLogged.kiss (logged : PeerLogged configured log monitor index) (response : Bytes) :
    PeerLogged configured (.kissed response :: log)
      (updateFailure (countKod monitor index response) index .kod { rejected := true }) index := by
  have fails : updateFailure (countKod monitor index response) index .kod { rejected := true } =
      monitor.setStatus index { monitor.status index with
        reachability := (monitor.status index).reachability * 2 % 256
        failedPolls := u32 ((monitor.status index).failedPolls + 1)
        consecutiveFailures := u32 ((monitor.status index).consecutiveFailures + 1)
        rejectedResponses := u32 ((monitor.status index).rejectedResponses + 1)
        kodResponses := u32 ((monitor.status index).kodResponses + 1)
        referenceId := referenceIdToText response 0
        health := .kod } := by
    rw [countKod, if_neg (not_not.mpr logged.lock), updateFailure, PeerMonitor.setStatus_lock,
      if_neg (not_not.mpr logged.lock)]
    simp [PeerMonitor.setStatus, countIf]
  rw [fails]
  refine ⟨logged.lock, ?_, logged.runtime.unheard rfl⟩
  rw [PeerMonitor.setStatus_status, Function.update_self]
  exact @Summarises.unheard _ _ _ logged.status (.kissed response) rfl _ rfl

theorem PeerLogged.hear (logged : PeerLogged configured log monitor index) {exchange : PeerExchange}
    (fresh : ¬((monitor.runtime index).lastServerT3Valid = true ∧
      (monitor.runtime index).lastServerT3 = exchange.t3)) :
    PeerLogged configured (.heard exchange :: log) (updateSuccess monitor index exchange.response exchange.t3
      exchange.offsetNs exchange.delayNs exchange.nowUs) index := by
  have keeps := logged.runtime.hear fresh
  rw [updateSuccess, PeerMonitor.setRuntime_lock, if_neg (not_not.mpr logged.lock)]
  refine ⟨logged.lock, ?_, ?_⟩
  · simp only [PeerMonitor.setStatus_status, PeerMonitor.setRuntime_status, Function.update_self]
    apply Summarises.hear logged.status exchange
    rw [computeRollingStats_rings keeps.rings, ← PeerLog_window]
  · simp only [PeerMonitor.setStatus_runtime, PeerMonitor.setRuntime_runtime, Function.update_self]
    exact keeps

/-! ## A response of the peer -/

variable {answer : Option PollOutcome} {ctx : PollContext}

structure Settled (configured : Bool) (log : PeerLog) (answer : Option PollOutcome) (index : Fin 4)
    (monitor : PeerMonitor) : Prop where
  logged : ∃ outcome, answer = some outcome ∧ PeerLogged configured (outcome :: log) monitor index
  undiverged : (monitor.status index).health ≠ .divergent

theorem Settled.keep (settled : Settled configured log answer index monitor)
    (keeps : SamePeer monitor after index) : Settled configured log answer index after := by
  obtain ⟨⟨outcome, is, logged⟩, undiverged⟩ := settled
  rw [← keeps.status] at undiverged
  exact ⟨⟨outcome, is, logged.keep keeps⟩, undiverged⟩

theorem updateFailure_undiverged (lock : monitor.lock = true) (requested : PeerHealth) (flags : FailureFlags) :
    ((updateFailure monitor index requested flags).status index).health ≠ .divergent := by
  rw [updateFailure, if_neg (not_not.mpr lock), PeerMonitor.setStatus_status, Function.update_self]
  dsimp only
  split
  next named =>
    intro same
    simp [same] at named
  · split <;> simp

theorem updateSuccess_undiverged (lock : monitor.lock = true) (packet : Bytes) (serverT3 : Nat)
    (offsetNs delayNs nowUs : Int) :
    ((updateSuccess monitor index packet serverT3 offsetNs delayNs nowUs).status index).health ≠ .divergent := by
  rw [updateSuccess, PeerMonitor.setRuntime_lock, if_neg (not_not.mpr lock)]
  dsimp only
  rw [PeerMonitor.setStatus_status, Function.update_self]
  dsimp only
  split <;> simp

theorem PeerLogged.fail (logged : PeerLogged configured log monitor index) (requested : PeerHealth)
    (flags : FailureFlags) : Settled configured log (some (.missed requested flags)) index
      (updateFailure monitor index requested flags) :=
  ⟨⟨_, rfl, logged.miss requested flags⟩, updateFailure_undiverged logged.lock _ _⟩

theorem PeerLogged.kissed (logged : PeerLogged configured log monitor index) (response : Bytes) :
    Settled configured log (some (.kissed response)) index
      (updateFailure (countKod monitor index response) index .kod { rejected := true }) := by
  have counted : (countKod monitor index response).lock = true := by
    rw [countKod, if_neg (not_not.mpr logged.lock)]
    exact logged.lock
  exact ⟨⟨_, rfl, logged.kiss response⟩, updateFailure_undiverged counted _ _⟩

theorem not_wellFormed_iff (exchange : PeerExchange) : ¬exchange.WellFormed ↔
    byteAt exchange.response 0 / 8 % 8 < 3 ∨ byteAt exchange.response 0 % 8 ≠ 4 ∨
      byteAt exchange.response 0 / 64 = 3 ∨ byteAt exchange.response 1 > 15 ∨
      ¬originIs exchange.response exchange.t1 ∨ exchange.t2 = 0 ∨ exchange.t3 = 0 := by
  constructor
  · intro malformed
    by_contra fine
    simp only [not_or, not_not, not_lt] at fine
    obtain ⟨version, mode, leap, stratum, origin, received, transmitted⟩ := fine
    exact malformed ⟨version, mode, leap, stratum, origin, received, transmitted⟩
  · rintro refused ⟨version, mode, leap, stratum, origin, received, transmitted⟩
    simp [origin, mode, leap, received, transmitted] at refused
    omega

theorem RuntimeKeeps.duplicate_iff (keeps : RuntimeKeeps log runtime) (t3 : Nat) :
    runtime.lastServerT3Valid = true ∧ runtime.lastServerT3 = t3 ↔
      (PeerLog.exchanges log).head?.map PeerExchange.t3 = some t3 := by
  rw [keeps.valid]
  have last := keeps.last
  cases previous : (PeerLog.exchanges log).head? with
  | none => simp
  | some exchange => simp [last exchange previous]

theorem processMeasurement_eq (monitor : PeerMonitor) (index : Fin 4) (exchange : PeerExchange) :
    processMeasurement monitor index exchange.t1 exchange.t4 exchange.response exchange.nowUs =
      if ¬exchange.WellFormed then updateFailure monitor index .invalid { rejected := true }
      else if (monitor.runtime index).lastServerT3Valid ∧ (monitor.runtime index).lastServerT3 = exchange.t3 then
        updateFailure monitor index .invalid { rejected := true, duplicate := true }
      else if exchange.delayNs < 0 then updateFailure monitor index .invalid { rejected := true }
      else updateSuccess monitor index exchange.response exchange.t3 exchange.offsetNs exchange.delayNs
        exchange.nowUs :=
  if_congr (not_wellFormed_iff exchange).symm rfl rfl

theorem PeerLogged.processMeasurement (logged : PeerLogged configured log monitor index)
    (exchange : PeerExchange) (measured : byteAt exchange.response 1 ≠ 0) :
    Settled configured log (some (exchange.outcome (PeerLog.exchanges log).head?)) index
      (processMeasurement monitor index exchange.t1 exchange.t4 exchange.response exchange.nowUs) := by
  rw [processMeasurement_eq, PeerExchange.outcome, if_neg measured]
  split
  next => exact logged.fail _ _
  have duplicate := logged.runtime.duplicate_iff exchange.t3
  by_cases repeated : (PeerLog.exchanges log).head?.map PeerExchange.t3 = some exchange.t3
  · rw [if_pos repeated, if_pos (duplicate.mpr repeated)]
    exact logged.fail _ _
  · have fresh := duplicate.not.mpr repeated
    rw [if_neg repeated, if_neg fresh]
    split
    next => exact logged.fail _ _
    next => exact ⟨⟨_, rfl, logged.hear fresh⟩, updateSuccess_undiverged logged.lock _ _ _ _ _⟩

abbrev requestOf (ctx : PollContext) : PeerRequest := ⟨ctx.address, ctx.t1, ctx.deadlineUs⟩

theorem PeerLogged.processResponse (logged : PeerLogged configured log monitor index) (ctx : PollContext)
    (received : ReceiveOutcome) (readings : ResponseReadings) :
    processResponse monitor index ctx received readings = (monitor, ctx) ∧
        (requestOf ctx).receive (PeerLog.exchanges log).head? readings received = none ∨
      (processResponse monitor index ctx received readings).2 = finishContext ctx ∧
        Settled configured log ((requestOf ctx).receive (PeerLog.exchanges log).head? readings received) index
          (processResponse monitor index ctx received readings).1 := by
  cases received with
  | wouldBlock => exact .inl ⟨rfl, rfl⟩
  | failed => exact .inr ⟨rfl, logged.fail _ _⟩
  | datagram bytes source =>
      refine .inr ⟨rfl, ?_⟩
      rw [Model.processResponse, PeerRequest.receive]
      cases readings.t4 with
      | none => exact logged.fail _ _
      | some t4 =>
          dsimp only
          by_cases foreign : (bytes.take 256).length < ntpPeerPacketSize ∨ source ≠ ctx.address
          · rw [if_pos foreign, if_pos foreign]
            exact logged.fail _ _
          · rw [if_neg foreign, if_neg foreign]
            by_cases kissed : byteAt (bytes.take 256) 1 = 0
            · rw [if_pos kissed, PeerExchange.outcome, if_pos kissed]
              exact logged.kissed _
            · rw [if_neg kissed]
              exact logged.processMeasurement ⟨ctx.address, ctx.t1, t4, bytes.take 256, readings.nowUs⟩ kissed

end NtsTimeServer.Proof
