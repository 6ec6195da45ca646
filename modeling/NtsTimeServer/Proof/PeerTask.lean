import NtsTimeServer.Lib.Run
import NtsTimeServer.Proof.PeerAggregate
import NtsTimeServer.Proof.PeerArithmetic
import NtsTimeServer.Proof.PeerPoll
import NtsTimeServer.Proof.SquareRoot

namespace NtsTimeServer.Proof
open Model Lib

variable {s t : PeerService} {config : PeerMonitorConfig} {index other : Fin 4} {past : List PeerEvent}

def configuredSlot : Option PeerMonitorConfig → Fin 4 → PeerSlot
  | none, _ => zeroSlot
  | some config, index => ⟨true, (config.peers index).configured, (config.peers index).server,
      (config.peers index).configured, (config.peers index).server⟩

theorem configuredSlot_coherent (last : Option PeerMonitorConfig) (index : Fin 4) :
    (configuredSlot last index).configured = (configuredSlot last index).enabled ∧
      (configuredSlot last index).statusServer = (configuredSlot last index).server := by
  cases last <;> exact ⟨rfl, rfl⟩

theorem configuredSlot_follows (config : PeerMonitorConfig) (index : Fin 4) (past : List PeerEvent) :
    (configuredSlot (lastConfig past) index).follows (config.peers index) = keepsPeer config index past := by
  unfold keepsPeer
  cases lastConfig past <;> rfl

theorem reset_logged {monitor : PeerMonitor} (lock : monitor.lock = true) (configured : Bool) :
    PeerLogged configured [] (resetPeerSlot monitor index configured) index := by
  have reset : resetPeerSlot monitor index configured = (monitor.setRuntime index zeroRuntime).setStatus index
      (zeroStatus (if configured then .unknown else .disabled)) := by
    simp [resetPeerSlot, lock]
  rw [reset]
  refine ⟨lock, ?_, ?_⟩
  · rw [PeerMonitor.setStatus_status, Function.update_self]
    constructor <;> simp [zeroStatus, PeerLog.exchanges, PeerLog.streak, u32, ownHealth]
    simp [PeerLog.window, PeerLog.exchanges, windowStats, computeRollingStats]
  · rw [PeerMonitor.setStatus_runtime, PeerMonitor.setRuntime_runtime, Function.update_self]
    refine ⟨Rings.reset, rfl, by simp [PeerLog.exchanges], by simp [PeerLog.exchanges]⟩

structure SlotSynced (s t : PeerService) (config : PeerMonitorConfig) (index : Fin 4) : Prop where
  slot : t.slots index = configuredSlot (some config) index
  kept : (s.slots index).follows (config.peers index) = true → SamePeer s.monitor t.monitor index
  reset : (s.slots index).follows (config.peers index) = false →
    PeerLogged (config.peers index).configured [] t.monitor index

structure SyncFrame (s t : PeerService) : Prop where
  lock : t.monitor.lock = s.monitor.lock
  initialized : t.initialized = s.initialized
  running : t.running = s.running
  cycles : t.pollCycles = s.pollCycles
  task : t.task = s.task

theorem SyncFrame.trans {u : PeerService} (first : SyncFrame s t) (second : SyncFrame t u) : SyncFrame s u :=
  ⟨second.lock.trans first.lock, second.initialized.trans first.initialized, second.running.trans first.running,
    second.cycles.trans first.cycles, second.task.trans first.task⟩

theorem resetPeerSlot_keeps {monitor : PeerMonitor} (ne : index ≠ other) (configured : Bool) :
    SamePeer monitor (resetPeerSlot monitor other configured) index := by
  have runtime : SamePeer monitor (monitor.setRuntime other zeroRuntime) index :=
    ⟨rfl, rfl, Function.update_of_ne ne _ _⟩
  rw [resetPeerSlot]
  split
  · exact runtime
  · exact runtime.trans (setStatus_keeps ne _)

theorem resetPeerSlot_lock (monitor : PeerMonitor) (index : Fin 4) (configured : Bool) :
    (resetPeerSlot monitor index configured).lock = monitor.lock := by
  rw [resetPeerSlot]
  split <;> rfl

theorem slot_of_follows {slot : PeerSlot} (same : slot.configured = slot.enabled ∧ slot.statusServer = slot.server)
    (follows : slot.follows (config.peers index) = true) : slot = configuredSlot (some config) index := by
  obtain ⟨configValid, enabled, server, configured, statusServer⟩ := slot
  simp only [PeerSlot.follows, Bool.and_eq_true, beq_iff_eq] at follows
  obtain ⟨⟨rfl, rfl⟩, rfl⟩ := follows
  dsimp only at same
  rw [same.1, same.2]
  rfl

structure SyncedTo (s : PeerService) (config : PeerMonitorConfig) (read : List (Fin 4)) (t : PeerService) :
    Prop where
  frame : SyncFrame s t
  done : ∀ index ∈ read, SlotSynced s t config index
  ahead : ∀ index ∉ read, t.slots index = s.slots index ∧ SamePeer s.monitor t.monitor index

theorem SyncedTo.step {read : List (Fin 4)} {changed : Bool} (lock : s.monitor.lock = true)
    (coherent : (s.slots index).configured = (s.slots index).enabled ∧
      (s.slots index).statusServer = (s.slots index).server)
    (synced : SyncedTo s config read t) (fresh : index ∉ read) :
    SyncedTo s config (read ++ [index]) (syncPeer config (t, changed) index).1 := by
  obtain ⟨slot, slotKept⟩ := synced.ahead index fresh
  rw [syncPeer, slot]
  split
  next follows =>
    refine ⟨synced.frame, ?_, fun other ahead => synced.ahead other (by simp_all)⟩
    simp only [List.forall_mem_append, List.forall_mem_singleton]
    refine ⟨synced.done, slot.trans (slot_of_follows coherent follows), fun _ => slotKept, ?_⟩
    intro resets
    rw [follows] at resets
    cases resets
  next resets =>
    have locked : t.monitor.lock = true := synced.frame.lock.trans lock
    have elsewhere (other : Fin 4) (ne : other ≠ index) :
        (t.resetSlot index (config.peers index).configured (config.peers index).server).slots other =
            t.slots other ∧
          SamePeer t.monitor
            (t.resetSlot index (config.peers index).configured (config.peers index).server).monitor other :=
      ⟨Function.update_of_ne ne _ _, resetPeerSlot_keeps ne _⟩
    refine ⟨synced.frame.trans ⟨resetPeerSlot_lock _ _ _, rfl, rfl, rfl, rfl⟩, ?_, ?_⟩
    · simp only [List.forall_mem_append, List.forall_mem_singleton]
      refine ⟨fun other member => ?_, ?_, fun follows => (resets follows).elim, fun _ => reset_logged locked _⟩
      · have ne : other ≠ index := by
          intro same
          subst same
          exact fresh member
        obtain ⟨same, kept⟩ := elsewhere other ne
        have done := synced.done other member
        exact ⟨same.trans done.slot, fun follows => (done.kept follows).trans kept,
          fun resets => (done.reset resets).keep kept⟩
      · simp [PeerService.resetSlot, locked, configuredSlot]
    · intro other ahead
      have apart : other ∉ read ∧ other ≠ index := by simpa using ahead
      obtain ⟨same, kept⟩ := elsewhere other apart.2
      obtain ⟨slot, before⟩ := synced.ahead other apart.1
      exact ⟨same.trans slot, before.trans kept⟩

def SettingsOf (s : PeerService) : Option PeerMonitorConfig → Prop
  | none => s.enabled = false ∧ s.pollIntervalSeconds = 0 ∧ s.responseTimeoutMs = 0 ∧ s.configuredPeers = 0
  | some config => s.enabled = config.enabled ∧ s.pollIntervalSeconds = config.pollIntervalSeconds ∧
      s.responseTimeoutMs = config.responseTimeoutMs ∧
      s.configuredPeers = (List.finRange 4).countP fun index => (config.peers index).configured

theorem syncConfig_synced (lock : s.monitor.lock = true) (last : Option PeerMonitorConfig)
    (slots : ∀ index, s.slots index = configuredSlot last index) :
    SyncFrame s (syncConfig config s).1 ∧ SettingsOf (syncConfig config s).1 (some config) ∧
      ∀ index, SlotSynced s (syncConfig config s).1 config index := by
  have coherent (index : Fin 4) : (s.slots index).configured = (s.slots index).enabled ∧
      (s.slots index).statusServer = (s.slots index).server := by
    rw [slots]
    exact configuredSlot_coherent last index
  have synced : SyncedTo s config (List.finRange 4)
      ((List.finRange 4).foldl (syncPeer config) (s, false)).1 := by
    refine foldl_rule (fun read (t : PeerService × Bool) => SyncedTo s config read t.1)
      ⟨⟨rfl, rfl, rfl, rfl, rfl⟩, by simp, fun _ _ => ⟨rfl, rfl, rfl, rfl⟩⟩ ?_
    intro read index rest t split synced
    exact synced.step lock (coherent index) fun member => lt_irrefl _ ((finRange_split split index).mp member)
  unfold syncConfig
  generalize (List.finRange 4).foldl (syncPeer config) (s, false) = result at synced
  obtain ⟨t, changed⟩ := result
  have locked : t.monitor.lock = true := synced.frame.lock.trans lock
  dsimp only at synced ⊢
  rw [if_neg (not_not.mpr locked)]
  refine ⟨synced.frame.trans ⟨rfl, rfl, rfl, rfl, rfl⟩, ⟨rfl, rfl, rfl, rfl⟩, fun index => ?_⟩
  have done := synced.done index (List.mem_finRange index)
  exact ⟨done.slot, done.kept, done.reset⟩

theorem addSquare_le {sum : Nat} (room : sum ≤ 2 ^ 64 - 1) (value : Int) : addSquare sum value ≤ 2 ^ 64 - 1 := by
  have capped (square : Nat) : (if 2 ^ 64 - 1 - sum < square then 2 ^ 64 - 1 else sum + square) ≤ 2 ^ 64 - 1 := by
    split <;> omega
  exact capped _

theorem isqrtU64_le {value : Nat} (fits : value ≤ 2 ^ 64 - 1) : isqrtU64 value ≤ 4294967296 := by
  rw [isqrtU64_eq_sqrt (by omega)]
  have root : Nat.sqrt value < 4294967296 := Nat.sqrt_lt'.mpr (by omega)
  exact root.le

theorem jitter_bounds {samples : List (Int × Int)} {peer : PeerStatus} (some : samples ≠ [])
    (statistics : windowStats samples peer = peer) : 0 ≤ peer.jitterNs ∧ peer.jitterNs ≤ 4294967296 := by
  have counts : samples.length ≠ 0 := by simpa using some
  unfold windowStats computeRollingStats at statistics
  rw [if_neg counts] at statistics
  rw [← statistics]
  dsimp only
  split
  next =>
    refine ⟨Int.natCast_nonneg _, ?_⟩
    norm_cast
    refine isqrtU64_le ((Nat.div_le_self _ _).trans ?_)
    exact foldl_rule (fun _ sum => sum ≤ 2 ^ 64 - 1) (by omega) fun _ _ _ _ _ room => addSquare_le room _
  next => exact ⟨le_rfl, by decide⟩

/-- The exchange is with the address that the server of the poll resolved to. -/
structure HeardIn (poll : PollReadings) (exchange : PeerExchange) : Prop where
  resolved : poll.begin.address = some exchange.address.address
  port : exchange.address.port = ntpPort
  sent : poll.begin.t1 = some exchange.t1
  delay : 0 ≤ exchange.delayNs

theorem outcome_heard {previous : Option PeerExchange} {exchange heard : PeerExchange}
    (outcome : exchange.outcome previous = .heard heard) : heard = exchange ∧ 0 ≤ exchange.delayNs := by
  unfold PeerExchange.outcome at outcome
  split_ifs at outcome with kissed malformed repeated negative
  cases outcome
  exact ⟨rfl, not_lt.mp negative⟩

theorem receive_heard {request : PeerRequest} {previous : Option PeerExchange} {readings : ResponseReadings}
    {received : ReceiveOutcome} {exchange : PeerExchange}
    (heard : request.receive previous readings received = some (.heard exchange)) :
    exchange.address = request.address ∧ exchange.t1 = request.t1 ∧ 0 ≤ exchange.delayNs := by
  cases received with
  | wouldBlock => cases heard
  | failed => cases heard
  | datagram bytes source =>
      rw [PeerRequest.receive, Option.some.injEq] at heard
      cases stamped : readings.t4 with
      | none => simp [stamped] at heard
      | some t4 =>
          simp only [stamped] at heard
          split at heard
          next => cases heard
          next =>
            obtain ⟨rfl, delay⟩ := outcome_heard heard
            exact ⟨rfl, rfl, delay⟩

theorem request?_eq {poll : PollReadings} {request : PeerRequest} (requested : poll.request? = some request) :
    poll.begin.address = some request.address.address ∧ request.address.port = ntpPort ∧
      poll.begin.t1 = some request.t1 := by
  simp only [PollReadings.request?, Option.bind_eq_bind, Option.bind_eq_some_iff] at requested
  obtain ⟨address, resolved, sock, -, t1, stamped, sent⟩ := requested
  split at sent
  next =>
    cases sent
    exact ⟨resolved, rfl, stamped⟩
  next => cases sent

theorem poll_heard {poll : PollReadings} {previous : Option PeerExchange} {exchange : PeerExchange}
    (heard : poll.outcome? index previous = some (.heard exchange)) : HeardIn poll exchange := by
  cases requested : poll.request? with
  | none => simp [PollReadings.outcome?, requested] at heard
  | some request =>
      rw [PollReadings.outcome?, requested] at heard
      obtain ⟨turn, -, heard⟩ := List.exists_of_findSome?_eq_some heard
      obtain ⟨resolved, port, sent⟩ := request?_eq requested
      have received : request.receive previous (turn.responses index) (turn.received index) =
          some (.heard exchange) := by
        unfold PeerRequest.turn at heard
        split at heard
        next => cases heard
        cases select : turn.select with
        | readable peers =>
            simp only [select] at heard
            split at heard
            next => exact heard
            next => cases heard
        | interrupted => simp [select] at heard
        | failed => simp [select] at heard
        | timeout => simp [select] at heard
      obtain ⟨address, t1, delay⟩ := receive_heard received
      exact ⟨address ▸ resolved, address ▸ port, t1 ▸ sent, delay⟩

theorem logOf_heard {polls : List PollReadings} {log : PeerLog} (logs : logOf index polls = some log)
    {exchange : PeerExchange} (mem : exchange ∈ PeerLog.exchanges log) :
    ∃ poll ∈ polls, HeardIn poll exchange := by
  induction polls generalizing log with
  | nil =>
      cases logs
      simp [PeerLog.exchanges] at mem
  | cons poll earlier ih =>
      simp only [logOf, Option.bind_eq_bind, Option.bind_eq_some_iff, Option.some.injEq] at logs
      obtain ⟨before, logs, outcome, is, rfl⟩ := logs
      have later (mem : exchange ∈ PeerLog.exchanges before) :
          ∃ poll' ∈ poll :: earlier, HeardIn poll' exchange := by
        obtain ⟨poll', member, heard⟩ := ih logs mem
        exact ⟨poll', List.mem_cons_of_mem _ member, heard⟩
      cases outcome with
      | heard other =>
          simp only [PeerLog.exchanges, List.filterMap_cons, PollOutcome.exchange?, List.mem_cons] at mem
          obtain rfl | mem := mem
          · exact ⟨poll, List.mem_cons_self, poll_heard is⟩
          · exact later mem
      | kissed => exact later mem
      | missed => exact later mem

theorem Summarises.bounded {configured : Bool} {log : PeerLog} {status : PeerStatus}
    (shows : Summarises configured log status) (valid : ∀ exchange ∈ PeerLog.exchanges log, 0 ≤ exchange.delayNs)
    (counts : countsFor configured status = true) : Bounded status := by
  have sampled : status.samples ≠ 0 := by
    simp only [countsFor, Bool.and_eq_true, bne_iff_ne] at counts
    exact counts.1.1.1.2
  cases exchanges : PeerLog.exchanges log with
  | nil =>
      rw [shows.samples, exchanges] at sampled
      exact (sampled rfl).elim
  | cons exchange rest =>
      have last := shows.last exchange (by rw [exchanges]; rfl)
      have delay := valid exchange (by simp [exchanges])
      have window : PeerLog.window log ≠ [] := by simp [PeerLog.window, exchanges, ntpPeerRollingWindow]
      refine ⟨?_, ?_, jitter_bounds window shows.statistics⟩
      · rw [last.offset, abs_le]
        exact measuredOffsetNs_bounds _ _ _ _
      · rw [last.delay]
        refine ⟨delay, ?_⟩
        have whole := fixedDeltaNs_bounds (timestampToFixed exchange.t4) (timestampToFixed exchange.t1)
        have server := fixedDeltaNs_bounds exchange.t3 exchange.t2
        unfold PeerExchange.delayNs measuredDelayNs
        omega

/-! ## A refresh of a peer -/

theorem Summarises.refresh {configured : Bool} {log : PeerLog} {status : PeerStatus}
    (shows : Summarises configured log status) (age : Nat) {health : PeerHealth}
    (verdict : health = status.health ∨ health = .divergent ∧ countsFor configured status = true) :
    Summarises configured log { status with
      lastSuccessAgeSeconds := age
      health := health } := by
  refine ⟨shows.reachability, shows.successes, shows.samples, shows.failures, shows.streak, shows.timeouts, shows.dns,
    shows.rejected, shows.duplicates, shows.kods, ?_, shows.reference,
    computeRollingStats_fixed shows.statistics ⟨rfl, rfl, rfl, rfl, rfl, rfl, rfl, rfl⟩, ?_⟩
  · intro exchange here
    have last := shows.last exchange here
    exact ⟨last.offset, last.delay, last.stratum, last.leap, last.rootDelay, last.rootDispersion⟩
  · obtain rfl | ⟨rfl, counts⟩ := verdict
    · exact shows.health
    · obtain own | ⟨-, counted⟩ := shows.health
      · refine Or.inr ⟨rfl, ?_⟩
        dsimp only
        rw [← own]
        exact counts
      · exact Or.inr ⟨rfl, counted⟩

theorem Refreshed.shows {diverging : Fin 4 → Bool} {after : PeerMonitor} (refreshed : Refreshed s diverging after)
    {log : PeerLog} (shows : Summarises (s.slots index).configured log (s.monitor.status index)) :
    Summarises (s.slots index).configured log (after.status index) := by
  obtain ⟨age, status⟩ := refreshed.status index
  rw [status]
  apply Summarises.refresh shows
  split
  next diverges => exact Or.inr ⟨rfl, (Bool.and_eq_true_iff.mp diverges).2⟩
  next => exact Or.inl rfl

/-! ## Runs -/

def cyclesOf : List PeerEvent → Nat
  | [] => 0
  | .pass (some config) .. :: past => cyclesOf past + config.enabled.toNat
  | .start .. :: past | .pass none .. :: past | .wait _ :: past => cyclesOf past

theorem unread_history (unread : lastConfig past = none) :
    cyclesOf past = 0 ∧ ∀ index, pollsOf index past = [] := by
  induction past with
  | nil => exact ⟨rfl, fun _ => rfl⟩
  | cons event past ih =>
      cases event with
      | start => exact ih unread
      | pass snapshot =>
          cases snapshot with
          | none => exact ih unread
          | some => cases unread
      | wait snapshot =>
          cases snapshot with
          | none => exact ih unread
          | some => cases unread

def FollowsPolls (past : List PollReadings) (configured : Bool) (monitor : PeerMonitor) (index : Fin 4) : Prop :=
  ∃ log, logOf index past = some log ∧ Summarises configured log (monitor.status index) ∧
    RuntimeKeeps log (monitor.runtime index)

structure PeerSound (past : List PeerEvent) (s : PeerService) : Prop where
  lock : s.monitor.lock = s.initialized
  running : s.running = s.task.isSome
  started : s.running = true → s.initialized = true
  unstarted : s.initialized = false → s = zeroService false ∧ lastConfig past = none
  slots : ∀ index, s.slots index = configuredSlot (lastConfig past) index
  settings : SettingsOf s (lastConfig past)
  cycles : s.pollCycles = u32 (cyclesOf past)
  follows : ∀ index, FollowsPolls (pollsOf index past) (s.slots index).configured s.monitor index

theorem zeroService_follows (lock : Bool) (index : Fin 4) : FollowsPolls [] false (zeroService lock).monitor index := by
  have logged := @reset_logged index ⟨true, fun _ => zeroStatus .disabled, fun _ => zeroRuntime⟩ rfl false
  have status : (zeroService lock).monitor.status index = (resetPeerSlot
      ⟨true, fun _ => zeroStatus .disabled, fun _ => zeroRuntime⟩ index false).status index := by
    simp [zeroService, resetPeerSlot]
  have runtime : (zeroService lock).monitor.runtime index = (resetPeerSlot
      ⟨true, fun _ => zeroStatus .disabled, fun _ => zeroRuntime⟩ index false).runtime index := by
    simp [zeroService, resetPeerSlot]
  rw [FollowsPolls, status, runtime]
  exact ⟨[], rfl, logged.status, logged.runtime⟩

theorem zeroService_sound (lock : Bool) (unread : lastConfig past = none) : PeerSound past (zeroService lock) := by
  obtain ⟨cycles, polls⟩ := unread_history unread
  refine ⟨rfl, rfl, by simp [zeroService], ?_, ?_, ?_, ?_, ?_⟩
  · intro uninitialized
    cases uninitialized
    exact ⟨rfl, unread⟩
  · intro index
    rw [unread]
    rfl
  · rw [unread]
    exact ⟨rfl, rfl, rfl, rfl⟩
  · rw [cycles]
    rfl
  · intro index
    rw [polls]
    exact zeroService_follows lock index

theorem synced_follows (sound : PeerSound past s) (lock : s.monitor.lock = true) (config : PeerMonitorConfig)
    (index : Fin 4) : FollowsPolls (if keepsPeer config index past then pollsOf index past else [])
      (config.peers index).configured (syncConfig config s).1.monitor index := by
  obtain ⟨-, -, synced⟩ := @syncConfig_synced s config lock (lastConfig past) sound.slots
  have slot := synced index
  rw [← configuredSlot_follows, ← sound.slots]
  cases follows : (s.slots index).follows (config.peers index) with
  | true =>
      obtain ⟨log, logs, shows, keeps⟩ := sound.follows index
      have kept := slot.kept follows
      have coherent : (s.slots index).configured = (s.slots index).enabled ∧
          (s.slots index).statusServer = (s.slots index).server := by
        rw [sound.slots]
        exact configuredSlot_coherent _ index
      have configured : (s.slots index).configured = (config.peers index).configured :=
        congrArg PeerSlot.configured (slot_of_follows coherent follows)
      rw [configured] at shows
      refine ⟨log, logs, ?_, ?_⟩
      · rw [kept.status]
        exact shows
      · rw [kept.runtime]
        exact keeps
  | false =>
      have logged := slot.reset follows
      exact ⟨[], rfl, logged.status, logged.runtime⟩

theorem waited_sound (sound : PeerSound past s) (running : s.running = true) (config : PeerMonitorConfig)
    (point : TaskPoint) :
    PeerSound (.wait (some config) :: past) { (syncConfig config s).1 with task := some point } := by
  have initialized := sound.started running
  have lock : s.monitor.lock = true := sound.lock.trans initialized
  obtain ⟨frame, settings, synced⟩ := @syncConfig_synced s config lock (lastConfig past) sound.slots
  refine ⟨(frame.lock.trans sound.lock).trans frame.initialized.symm, frame.running.trans running,
    fun _ => frame.initialized.trans initialized, ?_, fun index => (synced index).slot, settings,
    frame.cycles.trans sound.cycles, ?_⟩
  · intro uninitialized
    rw [frame.initialized, initialized] at uninitialized
    cases uninitialized
  · intro index
    dsimp only
    rw [(synced index).slot]
    exact synced_follows sound lock config index

structure PassedTo (past : List PeerEvent) (config : PeerMonitorConfig) (begins : Fin 4 → BeginReadings)
    (turns : List TurnReadings) (nowUs : Int) (s u : PeerService) : Prop where
  lock : u.monitor.lock = true
  initialized : u.initialized = s.initialized
  running : u.running = s.running
  slots : ∀ index, u.slots index = configuredSlot (some config) index
  settings : SettingsOf u (some config)
  cycles : u.pollCycles = u32 (cyclesOf past + config.enabled.toNat)
  follows : ∀ index, FollowsPolls (pollsOf index (.pass (some config) begins turns nowUs :: past))
    (config.peers index).configured u.monitor index
  undiverged : config.enabled = true → ∀ index, (config.peers index).configured = true →
    (u.monitor.status index).health ≠ .divergent

theorem polled_follows {begins : Fin 4 → BeginReadings} {turns : List TurnReadings} (nowUs : Int)
    (enabled : config.enabled = true) {monitor : PeerMonitor} (lock : monitor.lock = true)
    (before : FollowsPolls (if keepsPeer config index past then pollsOf index past else [])
      (config.peers index).configured monitor index)
    (ended : (pollAllPeers monitor config.peers config.responseTimeoutMs begins turns).1 = true) :
    (pollAllPeers monitor config.peers config.responseTimeoutMs begins turns).2.monitor.lock = true ∧
      FollowsPolls (pollsOf index (.pass (some config) begins turns nowUs :: past))
        (config.peers index).configured
        (pollAllPeers monitor config.peers config.responseTimeoutMs begins turns).2.monitor index ∧
      ((config.peers index).configured = true →
        ((pollAllPeers monitor config.peers config.responseTimeoutMs begins turns).2.monitor.status
          index).health ≠ .divergent) := by
  obtain ⟨log, logs, shows, keeps⟩ := before
  have logged := pollAllPeers_logged ended ⟨lock, shows, keeps⟩
  split at logged
  next configured =>
    obtain ⟨⟨outcome, is, logged⟩, undiverged⟩ := logged
    refine ⟨logged.lock, ⟨outcome :: log, ?_, logged.status, logged.runtime⟩, fun _ => undiverged⟩
    rw [pollsOf, if_pos ⟨enabled, configured⟩]
    simp [logOf, logs, is]
  next unconfigured =>
    refine ⟨logged.lock, ⟨log, ?_, logged.status, logged.runtime⟩,
      fun configured => (unconfigured configured).elim⟩
    rw [pollsOf, if_neg fun both => unconfigured both.2]
    exact logs

theorem monitorPass_passed (sound : PeerSound past s) (lock : s.monitor.lock = true)
    {begins : Fin 4 → BeginReadings} {turns : List TurnReadings} {nowUs : Int}
    (taken : monitorPass config begins turns nowUs s = some t) :
    ∃ u, PassedTo past config begins turns nowUs s u ∧ t = refreshAggregateHealth nowUs u := by
  obtain ⟨frame, settings, synced⟩ := @syncConfig_synced s config lock (lastConfig past) sound.slots
  have before := synced_follows sound lock config
  unfold monitorPass at taken
  generalize syncConfig config s = result at frame settings synced before taken
  obtain ⟨u, changed⟩ := result
  dsimp only at frame settings synced before taken
  have locked : u.monitor.lock = true := frame.lock.trans lock
  split at taken
  next enabled =>
    cases poll : pollAllPeers u.monitor config.peers config.responseTimeoutMs begins turns with
    | mk ended polled =>
        rw [poll] at taken
        dsimp only at taken
        split at taken
        next finished =>
          cases taken
          subst finished
          have ended : (pollAllPeers u.monitor config.peers config.responseTimeoutMs begins turns).1 = true := by
            rw [poll]
          have after (index : Fin 4) := polled_follows nowUs enabled locked (before index) ended
          rw [poll] at after
          refine ⟨{ u with
            monitor := polled.monitor
            pollCycles := if polled.monitor.lock then u32 (u.pollCycles + 1) else u.pollCycles },
            ⟨(after 0).1, frame.initialized, frame.running, fun index => (synced index).slot, settings, ?_,
              fun index => (after index).2.1, fun _ index => (after index).2.2⟩, rfl⟩
          dsimp only
          rw [if_pos (after 0).1, frame.cycles, sound.cycles, enabled, u32, u32, u32, Nat.mod_add_mod]
          rfl
        next => cases taken
  next disabled =>
    cases taken
    have off : config.enabled = false := by simpa using disabled
    refine ⟨u, ⟨locked, frame.initialized, frame.running, fun index => (synced index).slot, settings, ?_, ?_, ?_⟩,
      rfl⟩
    · rw [frame.cycles, sound.cycles, off]
      rfl
    · intro index
      rw [pollsOf, if_neg fun both => disabled both.1]
      exact before index
    · intro enabled
      exact (disabled enabled).elim

theorem refresh_frame (nowUs : Int) (u : PeerService) : refreshAggregateHealth nowUs u = { u with
    monitor := (refreshAggregateHealth nowUs u).monitor
    aggregate := (refreshAggregateHealth nowUs u).aggregate } := by
  rw [refreshAggregateHealth]
  split <;> rfl

section

variable {begins : Fin 4 → BeginReadings} {turns : List TurnReadings} {nowUs : Int} {u : PeerService}

theorem PassedTo.refresh_exact (passed : PassedTo past config begins turns nowUs s u) :
    Refreshed u (fun _ => diverges u) (refreshAggregateHealth nowUs u).monitor ∧
      AggregateExact (refreshAggregateHealth nowUs u) := by
  apply Proof.refresh_exact passed.lock
  intro index mem
  obtain ⟨log, logs, shows, -⟩ := passed.follows index
  have counts := (List.mem_filter.mp mem).2
  rw [passed.slots] at counts
  refine Summarises.bounded shows (fun exchange mem => ?_) counts
  obtain ⟨poll, -, heard⟩ := logOf_heard logs mem
  exact heard.delay

theorem PassedTo.sound (passed : PassedTo past config begins turns nowUs s u) (sound : PeerSound past s)
    (running : s.running = true) (point : TaskPoint) : PeerSound (.pass (some config) begins turns nowUs :: past)
      { refreshAggregateHealth nowUs u with task := some point } := by
  have initialized := sound.started running
  obtain ⟨refreshed, -⟩ := passed.refresh_exact
  rw [refresh_frame]
  refine ⟨?_, passed.running.trans running, fun _ => passed.initialized.trans initialized, ?_, passed.slots,
    passed.settings, passed.cycles, ?_⟩
  · exact (refreshed.lock.trans passed.lock).trans (passed.initialized.trans initialized).symm
  · intro uninitialized
    rw [passed.initialized, initialized] at uninitialized
    cases uninitialized
  · intro index
    obtain ⟨log, logs, shows, keeps⟩ := passed.follows index
    have configured : (u.slots index).configured = (config.peers index).configured := by
      rw [passed.slots]
      rfl
    rw [← configured] at shows
    refine ⟨log, logs, refreshed.shows shows, ?_⟩
    dsimp only
    rw [refreshed.runtime]
    exact keeps

end

theorem pass_cases (sound : PeerSound past s) {begins : Fin 4 → BeginReadings} {turns : List TurnReadings}
    {nowUs : Int} (taken : peerStep s (.pass (some config) begins turns nowUs) = some t) :
    s.running = true ∧ ∃ u, PassedTo past config begins turns nowUs s u ∧
      t = { refreshAggregateHealth nowUs u with task := some (waitOn 0 (targetMs config)) } := by
  unfold peerStep at taken
  dsimp only at taken
  split at taken
  next top =>
    have running : s.running = true := by rw [sound.running, top, Option.isSome_some]
    obtain ⟨v, passes, rfl⟩ := Option.map_eq_some_iff.mp taken
    obtain ⟨u, passed, rfl⟩ := monitorPass_passed sound (sound.lock.trans (sound.started running)) passes
    exact ⟨running, u, passed, rfl⟩
  next => cases taken

theorem peerStep_sound (sound : PeerSound past s) {event : PeerEvent} (taken : peerStep s event = some t) :
    PeerSound (event :: past) t := by
  cases event with
  | start mutex created =>
      cases taken
      have same : PeerSound (.start mutex created :: past) s := ⟨sound.lock, sound.running, sound.started,
        sound.unstarted, sound.slots, sound.settings, sound.cycles, sound.follows⟩
      rw [ntpPeerMonitorStart]
      split
      next => exact same
      split
      next => exact same
      have begun : PeerSound (.start mutex created :: past) (if s.initialized then s else zeroService true) := by
        split
        next => exact same
        next uninitialized =>
          exact zeroService_sound true (sound.unstarted (Bool.eq_false_iff.mpr uninitialized)).2
      have initialized : (if s.initialized then s else zeroService true).initialized = true := by
        split
        next initialized => exact initialized
        next => rfl
      dsimp only
      split
      next => exact begun
      next =>
        refine ⟨begun.lock, rfl, fun _ => initialized, ?_, begun.slots, begun.settings, begun.cycles, begun.follows⟩
        intro uninitialized
        rw [initialized] at uninitialized
        cases uninitialized
  | pass snapshot begins turns nowUs =>
      cases snapshot with
      | none =>
          unfold peerStep at taken
          dsimp only at taken
          split at taken
          next =>
            cases taken
            exact ⟨sound.lock, sound.running, sound.started, sound.unstarted, sound.slots, sound.settings,
              sound.cycles, sound.follows⟩
          next => cases taken
      | some config =>
          obtain ⟨running, u, passed, rfl⟩ := pass_cases sound taken
          exact passed.sound sound running _
  | wait snapshot =>
      unfold peerStep at taken
      dsimp only at taken
      split at taken
      next waitedMs targetMs waiting =>
        have running : s.running = true := by rw [sound.running, waiting, Option.isSome_some]
        have unstarted (uninitialized : s.initialized = false) : False := by
          rw [sound.started running] at uninitialized
          cases uninitialized
        cases snapshot with
        | none =>
            cases taken
            exact ⟨sound.lock, running, sound.started, fun uninitialized => (unstarted uninitialized).elim,
              sound.slots, sound.settings, sound.cycles, sound.follows⟩
        | some config =>
            cases taken
            exact waited_sound sound running config _
      next => cases taken

theorem peer_run_sound (run : FreeRun peerStep (zeroService false) past s) : PeerSound past s :=
  run.invariant PeerSound (zeroService_sound false rfl) fun _ _ _ _ sound _ taken => peerStep_sound sound taken

end NtsTimeServer.Proof
