import NtsTimeServer.Proof.PeerArithmetic
import NtsTimeServer.Proof.PeerTask
import NtsTimeServer.Proof.RollingStats

namespace NtsTimeServer.Proof
open Model Lib

variable {s t : PeerService} {config : PeerMonitorConfig} {index : Fin 4} {past : List PeerEvent}

def monitoredConfig : PeerMonitorConfig where
  enabled := true
  pollIntervalSeconds := 16
  responseTimeoutMs := 500
  peers _ := ⟨true, ['n', 't', 'p']⟩

def monitoredPass : PeerEvent :=
  .pass (some monitoredConfig) (fun _ => ⟨some 0xC0000201, some 54, some ⟨1000, 0⟩, true, 1000000⟩)
    [⟨1100000, .readable fun _ => true,
      fun index => .datagram (responseAt (if index.val = 3 then 233 else 232)) ⟨0xC0000201, ntpPort⟩,
      fun _ => ⟨some ⟨1000, 0⟩, 1200000⟩⟩]
    1300000

def monitoredEvents : List PeerEvent := [.start true true, monitoredPass]

def monitoredRun : Option PeerService :=
  execute peerStep (fun _ _ => True) (zeroService false) monitoredEvents

theorem monitoredRun_executes : monitoredRun.isSome = true := by decide +kernel

theorem peer_status_summarises (run : FreeRun peerStep (zeroService false) past s) (index : Fin 4) :
    ∃ log, logOf index (pollsOf index past) = some log ∧
      Summarises (configuredSlot (lastConfig past) index).configured log (s.monitor.status index) := by
  have sound := peer_run_sound run
  obtain ⟨log, logs, shows, -⟩ := sound.follows index
  rw [sound.slots] at shows
  exact ⟨log, logs, shows⟩

theorem monitored_status_summarises : ∃ log, logOf 3 (pollsOf 3 monitoredEvents.reverse) = some log ∧
    Summarises true log ((monitoredRun.get monitoredRun_executes).monitor.status 3) :=
  peer_status_summarises (execute_run (Option.some_get monitoredRun_executes).symm) 3

/-! ## Where the samples come from -/

theorem configuredSlot_kept (keeps : keepsPeer config index past = true) :
    configuredSlot (lastConfig past) index = configuredSlot (some config) index := by
  rw [← configuredSlot_follows] at keeps
  exact slot_of_follows (configuredSlot_coherent _ _) keeps

theorem pollsOf_server {poll : PollReadings} (mem : poll ∈ pollsOf index past) :
    poll.server = (configuredSlot (lastConfig past) index).server := by
  induction past with
  | nil => simp [pollsOf] at mem
  | cons event past ih =>
      have synced (config : PeerMonitorConfig)
          (mem : poll ∈ if keepsPeer config index past then pollsOf index past else []) :
          poll.server = (configuredSlot (some config) index).server := by
        split at mem
        next keeps =>
          rw [← configuredSlot_kept keeps]
          exact ih mem
        next => cases mem
      cases event with
      | start => exact ih mem
      | wait snapshot =>
          cases snapshot with
          | none => exact ih mem
          | some config => exact synced config mem
      | pass snapshot =>
          cases snapshot with
          | none => exact ih mem
          | some config =>
              rw [pollsOf] at mem
              split at mem
              next =>
                obtain rfl | mem := List.mem_cons.mp mem
                · rfl
                · exact synced config mem
              next => exact synced config mem

/-- The arrays of a peer hold its last sixteen exchanges. All are with the server that it has now, and no
response is counted twice in a row. -/
structure WindowFrom (past : List PeerEvent) (index : Fin 4) (log : PeerLog) (runtime : PeerRuntime) : Prop where
  kept : (runtime.offset.zip runtime.delay).take runtime.count = PeerLog.window log
  fresh : (PeerLog.exchanges log).IsChain fun later earlier => later.t3 ≠ earlier.t3
  served : ∀ exchange ∈ PeerLog.exchanges log, ∃ poll ∈ pollsOf index past,
    poll.server = (configuredSlot (lastConfig past) index).server ∧ HeardIn poll exchange

theorem peer_window_provenance (run : FreeRun peerStep (zeroService false) past s) (index : Fin 4) :
    ∃ log, logOf index (pollsOf index past) = some log ∧
      WindowFrom past index log (s.monitor.runtime index) := by
  obtain ⟨log, logs, -, keeps⟩ := (peer_run_sound run).follows index
  refine ⟨log, logs, ?_, keeps.fresh, ?_⟩
  · rw [PeerLog_window]
    exact keeps.rings.inOrder.kept
  · intro exchange mem
    obtain ⟨poll, member, heard⟩ := logOf_heard logs mem
    exact ⟨poll, member, pollsOf_server member, heard⟩

theorem monitored_window_provenance : ∃ log, logOf 3 (pollsOf 3 monitoredEvents.reverse) = some log ∧
    WindowFrom monitoredEvents.reverse 3 log ((monitoredRun.get monitoredRun_executes).monitor.runtime 3) :=
  peer_window_provenance (execute_run (Option.some_get monitoredRun_executes).symm) 3

/-! ## The peers together -/

theorem ownHealth_undiverged (configured : Bool) (jitterNs : Int) (log : PeerLog) :
    ownHealth configured jitterNs log ≠ .divergent := by
  unfold ownHealth
  split
  · split <;> simp
  · split <;> simp
  · simp
  · split
    next named =>
      intro same
      simp [same] at named
    · split <;> simp

theorem PassedTo.clear {begins : Fin 4 → BeginReadings} {turns : List TurnReadings} {nowUs : Int}
    {u : PeerService} (passed : PassedTo past config begins turns nowUs s u) (enabled : config.enabled = true)
    (index : Fin 4) : (u.monitor.status index).health ≠ .divergent := by
  cases configured : (config.peers index).configured with
  | true => exact passed.undiverged enabled index configured
  | false =>
      obtain ⟨log, -, shows, -⟩ := passed.follows index
      obtain own | ⟨-, counts⟩ := shows.health
      · rw [own]
        exact ownHealth_undiverged _ _ _
      · simp [countsFor, configured] at counts

theorem Refreshed.divergent_iff {u : PeerService} {after : PeerMonitor}
    (refreshed : Refreshed u (fun _ => diverges u) after) (clear : (u.monitor.status index).health ≠ .divergent) :
    (after.status index).health = .divergent ↔ index ∈ counted u ∧ diverges u = true := by
  obtain ⟨age, status⟩ := refreshed.status index
  have member : index ∈ counted u ↔ countsFor (u.slots index).configured (u.monitor.status index) = true := by
    simp [counted]
  rw [status, member]
  dsimp only
  split
  next both => simpa [and_comm] using both
  next neither =>
    constructor
    · exact fun diverged => (clear diverged).elim
    · intro both
      simp [both] at neither

/-- After each turn the aggregate is what the statuses say. If it has polled, exactly the peers that count are
divergent, and only where two of them are more than 10 ms apart. -/
theorem peer_divergence_exact (run : FreeRun peerStep (zeroService false) past s) {begins : Fin 4 → BeginReadings}
    {turns : List TurnReadings} {nowUs : Int}
    (taken : peerStep s (.pass (some config) begins turns nowUs) = some t) :
    AggregateExact t ∧ (config.enabled = true → ∀ index, (t.monitor.status index).health = .divergent ↔
      index ∈ counted t ∧ ∃ i ∈ counted t, ∃ j ∈ counted t, 10000000 < apart t i j) := by
  obtain ⟨-, u, passed, rfl⟩ := pass_cases (peer_run_sound run) taken
  obtain ⟨refreshed, exact⟩ := passed.refresh_exact
  refine ⟨⟨exact.healthy, exact.spreadValid, exact.spread, exact.alone, exact.best⟩, fun enabled index => ?_⟩
  have same : counted { refreshAggregateHealth nowUs u with
      task := some (waitOn 0 (targetMs config)) } = counted u := by
    apply counted_of_refreshed refreshed
    rw [refresh_frame]
  have unmoved (i j : Fin 4) : apart { refreshAggregateHealth nowUs u with
      task := some (waitOn 0 (targetMs config)) } i j = apart u i j := by
    unfold apart
    rw [(refreshed.same i).1, (refreshed.same j).1]
  have wide : diverges u = true ↔ ∃ i ∈ counted u, ∃ j ∈ counted u, 10000000 < apart u i j := by
    simp [diverges]
  simp only [same, unmoved, ← wide]
  exact refreshed.divergent_iff (passed.clear enabled index)

def startedService : PeerService := (ntpPeerMonitorStart true true (zeroService false)).2

theorem monitoredPass_taken : (peerStep startedService monitoredPass).isSome = true := by decide +kernel

theorem monitored_divergence_exact :
    AggregateExact ((peerStep startedService monitoredPass).get monitoredPass_taken) ∧
      (((peerStep startedService monitoredPass).get monitoredPass_taken).monitor.status 3).health = .divergent := by
  have run : FreeRun peerStep (zeroService false) [.start true true] startedService := .next .start trivial rfl
  exact ⟨(peer_divergence_exact run (Option.some_get monitoredPass_taken).symm).1, by decide +kernel⟩

/-! ## The offset of a peer -/

/-- An exchange with a server whose clock is `theta` ahead, in units of 2^-32 seconds: no message arrives before
it is sent. -/
structure Carried (exchange : PeerExchange) (theta : Int) (instants : Fin 4 → Int) : Prop where
  near : ∀ i j, |instants i - instants j| < 2 ^ 63
  t1 : exchange.t1 = timestampOf (instants 0)
  t2 : exchange.t2 = stampOf (instants 1)
  t3 : exchange.t3 = stampOf (instants 2)
  t4 : exchange.t4 = timestampOf (instants 3)
  there : instants 0 ≤ instants 1 - theta
  back : instants 2 - theta ≤ instants 3

theorem Carried.offset_error {exchange : PeerExchange} {theta : Int} {instants : Fin 4 → Int}
    (carried : Carried exchange theta instants) :
    |(exchange.offsetNs : ℚ) - exactNs theta| ≤ exchange.delayNs / 2 + 3 := by
  have offset := abs_le.mp (measuredOffsetNs_error instants carried.near)
  have delay := abs_le.mp (measuredDelayNs_error instants carried.near)
  have there : exactNs (instants 1 - instants 0) ≥ exactNs theta := exactNs_mono (by linarith [carried.there])
  have back : exactNs (instants 2 - instants 3) ≤ exactNs theta := exactNs_mono (by linarith [carried.back])
  rw [PeerExchange.offsetNs, PeerExchange.delayNs, carried.t1, carried.t2, carried.t3, carried.t4,
    timestampToFixed_timestampOf, timestampToFixed_timestampOf]
  have whole : exactNs ((instants 3 - instants 0) - (instants 2 - instants 1)) =
      exactNs (instants 1 - instants 0) - exactNs (instants 2 - instants 3) := by
    rw [← exactNs_sub]
    congr 1
    ring
  rw [exactNs_add] at offset
  rw [whole] at delay
  rw [abs_le]
  constructor <;> linarith

/-- The offset shown for a peer is wrong by at most half of the delay shown for it, and 3 ns of rounding. -/
theorem peer_offset_accurate (run : FreeRun peerStep (zeroService false) past s) (index : Fin 4) :
    ∃ log, logOf index (pollsOf index past) = some log ∧
      ∀ exchange ∈ (PeerLog.exchanges log).head?, ∀ theta instants, Carried exchange theta instants →
        |((s.monitor.status index).offsetNs : ℚ) - exactNs theta| ≤ (s.monitor.status index).delayNs / 2 + 3 := by
  obtain ⟨log, logs, shows, -⟩ := (peer_run_sound run).follows index
  refine ⟨log, logs, fun exchange last theta instants carried => ?_⟩
  rw [(shows.last exchange last).offset, (shows.last exchange last).delay]
  exact carried.offset_error

theorem monitoredLog_heard : (logOf 3 (pollsOf 3 monitoredEvents.reverse)).map
    (fun log => (PeerLog.exchanges log).length) = some 1 := by
  decide +kernel

theorem monitored_offset_accurate : ∃ log exchange,
    logOf 3 (pollsOf 3 monitoredEvents.reverse) = some log ∧ PeerLog.exchanges log = [exchange] ∧
      ∀ theta instants, Carried exchange theta instants →
        |(((monitoredRun.get monitoredRun_executes).monitor.status 3).offsetNs : ℚ) - exactNs theta| ≤
          ((monitoredRun.get monitoredRun_executes).monitor.status 3).delayNs / 2 + 3 := by
  obtain ⟨log, logs, accurate⟩ :=
    peer_offset_accurate (execute_run (Option.some_get monitoredRun_executes).symm) 3
  have heard := monitoredLog_heard
  rw [logs, Option.map_some, Option.some.injEq, List.length_eq_one_iff] at heard
  obtain ⟨exchange, only⟩ := heard
  exact ⟨log, exchange, logs, only, accurate exchange (by rw [only]; rfl)⟩

end NtsTimeServer.Proof
