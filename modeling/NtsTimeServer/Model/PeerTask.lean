import NtsTimeServer.Model.PeerMonitor

/-!
# The task of the peer monitor

`monitor_task` with the synchronisation of the configuration and the aggregate over the peers. A server
name fits its buffer: those of the configuration have the same size.
-/

namespace NtsTimeServer.Model
open Lib

def ntpPeerDivergentNs : Int := 10000000
def ntpPeerConfigCheckMs : Nat := 1000

/-- What the task reads of `device_config_snapshot_t`. -/
structure PeerMonitorConfig where
  enabled : Bool
  pollIntervalSeconds : Nat
  responseTimeoutMs : Nat
  peers : Fin 4 → PeerConfig

/-- The fields of a peer that follow the configuration: three of `s_runtime`, two of `s_status.peers`. -/
structure PeerSlot where
  configValid : Bool
  enabled : Bool
  server : List Char
  configured : Bool
  statusServer : List Char
  deriving DecidableEq

structure PeerAggregate where
  healthyPeers : Nat
  crossPeerSpreadValid : Bool
  crossPeerSpreadNs : Int
  bestObservedPeerValid : Bool
  bestObservedPeerIndex : Nat
  deriving DecidableEq

/-- Where the task is: at the head of its loop, or waiting for the next turn. -/
inductive TaskPoint
  | top
  | waiting (waitedMs targetMs : Nat)
  deriving DecidableEq

structure PeerService where
  initialized : Bool
  running : Bool
  monitor : PeerMonitor
  slots : Fin 4 → PeerSlot
  enabled : Bool
  pollIntervalSeconds : Nat
  responseTimeoutMs : Nat
  pollCycles : Nat
  configuredPeers : Nat
  aggregate : PeerAggregate
  task : Option TaskPoint

def zeroSlot : PeerSlot := ⟨false, false, [], false, []⟩

/-- The variables before `main`, and with `lock` those that `ntp_peer_monitor_start` clears. -/
def zeroService (lock : Bool) : PeerService where
  initialized := lock
  running := false
  monitor := ⟨lock, fun _ => zeroStatus .disabled, fun _ => zeroRuntime⟩
  slots _ := zeroSlot
  enabled := false
  pollIntervalSeconds := 0
  responseTimeoutMs := 0
  pollCycles := 0
  configuredPeers := 0
  aggregate := ⟨0, false, 0, false, 0⟩
  task := none

/-! ## The configuration -/

def PeerService.resetSlot (s : PeerService) (index : Fin 4) (configured : Bool) (server : List Char) :
    PeerService :=
  let slot := s.slots index
  { s with
    monitor := resetPeerSlot s.monitor index configured
    slots := Function.update s.slots index {
      configValid := true
      enabled := configured
      server := server
      configured := if s.monitor.lock then configured else slot.configured
      statusServer := if s.monitor.lock then server else slot.statusServer } }

def PeerSlot.follows (slot : PeerSlot) (config : PeerConfig) : Bool :=
  slot.configValid && slot.enabled == config.configured && slot.server == config.server

/-- The body of the loop of `sync_config`, which also says whether something has changed. -/
def syncPeer (config : PeerMonitorConfig) (s : PeerService × Bool) (index : Fin 4) : PeerService × Bool :=
  if (s.1.slots index).follows (config.peers index) then s
  else (s.1.resetSlot index (config.peers index).configured (config.peers index).server, true)

def syncConfig (config : PeerMonitorConfig) (s : PeerService) : PeerService × Bool :=
  let (s, changed) := (List.finRange 4).foldl (syncPeer config) (s, false)
  if ¬s.monitor.lock then (s, changed)
  else
    let differs := s.enabled != config.enabled || s.pollIntervalSeconds != config.pollIntervalSeconds ||
      s.responseTimeoutMs != config.responseTimeoutMs
    ({ s with
      enabled := config.enabled
      pollIntervalSeconds := config.pollIntervalSeconds
      responseTimeoutMs := config.responseTimeoutMs
      configuredPeers := (List.finRange 4).countP fun index => (config.peers index).configured },
      changed || differs)

/-! ## The aggregate -/

def countsFor (configured : Bool) (peer : PeerStatus) : Bool :=
  configured && peer.samples != 0 && peer.health != .unreachable && peer.health != .kod &&
    peer.health != .invalid

def addScore (score term : Int) : Int := if score > 2 ^ 63 - 1 - term then 2 ^ 63 - 1 else score + term

def observationScore (peer : PeerStatus) : Int :=
  let delayScore := if peer.delayNs > 0 then peer.delayNs.tdiv 4 else 0
  addScore (addScore (absI64 peer.offsetNs) (absI64 peer.jitterNs)) delayScore

structure AggregateScan where
  minOffset : Int
  maxOffset : Int
  haveOffset : Bool
  sampled : Nat
  bestScore : Int
  bestValid : Bool
  bestIndex : Nat

def AggregateScan.add (scan : AggregateScan) (index : Fin 4) (peer : PeerStatus) : AggregateScan :=
  let offset := peer.offsetNs
  let score := observationScore peer
  let better : Bool := !scan.bestValid || score < scan.bestScore
  { minOffset := if !scan.haveOffset || offset < scan.minOffset then offset else scan.minOffset
    maxOffset := if !scan.haveOffset || offset > scan.maxOffset then offset else scan.maxOffset
    haveOffset := true
    sampled := scan.sampled + 1
    bestScore := if better then score else scan.bestScore
    bestValid := true
    bestIndex := if better then index.val else scan.bestIndex }

def successAge (nowUs : Int) (runtime : PeerRuntime) (age : Nat) : Nat :=
  if runtime.lastSuccessUs > 0 then
    let ageUs := nowUs - runtime.lastSuccessUs
    if ageUs > 0 then u32 (ageUs / 1000000).toNat else 0
  else age

def scanPeer (slots : Fin 4 → PeerSlot) (nowUs : Int) (s : PeerMonitor × AggregateScan) (index : Fin 4) :
    PeerMonitor × AggregateScan :=
  if ¬(slots index).configured then s
  else
    let peer := { s.1.status index with
      lastSuccessAgeSeconds :=
        successAge nowUs (s.1.runtime index) (s.1.status index).lastSuccessAgeSeconds }
    (s.1.setStatus index peer, if countsFor true peer then s.2.add index peer else s.2)

def divergePeer (slots : Fin 4 → PeerSlot) (monitor : PeerMonitor) (index : Fin 4) : PeerMonitor :=
  let peer := monitor.status index
  if countsFor (slots index).configured peer then monitor.setStatus index { peer with health := .divergent }
  else monitor

def refreshAggregateHealth (nowUs : Int) (s : PeerService) : PeerService :=
  if ¬s.monitor.lock then s
  else
    let (monitor, scan) := (List.finRange 4).foldl (scanPeer s.slots nowUs)
      (s.monitor, ⟨0, 0, false, 0, 2 ^ 63 - 1, false, 0⟩)
    let spreadValid := decide (scan.sampled ≥ 2)
    let spreadNs := if scan.sampled ≥ 2 then i64 (scan.maxOffset - scan.minOffset) else 0
    let monitor := if spreadValid ∧ spreadNs > ntpPeerDivergentNs then
      (List.finRange 4).foldl (divergePeer s.slots) monitor else monitor
    { s with
      monitor := monitor
      aggregate := {
        healthyPeers := (List.finRange 4).countP fun index => (monitor.status index).health == .healthy
        crossPeerSpreadValid := spreadValid
        crossPeerSpreadNs := spreadNs
        bestObservedPeerValid := scan.bestValid
        bestObservedPeerIndex := scan.bestIndex } }

/-! ## The task -/

inductive PeerEvent
  /-- `ntp_peer_monitor_start`, and whether the mutex and the task are created -/
  | start (mutex created : Bool)
  /-- a turn of the task up to its wait -/
  | pass (snapshot : Option PeerMonitorConfig) (begins : Fin 4 → BeginReadings) (turns : List TurnReadings)
    (nowUs : Int)
  /-- a turn of its wait -/
  | wait (snapshot : Option PeerMonitorConfig)

def ntpPeerMonitorStart (mutex created : Bool) (s : PeerService) : EspErr × PeerService :=
  if s.running then (.ok, s)
  else if ¬s.initialized ∧ ¬mutex then (.noMem, s)
  else
    let s := if s.initialized then s else zeroService true
    if ¬created then (.noMem, s) else (.ok, { s with running := true, task := some .top })

def waitOn (waitedMs targetMs : Nat) : TaskPoint := if waitedMs < targetMs then .waiting waitedMs targetMs else .top

def targetMs (config : PeerMonitorConfig) : Nat :=
  let interval := if config.pollIntervalSeconds ≥ 4 then config.pollIntervalSeconds else 16
  if config.enabled then u32 (interval * 1000) else ntpPeerConfigCheckMs

/-- A turn with its configuration. `none` while the poll is not over. -/
def monitorPass (config : PeerMonitorConfig) (begins : Fin 4 → BeginReadings) (turns : List TurnReadings)
    (nowUs : Int) (s : PeerService) : Option PeerService :=
  let (s, _) := syncConfig config s
  if config.enabled then
    let (ended, poll) := pollAllPeers s.monitor config.peers config.responseTimeoutMs begins turns
    if ended then
      some (refreshAggregateHealth nowUs { s with
        monitor := poll.monitor
        pollCycles := if poll.monitor.lock then u32 (s.pollCycles + 1) else s.pollCycles })
    else none
  else some (refreshAggregateHealth nowUs s)

def peerStep (s : PeerService) : PeerEvent → Option PeerService
  | .start mutex created => some (ntpPeerMonitorStart mutex created s).2
  | .pass snapshot begins turns nowUs =>
      if s.task = some .top then
        match snapshot with
        | none => some s
        | some config => (monitorPass config begins turns nowUs s).map fun s =>
            { s with task := some (waitOn 0 (targetMs config)) }
      else none
  | .wait snapshot =>
      match s.task with
      | some (.waiting waitedMs targetMs) =>
          let waitedMs := waitedMs + min ntpPeerConfigCheckMs (targetMs - waitedMs)
          match snapshot with
          | none => some { s with task := some (waitOn waitedMs targetMs) }
          | some latest =>
              let (s, changed) := syncConfig latest s
              some { s with task := some (if changed then .top else waitOn waitedMs targetMs) }
      | _ => none

end NtsTimeServer.Model
