import NtsTimeServer.Lib.Bytes
import NtsTimeServer.Model.Clock

/-!
# The peer monitor

`ntp_peer_monitor.c`: the poll of up to four NTP servers that are watched, never followed. What the
network, the clock and the timer answer is an input. The synchronisation of the configuration and
the aggregate over the peers are left out.
-/

namespace NtsTimeServer.Model
open Lib

def ntpPort : Nat := 123
def ntpPeerPacketSize : Nat := 48
def ntpPeerDegradedDelayNs : Int := 100000000
def ntpPeerDegradedJitterNs : Int := 5000000
def ntpPeerUnreachableFailures : Nat := 3
def ntpPeerRollingWindow : Nat := 16

inductive PeerHealth
  | disabled | unknown | healthy | degraded | unreachable | divergent | kod | invalid
  deriving DecidableEq, Repr

structure PeerStatus where
  health : PeerHealth
  reachability : Nat
  stratum : Nat
  leap : Nat
  referenceId : List Char
  offsetNs : Int
  delayNs : Int
  jitterNs : Int
  minOffsetNs : Int
  maxOffsetNs : Int
  meanOffsetNs : Int
  rmsOffsetNs : Int
  minDelayNs : Int
  meanDelayNs : Int
  rootDelay1616 : Int
  rootDispersion1616 : Nat
  successfulPolls : Nat
  failedPolls : Nat
  rejectedResponses : Nat
  duplicateResponses : Nat
  consecutiveFailures : Nat
  kodResponses : Nat
  dnsFailures : Nat
  timeoutFailures : Nat
  samples : Nat
  rollingSamples : Nat
  lastSuccessAgeSeconds : Nat
  deriving DecidableEq

structure PeerRuntime where
  offset : List Int
  delay : List Int
  count : Nat
  next : Nat
  lastServerT3 : Nat
  lastServerT3Valid : Bool
  lastSuccessUs : Int
  deriving DecidableEq

/-- `s_status.peers`, `s_runtime` and whether `s_lock` exists. -/
structure PeerMonitor where
  lock : Bool
  status : Fin 4 → PeerStatus
  runtime : Fin 4 → PeerRuntime

structure PeerAddress where
  address : Nat
  port : Nat
  deriving DecidableEq, Repr

/-- `poll_context_t`; `sock` is `none` for -1. -/
structure PollContext where
  sock : Option Nat
  active : Bool
  completed : Bool
  address : PeerAddress
  t1 : NtpTimestamp
  deadlineUs : Int
  deriving DecidableEq

def PeerMonitor.setStatus (monitor : PeerMonitor) (index : Fin 4) (status : PeerStatus) :
    PeerMonitor :=
  { monitor with status := Function.update monitor.status index status }

def PeerMonitor.setRuntime (monitor : PeerMonitor) (index : Fin 4) (runtime : PeerRuntime) :
    PeerMonitor :=
  { monitor with runtime := Function.update monitor.runtime index runtime }

section

variable (monitor : PeerMonitor) (index : Fin 4) (status : PeerStatus) (runtime : PeerRuntime)

@[simp] theorem PeerMonitor.setStatus_status :
    (monitor.setStatus index status).status = Function.update monitor.status index status := rfl

@[simp] theorem PeerMonitor.setStatus_runtime :
    (monitor.setStatus index status).runtime = monitor.runtime := rfl

@[simp] theorem PeerMonitor.setStatus_lock : (monitor.setStatus index status).lock = monitor.lock := rfl

@[simp] theorem PeerMonitor.setRuntime_runtime :
    (monitor.setRuntime index runtime).runtime = Function.update monitor.runtime index runtime := rfl

@[simp] theorem PeerMonitor.setRuntime_status :
    (monitor.setRuntime index runtime).status = monitor.status := rfl

@[simp] theorem PeerMonitor.setRuntime_lock :
    (monitor.setRuntime index runtime).lock = monitor.lock := rfl

end

/-! ## Arithmetic -/

def timestampToFixed (timestamp : NtpTimestamp) : Nat := timestamp.seconds * 2 ^ 32 + timestamp.fraction

def fixedDeltaNs (a b : Nat) : Int :=
  let delta := i64 (sub64 a b)
  let wholeSeconds := delta.tdiv 4294967296
  let fractional := delta.tmod 4294967296
  wholeSeconds * 1000000000 + (fractional * 1000000000).tdiv 4294967296

def absI64 (value : Int) : Int := if value = -2 ^ 63 then 2 ^ 63 - 1 else |value|

/-- The loop of `isqrt_u64` from the bit `4 ^ (turns - 1)` on. -/
def isqrtLoop : Nat → Nat → Nat → Nat
  | 0, _, result => result
  | turns + 1, value, result =>
      let bit := 4 ^ turns
      if value ≥ result + bit then isqrtLoop turns (value - (result + bit)) (result / 2 + bit)
      else isqrtLoop turns value (result / 2)

/-- The turns that are left when the bit is no longer above the value. -/
def isqrtTurns (value : Nat) : Nat → Nat
  | 0 => 0
  | turns + 1 => if 4 ^ turns > value then isqrtTurns value turns else turns + 1

def isqrtU64 (value : Nat) : Nat := isqrtLoop (isqrtTurns value 32) value 0

def divRoundI64 (numerator denominator : Int) : Int :=
  if denominator ≤ 0 then 0
  else if numerator ≥ 0 then (numerator + denominator.tdiv 2).tdiv denominator
  else -(-numerator + denominator.tdiv 2).tdiv denominator

def addSquare (sum : Nat) (value : Int) : Nat :=
  let magnitude := (absI64 value).toNat
  let square := if magnitude ≠ 0 ∧ magnitude > (2 ^ 64 - 1) / magnitude then 2 ^ 64 - 1
    else magnitude * magnitude
  if 2 ^ 64 - 1 - sum < square then 2 ^ 64 - 1 else sum + square

def hexDigit (value : Nat) : Char := "0123456789ABCDEF".toList.getD value '0'

def referenceIdToText (packet : Bytes) (stratum : Nat) : List Char :=
  let bytes := (packet.drop 12).take 4
  if stratum ≤ 1 then
    bytes.map fun byte =>
      if 0x20 ≤ byte.toNat ∧ byte.toNat ≤ 0x7E then Char.ofNat byte.toNat else '.'
  else bytes.flatMap fun byte => [hexDigit (byte.toNat / 16), hexDigit (byte.toNat % 16)]

/-- The counters that the last four arguments of `update_failure` select. -/
structure FailureFlags where
  timeout : Bool := false
  dns : Bool := false
  rejected : Bool := false
  duplicate : Bool := false

def countIf (flag : Bool) (counter : Nat) : Nat := if flag then u32 (counter + 1) else counter

def updateFailure (monitor : PeerMonitor) (index : Fin 4) (requested : PeerHealth)
    (flags : FailureFlags) : PeerMonitor :=
  if ¬monitor.lock then monitor
  else
    let peer := monitor.status index
    let consecutiveFailures := u32 (peer.consecutiveFailures + 1)
    monitor.setStatus index { peer with
      reachability := peer.reachability * 2 % 256
      failedPolls := u32 (peer.failedPolls + 1)
      consecutiveFailures := consecutiveFailures
      timeoutFailures := countIf flags.timeout peer.timeoutFailures
      dnsFailures := countIf flags.dns peer.dnsFailures
      rejectedResponses := countIf flags.rejected peer.rejectedResponses
      duplicateResponses := countIf flags.duplicate peer.duplicateResponses
      health :=
        if requested = .kod ∨ requested = .invalid then requested
        else if consecutiveFailures ≥ ntpPeerUnreachableFailures then .unreachable
        else .degraded }

def computeRollingStats (runtime : PeerRuntime) (peer : PeerStatus) : PeerStatus :=
  if runtime.count = 0 then peer
  else
    let offsets := runtime.offset.take runtime.count
    let delays := runtime.delay.take runtime.count
    let offsetSum := offsets.foldl (fun sum offset => i64 (sum + offset)) 0
    let delaySum := delays.foldl (fun sum delay => i64 (sum + delay)) 0
    let offsetSqSum := offsets.foldl addSquare 0
    let diffSqSum := (offsets.tail.zip offsets).foldl
      (fun sum (offset, earlier) => addSquare sum (i64 (offset - earlier))) 0
    { peer with
      rollingSamples := runtime.count
      minOffsetNs := offsets.foldl min (offsets.headD 0)
      maxOffsetNs := offsets.foldl max (offsets.headD 0)
      meanOffsetNs := divRoundI64 offsetSum runtime.count
      rmsOffsetNs := isqrtU64 (offsetSqSum / runtime.count)
      minDelayNs := delays.foldl min (delays.headD 0)
      meanDelayNs := divRoundI64 delaySum runtime.count
      jitterNs := if runtime.count > 1 then isqrtU64 (diffSqSum / (runtime.count - 1)) else 0 }

def recordSample (runtime : PeerRuntime) (serverT3 : Nat) (offsetNs delayNs nowUs : Int) :
    PeerRuntime :=
  let offset := runtime.offset.set runtime.next offsetNs
  let delay := runtime.delay.set runtime.next delayNs
  let next := (runtime.next + 1) % ntpPeerRollingWindow
  let count := if runtime.count < ntpPeerRollingWindow then runtime.count + 1 else runtime.count
  let wrapped := count = ntpPeerRollingWindow ∧ next ≠ 0
  { offset := if wrapped then offset.rotate next else offset
    delay := if wrapped then delay.rotate next else delay
    count := count
    next := if wrapped then 0 else next
    lastServerT3 := serverT3
    lastServerT3Valid := true
    lastSuccessUs := nowUs }

def updateSuccess (monitor : PeerMonitor) (index : Fin 4) (packet : Bytes) (serverT3 : Nat)
    (offsetNs delayNs nowUs : Int) : PeerMonitor :=
  let runtime := recordSample (monitor.runtime index) serverT3 offsetNs delayNs nowUs
  let monitor := monitor.setRuntime index runtime
  if ¬monitor.lock then monitor
  else
    let peer := monitor.status index
    let stratum := byteAt packet 1
    let peer := computeRollingStats runtime { peer with
      reachability := (peer.reachability * 2 + 1) % 256
      successfulPolls := u32 (peer.successfulPolls + 1)
      consecutiveFailures := 0
      samples := u32 (peer.samples + 1)
      stratum := stratum
      leap := byteAt packet 0 / 64
      rootDelay1616 := ((readBe32 packet 4 : Int) + 2 ^ 31) % 2 ^ 32 - 2 ^ 31
      rootDispersion1616 := readBe32 packet 8
      referenceId := referenceIdToText packet stratum
      offsetNs := offsetNs
      delayNs := delayNs
      lastSuccessAgeSeconds := 0 }
    monitor.setStatus index { peer with
      health := if delayNs > ntpPeerDegradedDelayNs ∨ peer.jitterNs > ntpPeerDegradedJitterNs
        then .degraded else .healthy }

def zeroStatus (health : PeerHealth) : PeerStatus :=
  { health, reachability := 0, stratum := 0, leap := 0, referenceId := [], offsetNs := 0, delayNs := 0,
    jitterNs := 0, minOffsetNs := 0, maxOffsetNs := 0, meanOffsetNs := 0, rmsOffsetNs := 0,
    minDelayNs := 0, meanDelayNs := 0, rootDelay1616 := 0, rootDispersion1616 := 0,
    successfulPolls := 0, failedPolls := 0, rejectedResponses := 0, duplicateResponses := 0,
    consecutiveFailures := 0, kodResponses := 0, dnsFailures := 0, timeoutFailures := 0, samples := 0,
    rollingSamples := 0, lastSuccessAgeSeconds := 0 }

def zeroRuntime : PeerRuntime :=
  { offset := List.replicate ntpPeerRollingWindow 0
    delay := List.replicate ntpPeerRollingWindow 0
    count := 0
    next := 0
    lastServerT3 := 0
    lastServerT3Valid := false
    lastSuccessUs := 0 }

def resetPeerSlot (monitor : PeerMonitor) (index : Fin 4) (configured : Bool) : PeerMonitor :=
  let monitor := monitor.setRuntime index zeroRuntime
  if ¬monitor.lock then monitor
  else monitor.setStatus index (zeroStatus (if configured then .unknown else .disabled))

def freshMonitor : PeerMonitor := ⟨true, fun _ => zeroStatus .unknown, fun _ => zeroRuntime⟩

/-! ## Responses -/

def finishContext (ctx : PollContext) : PollContext :=
  { ctx with sock := none, active := false, completed := true }

inductive ReceiveOutcome
  | datagram (bytes : Bytes) (source : PeerAddress)
  | wouldBlock
  | failed

structure ResponseReadings where
  t4 : Option NtpTimestamp
  nowUs : Int

def originIs (response : Bytes) (t1 : NtpTimestamp) : Bool :=
  readBe32 response 24 == t1.seconds && readBe32 response 28 == t1.fraction

/-- The second half of `process_response`, for a response that is no kiss of death. -/
def processMeasurement (monitor : PeerMonitor) (index : Fin 4) (t1 t4 : NtpTimestamp)
    (response : Bytes) (nowUs : Int) : PeerMonitor :=
  let li := byteAt response 0 / 64
  let version := byteAt response 0 / 8 % 8
  let mode := byteAt response 0 % 8
  let f1 := timestampToFixed t1
  let f2 := readBe64 response 32
  let f3 := readBe64 response 40
  let f4 := timestampToFixed t4
  if version < 3 ∨ mode ≠ 4 ∨ li = 3 ∨ byteAt response 1 > 15 ∨ ¬originIs response t1 ∨ f2 = 0 ∨
      f3 = 0 then updateFailure monitor index .invalid { rejected := true }
  else if (monitor.runtime index).lastServerT3Valid ∧ (monitor.runtime index).lastServerT3 = f3 then
    updateFailure monitor index .invalid { rejected := true, duplicate := true }
  else
    let a := fixedDeltaNs f2 f1
    let b := fixedDeltaNs f3 f4
    let offsetNs := a.tdiv 2 + b.tdiv 2 + (a.tmod 2 + b.tmod 2).tdiv 2
    let delayNs := fixedDeltaNs f4 f1 - fixedDeltaNs f3 f2
    if delayNs < 0 then updateFailure monitor index .invalid { rejected := true }
    else updateSuccess monitor index response f3 offsetNs delayNs nowUs

/-- What the branch for stratum 0 writes before it fails the poll. -/
def countKod (monitor : PeerMonitor) (index : Fin 4) (response : Bytes) : PeerMonitor :=
  if ¬monitor.lock then monitor
  else
    let peer := monitor.status index
    monitor.setStatus index { peer with
      kodResponses := u32 (peer.kodResponses + 1)
      referenceId := referenceIdToText response 0 }

def processResponse (monitor : PeerMonitor) (index : Fin 4) (ctx : PollContext)
    (received : ReceiveOutcome) (readings : ResponseReadings) : PeerMonitor × PollContext :=
  match received with
  | .wouldBlock => (monitor, ctx)
  | .failed => (updateFailure monitor index .degraded {}, finishContext ctx)
  | .datagram bytes source =>
      let response := bytes.take 256
      let monitor := match readings.t4 with
        | none => updateFailure monitor index .invalid { rejected := true }
        | some t4 =>
            if response.length < ntpPeerPacketSize ∨ source ≠ ctx.address then
              updateFailure monitor index .invalid { rejected := true }
            else if byteAt response 1 = 0 then
              updateFailure (countKod monitor index response) index .kod { rejected := true }
            else processMeasurement monitor index ctx.t1 t4 response readings.nowUs
      (monitor, finishContext ctx)

inductive SlotEvent
  | reset (index : Fin 4) (configured : Bool)
  | failure (index : Fin 4) (requested : PeerHealth) (flags : FailureFlags)
  | kod (index : Fin 4) (response : Bytes)
  | success (index : Fin 4) (packet : Bytes) (serverT3 : Nat) (offsetNs delayNs nowUs : Int)

def PeerMonitor.apply (monitor : PeerMonitor) : SlotEvent → PeerMonitor
  | .reset index configured => resetPeerSlot monitor index configured
  | .failure index requested flags => updateFailure monitor index requested flags
  | .kod index response => countKod monitor index response
  | .success index packet serverT3 offsetNs delayNs nowUs =>
      updateSuccess monitor index packet serverT3 offsetNs delayNs nowUs

/-! ## The poll -/

structure PeerConfig where
  enabled : Bool
  server : List Char
  deriving DecidableEq

def PeerConfig.configured (config : PeerConfig) : Bool := config.enabled && !config.server.isEmpty

/-- What one call of `begin_poll` is answered: the resolved address, the socket, T1, whether the
request is sent, and the time after that. -/
structure BeginReadings where
  address : Option Nat
  sock : Option Nat
  t1 : Option NtpTimestamp
  sent : Bool
  nowUs : Int

/-- How `select` ends; the peers whose sockets it reports readable. -/
inductive SelectOutcome
  | interrupted
  | failed
  | timeout
  | readable (peers : Fin 4 → Bool)

structure TurnReadings where
  nowUs : Int
  select : SelectOutcome
  received : Fin 4 → ReceiveOutcome
  responses : Fin 4 → ResponseReadings

/-- The variables of `poll_all_peers`, and every value that the contexts have had. -/
structure PollState where
  monitor : PeerMonitor
  contexts : Fin 4 → PollContext
  pending : Nat
  /-- latest first -/
  points : List (Fin 4 → PollContext)

def PollState.setContext (s : PollState) (index : Fin 4) (ctx : PollContext) : PollState :=
  { s with
    contexts := Function.update s.contexts index ctx
    points := Function.update s.contexts index ctx :: s.points }

def idleContext : PollContext := ⟨none, false, false, ⟨0, 0⟩, ⟨0, 0⟩, 0⟩

def pollStart (monitor : PeerMonitor) : PollState :=
  ⟨monitor, fun _ => idleContext, 0, [fun _ => idleContext]⟩

def PollState.fail (s : PollState) (index : Fin 4) (flags : FailureFlags) : PollState :=
  { s with monitor := updateFailure s.monitor index .degraded flags }

/-- `begin_poll`, and the `pending++` of its caller. -/
def beginPoll (s : PollState) (index : Fin 4) (timeoutMs : Nat) (readings : BeginReadings) :
    PollState :=
  match readings.address with
  | none => (s.setContext index idleContext).fail index { dns := true }
  | some address =>
      let ctx := { idleContext with address := ⟨address, ntpPort⟩ }
      match readings.sock with
      | none => (s.setContext index ctx).fail index {}
      | some sock =>
          let opened := { ctx with sock := some sock }
          let s := s.setContext index opened
          match readings.t1 with
          | none => (s.setContext index ctx).fail index {}
          | some t1 =>
              if ¬readings.sent then (s.setContext index { ctx with t1 := t1 }).fail index {}
              else { s.setContext index { opened with
                  t1 := t1
                  active := true
                  deadlineUs := readings.nowUs + timeoutMs * 1000 } with
                pending := s.pending + 1 }

def beginAll (config : Fin 4 → PeerConfig) (timeoutMs : Nat) (readings : Fin 4 → BeginReadings)
    (s : PollState) : PollState :=
  (List.finRange 4).foldl (fun s index =>
    if (config index).configured then beginPoll s index timeoutMs (readings index) else s) s

def PollState.finish (s : PollState) (index : Fin 4) : PollState :=
  { s.setContext index (finishContext (s.contexts index)) with pending := s.pending - 1 }

def expireAll (nowUs : Int) (s : PollState) : PollState :=
  (List.finRange 4).foldl (fun s index =>
    if (s.contexts index).active ∧ nowUs ≥ (s.contexts index).deadlineUs then
      (s.fail index { timeout := true }).finish index
    else s) s

def failAll (s : PollState) : PollState :=
  (List.finRange 4).foldl (fun s index =>
    if (s.contexts index).active then (s.fail index {}).finish index else s) s

def receiveAll (readable : Fin 4 → Bool) (readings : TurnReadings) (s : PollState) : PollState :=
  (List.finRange 4).foldl (fun s index =>
    if (s.contexts index).active ∧ readable index then
      let (monitor, ctx) := processResponse s.monitor index (s.contexts index)
        (readings.received index) (readings.responses index)
      let s := { s with monitor := monitor }.setContext index ctx
      if ctx.completed then { s with pending := s.pending - 1 } else s
    else s) s

/-- One turn of the loop of `poll_all_peers`, and whether it goes on. -/
def pollTurn (s : PollState) (readings : TurnReadings) : Bool × PollState :=
  let s := expireAll readings.nowUs s
  if s.pending = 0 ∨ ∀ index, (s.contexts index).active = false then (false, s)
  else match readings.select with
    | .interrupted | .timeout => (true, s)
    | .failed => (false, failAll s)
    | .readable peers => (true, receiveAll peers readings s)

def pollLoop : List TurnReadings → PollState → Bool × PollState
  | [], s => (decide (s.pending = 0), s)
  | readings :: rest, s =>
      if s.pending = 0 then (true, s)
      else
        let (goesOn, s) := pollTurn s readings
        if goesOn then pollLoop rest s else (true, s)

/-- `poll_all_peers`: whether it has returned after the turns, and its variables. -/
def pollAllPeers (monitor : PeerMonitor) (config : Fin 4 → PeerConfig) (timeoutMs : Nat)
    (begins : Fin 4 → BeginReadings) (turns : List TurnReadings) : Bool × PollState :=
  pollLoop turns (beginAll config timeoutMs begins (pollStart monitor))

end NtsTimeServer.Model
