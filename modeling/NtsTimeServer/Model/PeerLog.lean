import NtsTimeServer.Model.PeerMeasurement
import NtsTimeServer.Model.PeerTask

/-!
# What the peer monitor is for

A log of the polls of each peer since the peer was configured last, and the status as a summary of it.
Logs have the latest entry first.
-/

namespace NtsTimeServer.Model
open Lib

structure PeerExchange where
  address : PeerAddress
  t1 : NtpTimestamp
  t4 : NtpTimestamp
  response : Bytes
  nowUs : Int

namespace PeerExchange

variable (exchange : PeerExchange)

def t2 : Nat := readBe64 exchange.response 32

def t3 : Nat := readBe64 exchange.response 40

def offsetNs : Int :=
  measuredOffsetNs (timestampToFixed exchange.t1) exchange.t2 exchange.t3 (timestampToFixed exchange.t4)

def delayNs : Int :=
  measuredDelayNs (timestampToFixed exchange.t1) exchange.t2 exchange.t3 (timestampToFixed exchange.t4)

/-- What a response must be to be measured. -/
structure WellFormed : Prop where
  version : 3 ≤ byteAt exchange.response 0 / 8 % 8
  mode : byteAt exchange.response 0 % 8 = 4
  leap : byteAt exchange.response 0 / 64 ≠ 3
  stratum : byteAt exchange.response 1 ≤ 15
  origin : originIs exchange.response exchange.t1 = true
  received : exchange.t2 ≠ 0
  transmitted : exchange.t3 ≠ 0

instance : Decidable exchange.WellFormed :=
  decidable_of_iff (3 ≤ byteAt exchange.response 0 / 8 % 8 ∧ byteAt exchange.response 0 % 8 = 4 ∧
      byteAt exchange.response 0 / 64 ≠ 3 ∧ byteAt exchange.response 1 ≤ 15 ∧
      originIs exchange.response exchange.t1 = true ∧ exchange.t2 ≠ 0 ∧ exchange.t3 ≠ 0)
    (by
      constructor
      · rintro ⟨version, mode, leap, stratum, origin, received, transmitted⟩
        exact ⟨version, mode, leap, stratum, origin, received, transmitted⟩
      · rintro ⟨version, mode, leap, stratum, origin, received, transmitted⟩
        exact ⟨version, mode, leap, stratum, origin, received, transmitted⟩)

end PeerExchange

inductive PollOutcome
  | heard (exchange : PeerExchange)
  | kissed (response : Bytes)
  | missed (requested : PeerHealth) (flags : FailureFlags)

namespace PollOutcome

def exchange? : PollOutcome → Option PeerExchange
  | heard exchange => some exchange
  | kissed _ | missed .. => none

def isHeard (outcome : PollOutcome) : Bool := outcome.exchange?.isSome

def isKissed : PollOutcome → Bool
  | kissed _ => true
  | heard _ | missed .. => false

def reference? : PollOutcome → Option (List Char)
  | heard exchange => some (referenceIdToText exchange.response (byteAt exchange.response 1))
  | kissed response => some (referenceIdToText response 0)
  | missed .. => none

def flags : PollOutcome → FailureFlags
  | heard _ => {}
  | kissed _ => { rejected := true }
  | missed _ flags => flags

end PollOutcome

abbrev PeerLog := List PollOutcome

namespace PeerLog

variable (log : PeerLog)

def exchanges : List PeerExchange := log.filterMap PollOutcome.exchange?

def window : List (Int × Int) :=
  ((exchanges log).take ntpPeerRollingWindow).reverse.map fun exchange => (exchange.offsetNs, exchange.delayNs)

def streak : Nat := (log.takeWhile fun outcome => !outcome.isHeard).length

end PeerLog

def windowStats (samples : List (Int × Int)) (peer : PeerStatus) : PeerStatus :=
  computeRollingStats { zeroRuntime with
    offset := samples.map Prod.fst
    delay := samples.map Prod.snd
    count := samples.length } peer

/-- The health of a peer by its last outcome, whatever the other peers say. -/
def ownHealth (configured : Bool) (jitterNs : Int) (log : PeerLog) : PeerHealth :=
  match log with
  | [] => if configured then .unknown else .disabled
  | .heard exchange :: _ =>
      if exchange.delayNs > ntpPeerDegradedDelayNs ∨ jitterNs > ntpPeerDegradedJitterNs then .degraded
      else .healthy
  | .kissed _ :: _ => .kod
  | .missed requested _ :: _ =>
      if requested = .kod ∨ requested = .invalid then requested
      else if u32 (PeerLog.streak log) ≥ ntpPeerUnreachableFailures then .unreachable
      else .degraded

/-- The part of the status that the last exchange alone decides. -/
structure LastExchange (status : PeerStatus) (exchange : PeerExchange) : Prop where
  offset : status.offsetNs = exchange.offsetNs
  delay : status.delayNs = exchange.delayNs
  stratum : status.stratum = byteAt exchange.response 1
  leap : status.leap = byteAt exchange.response 0 / 64
  rootDelay : status.rootDelay1616 = ((readBe32 exchange.response 4 : Int) + 2 ^ 31) % 2 ^ 32 - 2 ^ 31
  rootDispersion : status.rootDispersion1616 = readBe32 exchange.response 8

/-- The status of a peer as a summary of its log; the counters have 32 bits. -/
structure Summarises (configured : Bool) (log : PeerLog) (status : PeerStatus) : Prop where
  reachability : ∀ bit, status.reachability.testBit bit =
    (decide (bit < 8) && (log[bit]?.map PollOutcome.isHeard).getD false)
  successes : status.successfulPolls = u32 (PeerLog.exchanges log).length
  samples : status.samples = u32 (PeerLog.exchanges log).length
  failures : status.failedPolls = u32 (log.countP fun outcome => !outcome.isHeard)
  streak : status.consecutiveFailures = u32 (PeerLog.streak log)
  timeouts : status.timeoutFailures = u32 (log.countP fun outcome => outcome.flags.timeout)
  dns : status.dnsFailures = u32 (log.countP fun outcome => outcome.flags.dns)
  rejected : status.rejectedResponses = u32 (log.countP fun outcome => outcome.flags.rejected)
  duplicates : status.duplicateResponses = u32 (log.countP fun outcome => outcome.flags.duplicate)
  kods : status.kodResponses = u32 (log.countP PollOutcome.isKissed)
  last : ∀ exchange ∈ (PeerLog.exchanges log).head?, LastExchange status exchange
  reference : status.referenceId = (log.findSome? PollOutcome.reference?).getD []
  statistics : windowStats (PeerLog.window log) status = status
  health : status.health = ownHealth configured status.jitterNs log ∨
    status.health = .divergent ∧ countsFor configured
      { status with health := ownHealth configured status.jitterNs log } = true

/-! ## The polls of a history -/

/-- A poll of one peer: its server, and what it is answered. -/
structure PollReadings where
  server : List Char
  timeoutMs : Nat
  begin : BeginReadings
  turns : List TurnReadings

/-- A request that has been sent, and until when its response is waited for. -/
structure PeerRequest where
  address : PeerAddress
  t1 : NtpTimestamp
  deadlineUs : Int
  deriving DecidableEq

def PollReadings.request? (poll : PollReadings) : Option PeerRequest := do
  let address ← poll.begin.address
  let _ ← poll.begin.sock
  let t1 ← poll.begin.t1
  if poll.begin.sent then some ⟨⟨address, ntpPort⟩, t1, poll.begin.nowUs + poll.timeoutMs * 1000⟩ else none

/-- A whole response from the peer. The last exchange with it was `previous`. -/
def PeerExchange.outcome (previous : Option PeerExchange) (exchange : PeerExchange) : PollOutcome :=
  if byteAt exchange.response 1 = 0 then .kissed exchange.response
  else if ¬exchange.WellFormed then .missed .invalid { rejected := true }
  else if previous.map PeerExchange.t3 = some exchange.t3 then
    .missed .invalid { rejected := true, duplicate := true }
  else if exchange.delayNs < 0 then .missed .invalid { rejected := true }
  else .heard exchange

/-- What is received from the socket of the request, if it settles the poll. -/
def PeerRequest.receive (request : PeerRequest) (previous : Option PeerExchange)
    (readings : ResponseReadings) : ReceiveOutcome → Option PollOutcome
  | .wouldBlock => none
  | .failed => some (.missed .degraded {})
  | .datagram bytes source => some <|
      match readings.t4 with
      | none => .missed .invalid { rejected := true }
      | some t4 =>
          if (bytes.take 256).length < ntpPeerPacketSize ∨ source ≠ request.address then
            .missed .invalid { rejected := true }
          else PeerExchange.outcome previous
            ⟨request.address, request.t1, t4, bytes.take 256, readings.nowUs⟩

def PeerRequest.turn (request : PeerRequest) (index : Fin 4) (previous : Option PeerExchange)
    (turn : TurnReadings) : Option PollOutcome :=
  if turn.nowUs ≥ request.deadlineUs then some (.missed .degraded { timeout := true })
  else match turn.select with
    | .interrupted | .timeout => none
    | .failed => some (.missed .degraded {})
    | .readable peers =>
        if peers index then request.receive previous (turn.responses index) (turn.received index) else none

/-- What the poll comes to, by its first turn that settles it. `none` while it is not over. -/
def PollReadings.outcome? (index : Fin 4) (previous : Option PeerExchange) (poll : PollReadings) :
    Option PollOutcome :=
  match poll.request? with
  | none => some (.missed .degraded { dns := poll.begin.address.isNone })
  | some request => poll.turns.findSome? (request.turn index previous)

/-- The log of some polls, the latest first. -/
def logOf (index : Fin 4) : List PollReadings → Option PeerLog
  | [] => some []
  | poll :: earlier => do
      let log ← logOf index earlier
      let outcome ← poll.outcome? index (PeerLog.exchanges log).head?
      some (outcome :: log)

def lastConfig : List PeerEvent → Option PeerMonitorConfig
  | [] => none
  | .pass (some config) .. :: _ | .wait (some config) :: _ => some config
  | .start .. :: past | .pass none .. :: past | .wait none :: past => lastConfig past

def keepsPeer (config : PeerMonitorConfig) (index : Fin 4) (past : List PeerEvent) : Bool :=
  match lastConfig past with
  | none => false
  | some last => (last.peers index).configured == (config.peers index).configured &&
      (last.peers index).server == (config.peers index).server

/-- The polls of a peer since it was configured last. -/
def pollsOf (index : Fin 4) : List PeerEvent → List PollReadings
  | [] => []
  | .start .. :: past | .pass none .. :: past | .wait none :: past => pollsOf index past
  | .wait (some config) :: past => if keepsPeer config index past then pollsOf index past else []
  | .pass (some config) begins turns _ :: past =>
      let earlier := if keepsPeer config index past then pollsOf index past else []
      if config.enabled ∧ (config.peers index).configured then
        ⟨(config.peers index).server, config.responseTimeoutMs, begins index, turns⟩ :: earlier
      else earlier

end NtsTimeServer.Model
