import NtsTimeServer.Model.PeerMonitor

/-!
# A poll with its socket calls

`poll_all_peers` once more, with what it asks of `socket` and `close` for each peer and the states in
which the condition of its loop is evaluated.
-/

namespace NtsTimeServer.Model
open Lib

inductive SocketCall
  | opened (sock : Nat)
  | closed (sock : Nat)
  deriving DecidableEq, Repr

def finishContextCalls (ctx : PollContext) : List SocketCall := ctx.sock.toList.map .closed

def beginPollCalls (readings : BeginReadings) : List SocketCall :=
  match readings.address with
  | none => []
  | some _ =>
      match readings.sock with
      | none => []
      | some sock =>
          match readings.t1 with
          | none => [.opened sock, .closed sock]
          | some _ => if ¬readings.sent then [.opened sock, .closed sock] else [.opened sock]

def processResponseCalls (ctx : PollContext) : ReceiveOutcome → List SocketCall
  | .wouldBlock => []
  | .datagram .. | .failed => finishContextCalls ctx

structure PollTrace where
  state : PollState
  calls : Fin 4 → List SocketCall
  /-- latest first -/
  heads : List PollState

def PollTrace.body (step : PollState → Fin 4 → PollState)
    (calls : PollState → Fin 4 → List SocketCall) (trace : PollTrace) (index : Fin 4) : PollTrace :=
  { trace with
    state := step trace.state index
    calls := Function.update trace.calls index (trace.calls index ++ calls trace.state index) }

section

variable (step : PollState → Fin 4 → PollState) (calls : PollState → Fin 4 → List SocketCall)
  (trace : PollTrace) (index : Fin 4)

@[simp] theorem PollTrace.body_state :
    (trace.body step calls index).state = step trace.state index := rfl

@[simp] theorem PollTrace.body_calls : (trace.body step calls index).calls =
    Function.update trace.calls index (trace.calls index ++ calls trace.state index) := rfl

end

/-- A loop over the peers whose body does `step` and calls what `calls` says. -/
def PollTrace.forPeers (trace : PollTrace) (step : PollState → Fin 4 → PollState)
    (calls : PollState → Fin 4 → List SocketCall) : PollTrace :=
  (List.finRange 4).foldl (PollTrace.body step calls) trace

def beginStep (config : Fin 4 → PeerConfig) (timeoutMs : Nat) (readings : Fin 4 → BeginReadings)
    (s : PollState) (index : Fin 4) : PollState :=
  if (config index).configured then beginPoll s index timeoutMs (readings index) else s

def beginCalls (config : Fin 4 → PeerConfig) (readings : Fin 4 → BeginReadings) (_ : PollState)
    (index : Fin 4) : List SocketCall :=
  if (config index).configured then beginPollCalls (readings index) else []

def expireStep (nowUs : Int) (s : PollState) (index : Fin 4) : PollState :=
  if (s.contexts index).active ∧ nowUs ≥ (s.contexts index).deadlineUs then
    (s.fail index { timeout := true }).finish index
  else s

def expireCalls (nowUs : Int) (s : PollState) (index : Fin 4) : List SocketCall :=
  if (s.contexts index).active ∧ nowUs ≥ (s.contexts index).deadlineUs then
    finishContextCalls (s.contexts index)
  else []

def failStep (s : PollState) (index : Fin 4) : PollState :=
  if (s.contexts index).active then (s.fail index {}).finish index else s

def failCalls (s : PollState) (index : Fin 4) : List SocketCall :=
  if (s.contexts index).active then finishContextCalls (s.contexts index) else []

def receiveStep (readable : Fin 4 → Bool) (readings : TurnReadings) (s : PollState) (index : Fin 4) :
    PollState :=
  if (s.contexts index).active ∧ readable index then
    let (monitor, ctx) := processResponse s.monitor index (s.contexts index)
      (readings.received index) (readings.responses index)
    let s := { s with monitor := monitor }.setContext index ctx
    if ctx.completed then { s with pending := s.pending - 1 } else s
  else s

def receiveCalls (readable : Fin 4 → Bool) (readings : TurnReadings) (s : PollState) (index : Fin 4) :
    List SocketCall :=
  if (s.contexts index).active ∧ readable index then
    processResponseCalls (s.contexts index) (readings.received index)
  else []

def PollTrace.turn (trace : PollTrace) (readings : TurnReadings) : Bool × PollTrace :=
  let trace := trace.forPeers (expireStep readings.nowUs) (expireCalls readings.nowUs)
  if trace.state.pending = 0 ∨ ∀ index, (trace.state.contexts index).active = false then (false, trace)
  else match readings.select with
    | .interrupted | .timeout => (true, trace)
    | .failed => (false, trace.forPeers failStep failCalls)
    | .readable peers =>
        (true, trace.forPeers (receiveStep peers readings) (receiveCalls peers readings))

def PollTrace.loop : List TurnReadings → PollTrace → Bool × PollTrace
  | [], trace => (decide (trace.state.pending = 0), { trace with heads := trace.state :: trace.heads })
  | readings :: rest, trace =>
      let trace := { trace with heads := trace.state :: trace.heads }
      if trace.state.pending = 0 then (true, trace)
      else
        let (goesOn, trace) := trace.turn readings
        if goesOn then PollTrace.loop rest trace else (true, trace)

def pollTraced (monitor : PeerMonitor) (config : Fin 4 → PeerConfig) (timeoutMs : Nat)
    (begins : Fin 4 → BeginReadings) (turns : List TurnReadings) : Bool × PollTrace :=
  let trace : PollTrace := ⟨pollStart monitor, fun _ => [], []⟩
  PollTrace.loop turns (trace.forPeers (beginStep config timeoutMs begins) (beginCalls config begins))

end NtsTimeServer.Model
