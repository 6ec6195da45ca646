import NtsTimeServer.Model.PollTrace
import NtsTimeServer.Proof.PeerSockets

namespace NtsTimeServer.Proof
open Model Lib

variable {trace : PollTrace}

theorem forPeers_state (step : PollState → Fin 4 → PollState)
    (calls : PollState → Fin 4 → List SocketCall) :
    (trace.forPeers step calls).state = (List.finRange 4).foldl step trace.state := by
  rw [PollTrace.forPeers]
  induction List.finRange 4 generalizing trace with
  | nil => rfl
  | cons index rest ih =>
      rw [List.foldl_cons, ih, List.foldl_cons]
      rfl

theorem forPeers_heads (step : PollState → Fin 4 → PollState)
    (calls : PollState → Fin 4 → List SocketCall) : (trace.forPeers step calls).heads = trace.heads := by
  rw [PollTrace.forPeers]
  induction List.finRange 4 generalizing trace with
  | nil => rfl
  | cons index rest ih =>
      rw [List.foldl_cons, ih]
      rfl

theorem turn_heads (readings : TurnReadings) : (trace.turn readings).2.heads = trace.heads := by
  rw [PollTrace.turn]
  split
  · exact forPeers_heads _ _
  cases readings.select <;> simp [forPeers_heads]

theorem turn_state (readings : TurnReadings) :
    (trace.turn readings).1 = (pollTurn trace.state readings).1 ∧
      (trace.turn readings).2.state = (pollTurn trace.state readings).2 := by
  have expired : (trace.forPeers (expireStep readings.nowUs) (expireCalls readings.nowUs)).state =
      expireAll readings.nowUs trace.state := forPeers_state _ _
  simp only [PollTrace.turn, pollTurn, expired]
  split
  · exact ⟨rfl, expired⟩
  cases readings.select with
  | interrupted => exact ⟨rfl, expired⟩
  | timeout => exact ⟨rfl, expired⟩
  | failed =>
      refine ⟨rfl, ?_⟩
      dsimp only
      rw [forPeers_state, expired]
      rfl
  | readable peers =>
      refine ⟨rfl, ?_⟩
      dsimp only
      rw [forPeers_state, expired]
      rfl

theorem loop_state (turns : List TurnReadings) :
    (trace.loop turns).1 = (pollLoop turns trace.state).1 ∧
      (trace.loop turns).2.state = (pollLoop turns trace.state).2 := by
  induction turns generalizing trace with
  | nil => exact ⟨rfl, rfl⟩
  | cons readings rest ih =>
      rw [PollTrace.loop, pollLoop]
      dsimp only
      split
      · exact ⟨rfl, rfl⟩
      · obtain ⟨goesOn, state⟩ :=
          @turn_state { trace with heads := trace.state :: trace.heads } readings
        dsimp only at goesOn state
        rw [goesOn]
        split
        · rw [← state]
          exact ih
        · exact ⟨rfl, state⟩

/-- The register is shifted once, and one of the two counters is one higher. -/
def OneOutcome (before after : PeerStatus) : Prop :=
  ∃ heard : Bool, after.reachability = (before.reachability * 2 + heard.toNat) % 256 ∧
    after.successfulPolls = countIf heard before.successfulPolls ∧
    after.failedPolls = countIf (!heard) before.failedPolls

inductive Phase (before : PeerStatus) (deadlineUs : Int) (ctx : PollContext) (status : PeerStatus)
    (calls : List SocketCall) : Prop
  | waiting (sock : Nat) (active : ctx.active = true) (socket : ctx.sock = some sock)
      (unfinished : ctx.completed = false) (deadline : ctx.deadlineUs = deadlineUs)
      (kept : status = before) (opened : calls = [.opened sock])
  | done (inactive : ctx.active = false)
      (closed : calls = [] ∨ ∃ sock, calls = [.opened sock, .closed sock])
      (outcome : OneOutcome before status)

structure Settles (before after : PeerMonitor) (index : Fin 4) : Prop where
  lock : after.lock = true
  others : ∀ other, other ≠ index → after.status other = before.status other
  outcome : OneOutcome (before.status index) (after.status index)

variable {monitor : PeerMonitor} {index : Fin 4}

theorem settles_written {after : PeerMonitor} {status : PeerStatus} (lock : after.lock = true)
    (written : after.status = Function.update monitor.status index status)
    (outcome : OneOutcome (monitor.status index) status) : Settles monitor after index where
  lock := lock
  others other ne := by rw [written, Function.update_of_ne ne]
  outcome := by rwa [written, Function.update_self]

theorem updateFailure_settles (lock : monitor.lock = true) (requested : PeerHealth)
    (flags : FailureFlags) : Settles monitor (updateFailure monitor index requested flags) index := by
  rw [updateFailure, if_neg (not_not.mpr lock)]
  exact settles_written lock rfl ⟨false, by simp [countIf]⟩

theorem computeRollingStats_counters (runtime : PeerRuntime) (status : PeerStatus) :
    (computeRollingStats runtime status).reachability = status.reachability ∧
      (computeRollingStats runtime status).successfulPolls = status.successfulPolls ∧
      (computeRollingStats runtime status).failedPolls = status.failedPolls := by
  rw [computeRollingStats]
  split <;> exact ⟨rfl, rfl, rfl⟩

theorem updateSuccess_settles (lock : monitor.lock = true) (packet : Bytes) (serverT3 : Nat)
    (offsetNs delayNs nowUs : Int) :
    Settles monitor (updateSuccess monitor index packet serverT3 offsetNs delayNs nowUs) index := by
  rw [updateSuccess, PeerMonitor.setRuntime_lock, if_neg (not_not.mpr lock)]
  refine settles_written lock rfl ⟨true, ?_⟩
  simp [computeRollingStats_counters, countIf]

theorem processMeasurement_settles (lock : monitor.lock = true) (t1 t4 : NtpTimestamp)
    (response : Bytes) (nowUs : Int) :
    Settles monitor (processMeasurement monitor index t1 t4 response nowUs) index := by
  rw [processMeasurement]
  split
  · exact updateFailure_settles lock _ _
  split
  · exact updateFailure_settles lock _ _
  dsimp only
  split
  · exact updateFailure_settles lock _ _
  · exact updateSuccess_settles lock _ _ _ _ _

theorem kod_settles (lock : monitor.lock = true) (response : Bytes) (flags : FailureFlags) :
    Settles monitor (updateFailure (countKod monitor index response) index .kod flags) index := by
  rw [countKod, if_neg (not_not.mpr lock), updateFailure, PeerMonitor.setStatus_lock,
    if_neg (not_not.mpr lock)]
  exact settles_written lock (Function.update_idem _ _ _) ⟨false, by simp [countIf]⟩

theorem processResponse_settles (lock : monitor.lock = true) (ctx : PollContext)
    (received : ReceiveOutcome) (readings : ResponseReadings) :
    (processResponse monitor index ctx received readings = (monitor, ctx) ∧
        processResponseCalls ctx received = []) ∨
      Settles monitor (processResponse monitor index ctx received readings).1 index ∧
        (processResponse monitor index ctx received readings).2 = finishContext ctx ∧
        processResponseCalls ctx received = finishContextCalls ctx := by
  cases received with
  | wouldBlock => exact Or.inl ⟨rfl, rfl⟩
  | failed => exact Or.inr ⟨updateFailure_settles lock _ _, rfl, rfl⟩
  | datagram bytes source =>
      refine Or.inr ⟨?_, rfl, rfl⟩
      rw [processResponse]
      dsimp only
      cases readings.t4 with
      | none => exact updateFailure_settles lock _ _
      | some t4 =>
          dsimp only
          split
          · exact updateFailure_settles lock _ _
          split
          · exact kod_settles lock _ _
          · exact processMeasurement_settles lock _ _ _ _

/-! ## The phases of all peers -/

structure Phases (before : PeerMonitor) (config : Fin 4 → PeerConfig) (deadlines : Fin 4 → Int)
    (trace : PollTrace) : Prop where
  lock : trace.state.monitor.lock = true
  polled : ∀ index, (config index).configured = true →
    Phase (before.status index) (deadlines index) (trace.state.contexts index)
      (trace.state.monitor.status index) (trace.calls index)
  unpolled : ∀ index, (config index).configured = false →
    (trace.state.contexts index).active = false ∧
      trace.state.monitor.status index = before.status index ∧ trace.calls index = []

section

variable {before : PeerMonitor} {config : Fin 4 → PeerConfig} {deadlines : Fin 4 → Int}
  {next : PollTrace}

theorem Phases.congr (phases : Phases before config deadlines trace)
    (monitor : next.state.monitor = trace.state.monitor)
    (contexts : next.state.contexts = trace.state.contexts) (calls : next.calls = trace.calls) :
    Phases before config deadlines next := by
  constructor
  · rw [monitor]
    exact phases.lock
  · rw [monitor, contexts, calls]
    exact phases.polled
  · rw [monitor, contexts, calls]
    exact phases.unpolled

theorem Phases.configured (phases : Phases before config deadlines trace)
    (active : (trace.state.contexts index).active = true) : (config index).configured = true := by
  by_contra unconfigured
  have idle := (phases.unpolled index (by simpa using unconfigured)).1
  rw [active] at idle
  cases idle

theorem Phases.settle (phases : Phases before config deadlines trace)
    (active : (trace.state.contexts index).active = true)
    (settles : Settles trace.state.monitor next.state.monitor index)
    (contexts : next.state.contexts =
      Function.update trace.state.contexts index (finishContext (trace.state.contexts index)))
    (calls : next.calls = Function.update trace.calls index
      (trace.calls index ++ finishContextCalls (trace.state.contexts index))) :
    Phases before config deadlines next := by
  refine ⟨settles.lock, fun other configured => ?_, fun other unconfigured => ?_⟩
  · by_cases same : other = index
    · subst same
      rw [contexts, calls, Function.update_self, Function.update_self]
      cases phases.polled other configured with
      | waiting sock _ socket _ _ kept opened =>
          refine .done rfl (Or.inr ⟨sock, ?_⟩) (kept ▸ settles.outcome)
          rw [opened, finishContextCalls, socket]
          rfl
      | done inactive =>
          rw [active] at inactive
          cases inactive
    · rw [contexts, calls, Function.update_of_ne same, Function.update_of_ne same,
        settles.others other same]
      exact phases.polled other configured
  · have same : other ≠ index := by
      rintro rfl
      rw [phases.configured active] at unconfigured
      cases unconfigured
    rw [contexts, calls, Function.update_of_ne same, Function.update_of_ne same,
      settles.others other same]
    exact phases.unpolled other unconfigured

theorem Phases.body_nothing (phases : Phases before config deadlines trace)
    {step : PollState → Fin 4 → PollState} {calls : PollState → Fin 4 → List SocketCall}
    (monitor : (step trace.state index).monitor = trace.state.monitor)
    (contexts : (step trace.state index).contexts = trace.state.contexts)
    (nothing : calls trace.state index = []) :
    Phases before config deadlines (trace.body step calls index) := by
  apply phases.congr monitor contexts
  simp [nothing]

theorem Phases.expire (phases : Phases before config deadlines trace) (nowUs : Int) :
    Phases before config deadlines (trace.body (expireStep nowUs) (expireCalls nowUs) index) := by
  by_cases late : (trace.state.contexts index).active ∧ nowUs ≥ (trace.state.contexts index).deadlineUs
  · have stepped : expireStep nowUs trace.state index =
        (trace.state.fail index { timeout := true }).finish index := if_pos late
    refine phases.settle late.1 ?_ ?_ ?_
    · rw [PollTrace.body_state, stepped]
      exact updateFailure_settles phases.lock _ _
    · rw [PollTrace.body_state, stepped]
      rfl
    · rw [PollTrace.body_calls, expireCalls, if_pos late]
  · have stepped : expireStep nowUs trace.state index = trace.state := if_neg late
    exact phases.body_nothing (by rw [stepped]) (by rw [stepped]) (if_neg late)

theorem Phases.fail (phases : Phases before config deadlines trace) :
    Phases before config deadlines (trace.body failStep failCalls index) := by
  by_cases active : (trace.state.contexts index).active = true
  · have stepped : failStep trace.state index = (trace.state.fail index {}).finish index :=
      if_pos active
    refine phases.settle active ?_ ?_ ?_
    · rw [PollTrace.body_state, stepped]
      exact updateFailure_settles phases.lock _ _
    · rw [PollTrace.body_state, stepped]
      rfl
    · rw [PollTrace.body_calls, failCalls, if_pos active]
  · have stepped : failStep trace.state index = trace.state := if_neg active
    exact phases.body_nothing (by rw [stepped]) (by rw [stepped]) (if_neg active)

theorem Phases.receive (phases : Phases before config deadlines trace) (readable : Fin 4 → Bool)
    (readings : TurnReadings) : Phases before config deadlines
      (trace.body (receiveStep readable readings) (receiveCalls readable readings) index) := by
  by_cases ready : (trace.state.contexts index).active ∧ readable index
  · have calls : receiveCalls readable readings trace.state index =
        processResponseCalls (trace.state.contexts index) (readings.received index) := if_pos ready
    have monitor : (receiveStep readable readings trace.state index).monitor =
        (processResponse trace.state.monitor index (trace.state.contexts index)
          (readings.received index) (readings.responses index)).1 := by
      rw [receiveStep, if_pos ready]
      dsimp only
      split <;> rfl
    have contexts : (receiveStep readable readings trace.state index).contexts =
        Function.update trace.state.contexts index
          (processResponse trace.state.monitor index (trace.state.contexts index)
            (readings.received index) (readings.responses index)).2 := by
      rw [receiveStep, if_pos ready]
      dsimp only
      split <;> rfl
    rcases processResponse_settles phases.lock (trace.state.contexts index) (readings.received index)
      (readings.responses index) with ⟨same, none⟩ | ⟨settles, finished, called⟩
    · rw [same] at monitor contexts
      rw [Function.update_eq_self] at contexts
      exact phases.body_nothing monitor contexts (calls.trans none)
    · rw [finished] at contexts
      refine phases.settle ready.1 ?_ contexts ?_
      · rw [PollTrace.body_state, monitor]
        exact settles
      · rw [PollTrace.body_calls, calls, called]
  · have stepped : receiveStep readable readings trace.state index = trace.state := if_neg ready
    exact phases.body_nothing (by rw [stepped]) (by rw [stepped]) (if_neg ready)

theorem Phases.forPeers (phases : Phases before config deadlines trace)
    {step : PollState → Fin 4 → PollState} {calls : PollState → Fin 4 → List SocketCall}
    (bodies : ∀ trace index, Phases before config deadlines trace →
      Phases before config deadlines (trace.body step calls index)) :
    Phases before config deadlines (trace.forPeers step calls) :=
  foldl_rule (fun _ trace => Phases before config deadlines trace) phases
    fun _ index _ trace _ phases => bodies trace index phases

theorem Phases.turn (phases : Phases before config deadlines trace) (readings : TurnReadings) :
    Phases before config deadlines (trace.turn readings).2 := by
  have expired : Phases before config deadlines
      (trace.forPeers (expireStep readings.nowUs) (expireCalls readings.nowUs)) :=
    phases.forPeers fun _ _ phases => phases.expire _
  rw [PollTrace.turn]
  split
  · exact expired
  cases readings.select with
  | interrupted => exact expired
  | timeout => exact expired
  | failed => exact expired.forPeers fun _ _ phases => phases.fail
  | readable peers => exact expired.forPeers fun _ _ phases => phases.receive peers readings

theorem Phases.deadline (phases : Phases before config deadlines trace)
    (active : (trace.state.contexts index).active = true) :
    (trace.state.contexts index).deadlineUs = deadlines index := by
  cases phases.polled index (phases.configured active) with
  | waiting _ _ _ _ deadline => exact deadline
  | done inactive =>
      rw [active] at inactive
      cases inactive

/-! ## The loop -/

theorem expireAll_early (nowUs : Int) (s : PollState)
    (active : ((expireAll nowUs s).contexts index).active = true) :
    nowUs < ((expireAll nowUs s).contexts index).deadlineUs := by
  have early : ∀ other ∈ List.finRange 4, ((expireAll nowUs s).contexts other).active = true →
      nowUs < ((expireAll nowUs s).contexts other).deadlineUs := by
    refine foldl_rule (fun read (t : PollState) => ∀ other ∈ read,
      (t.contexts other).active = true → nowUs < (t.contexts other).deadlineUs)
      (fun _ member => by cases member) ?_
    intro read a rest t _ passed
    split
    · have written := Function.forall_update_iff t.contexts (a := a)
        (b := finishContext (t.contexts a))
        fun other ctx => other ∈ read ++ [a] → ctx.active = true → nowUs < ctx.deadlineUs
      exact written.mpr ⟨fun _ => nofun, fun other ne member => passed other (by simpa [ne] using member)⟩
    · rename_i kept
      exact List.forall_mem_append.mpr ⟨passed, List.forall_mem_singleton.mpr fun active =>
        not_le.mp fun late => kept ⟨active, late⟩⟩
  exact early index (List.mem_finRange index) active

theorem Phases.early (phases : Phases before config deadlines trace) (tracked : Tracked trace.state)
    {readings : TurnReadings} (goesOn : (trace.turn readings).1 = true)
    (active : ((trace.turn readings).2.state.contexts index).active = true) :
    readings.nowUs < deadlines index := by
  have expired : Phases before config deadlines
      (trace.forPeers (expireStep readings.nowUs) (expireCalls readings.nowUs)) :=
    phases.forPeers fun _ _ phases => phases.expire _
  have state : (trace.forPeers (expireStep readings.nowUs) (expireCalls readings.nowUs)).state =
      expireAll readings.nowUs trace.state := forPeers_state _ _
  rw [PollTrace.turn] at goesOn active
  generalize trace.forPeers (expireStep readings.nowUs) (expireCalls readings.nowUs) = after
    at expired state goesOn active
  have early (waited : (after.state.contexts index).active = true) :
      readings.nowUs < deadlines index := by
    rw [← expired.deadline waited, state]
    exact expireAll_early _ _ (state ▸ waited)
  split at goesOn
  · cases goesOn
  rename_i goes
  rw [if_neg goes] at active
  cases select : readings.select with
  | interrupted =>
      rw [select] at active
      exact early active
  | timeout =>
      rw [select] at active
      exact early active
  | failed =>
      rw [select] at goesOn
      cases goesOn
  | readable peers =>
      rw [select] at active
      dsimp only at active
      rw [forPeers_state] at active
      have trackedAfter : Tracked after.state := state ▸ (expireAll_closes _ tracked).1
      obtain ⟨trackedRead, closes⟩ := receiveAll_closes peers readings trackedAfter
      apply early
      rw [trackedAfter.active]
      exact closes.contexts index ((trackedRead.active index).mp active)

/-- What the loop keeps to, and whom it still waits for if it has not ended. -/
structure LoopKeeps (before : PeerMonitor) (config : Fin 4 → PeerConfig) (deadlines : Fin 4 → Int)
    (turns : List TurnReadings) (result : Bool × PollTrace) : Prop where
  phases : Phases before config deadlines result.2
  tracked : Tracked result.2.state
  heads : ∀ head ∈ result.2.heads, Tracked head
  ended : result.1 = true → result.2.state.pending = 0
  running : result.1 = false → result.2.state.pending ≠ 0 ∧
    ∀ index, (result.2.state.contexts index).active = true →
      ∀ readings ∈ turns, readings.nowUs < deadlines index

theorem Tracked.pending_zero {s : PollState} (tracked : Tracked s)
    (closed : ∀ index, ¬Opens s.contexts index) : s.pending = 0 := by
  rw [tracked.pending]
  apply Finset.sum_eq_zero
  intro index _
  have idle : (s.contexts index).active = false :=
    Bool.eq_false_iff.mpr fun active => closed index ((tracked.active index).mp active)
  rw [idle]
  rfl

theorem loopKeeps (turns : List TurnReadings) (phases : Phases before config deadlines trace)
    (tracked : Tracked trace.state) (heads : ∀ head ∈ trace.heads, Tracked head) :
    LoopKeeps before config deadlines turns (trace.loop turns) := by
  have noted : ∀ head ∈ trace.state :: trace.heads, Tracked head :=
    List.forall_mem_cons.mpr ⟨tracked, heads⟩
  have kept : Phases before config deadlines { trace with heads := trace.state :: trace.heads } :=
    phases.congr rfl rfl rfl
  induction turns generalizing trace with
  | nil =>
      exact ⟨kept, tracked, noted, fun ended => by simpa [PollTrace.loop] using ended,
        fun running => ⟨by simpa [PollTrace.loop] using running, fun _ _ _ member => by cases member⟩⟩
  | cons readings rest ih =>
      rw [PollTrace.loop]
      dsimp only
      split
      · rename_i zero
        exact ⟨kept, tracked, noted, fun _ => zero, nofun⟩
      generalize same : ({ trace with heads := trace.state :: trace.heads } : PollTrace) = head at kept
      have trackedHead : Tracked head.state := same ▸ tracked
      have notedHead : ∀ s ∈ head.heads, Tracked s := same ▸ noted
      obtain ⟨trackedNext, closes, stopped⟩ := pollTurn_closes readings trackedHead
      obtain ⟨goesOn, state⟩ := @turn_state head readings
      have phasesNext := kept.turn readings
      have headsNext : ∀ s ∈ (head.turn readings).2.heads, Tracked s := by
        rw [turn_heads]
        exact notedHead
      rw [← state] at trackedNext stopped
      split
      · rename_i goes
        have rested := ih phasesNext trackedNext headsNext
          (List.forall_mem_cons.mpr ⟨trackedNext, headsNext⟩) (phasesNext.congr rfl rfl rfl)
        refine ⟨rested.phases, rested.tracked, rested.heads, rested.ended, fun running => ?_⟩
        obtain ⟨pending, waited⟩ := rested.running running
        refine ⟨pending, fun index active => List.forall_mem_cons.mpr ⟨?_, waited index active⟩⟩
        -- who is waited for in the end was waited for after this turn
        have closesRest := (pollLoop_closes rest trackedNext).1
        have opens := (rested.tracked.active index).mp active
        rw [(loop_state rest).2] at opens
        exact kept.early trackedHead goes ((trackedNext.active index).mpr (closesRest.contexts index opens))
      · rename_i stops
        refine ⟨phasesNext, trackedNext, headsNext, fun _ => ?_, nofun⟩
        exact trackedNext.pending_zero (stopped (goesOn ▸ by simpa using stops))

structure BeginsPhase (s t : PollState) (index : Fin 4) (deadlineUs : Int) (calls : List SocketCall) :
    Prop where
  lock : t.monitor.lock = true
  contexts : ∀ other, other ≠ index → t.contexts other = s.contexts other
  statuses : ∀ other, other ≠ index → t.monitor.status other = s.monitor.status other
  phase : Phase (s.monitor.status index) deadlineUs (t.contexts index) (t.monitor.status index) calls

theorem beginsPhase_failed {s t : PollState} (lock : s.monitor.lock = true)
    (flags : FailureFlags) {deadlineUs : Int} {calls : List SocketCall}
    (monitor : t.monitor = s.monitor) (contexts : ∀ other, other ≠ index →
      t.contexts other = s.contexts other) (inactive : (t.contexts index).active = false)
    (closed : calls = [] ∨ ∃ sock, calls = [.opened sock, .closed sock]) :
    BeginsPhase s (t.fail index flags) index deadlineUs calls := by
  have settles : Settles s.monitor (t.fail index flags).monitor index := by
    rw [← monitor] at lock ⊢
    exact updateFailure_settles lock _ _
  exact ⟨settles.lock, contexts, settles.others, .done inactive closed settles.outcome⟩

theorem beginPoll_phase {s : PollState} (lock : s.monitor.lock = true) (timeoutMs : Nat)
    (readings : BeginReadings) : BeginsPhase s (beginPoll s index timeoutMs readings) index
      (readings.nowUs + timeoutMs * 1000) (beginPollCalls readings) := by
  have once (ctx : PollContext) (other : Fin 4) (ne : other ≠ index) :
      (s.setContext index ctx).contexts other = s.contexts other := Function.update_of_ne ne _ _
  have twice (first ctx : PollContext) (other : Fin 4) (ne : other ≠ index) :
      ((s.setContext index first).setContext index ctx).contexts other = s.contexts other := by
    simp [PollState.setContext, ne]
  obtain ⟨address, sock, t1, sent, nowUs⟩ := readings
  cases address with
  | none => exact beginsPhase_failed lock _ rfl (once _) (by simp [PollState.setContext, idleContext]) (Or.inl rfl)
  | some address =>
      cases sock with
      | none =>
          exact beginsPhase_failed lock _ rfl (once _) (by simp [PollState.setContext, idleContext]) (Or.inl rfl)
      | some sock =>
          cases t1 with
          | none =>
              exact beginsPhase_failed lock _ rfl (twice _ _) (by simp [PollState.setContext, idleContext])
                (Or.inr ⟨sock, rfl⟩)
          | some t1 =>
              cases sent with
              | false =>
                  exact beginsPhase_failed lock _ rfl (twice _ _)
                    (by simp [PollState.setContext, idleContext]) (Or.inr ⟨sock, rfl⟩)
              | true =>
                  exact ⟨lock, twice _ _, fun _ _ => rfl,
                    .waiting sock (by simp [beginPoll, PollState.setContext])
                      (by simp [beginPoll, PollState.setContext])
                      (by simp [beginPoll, PollState.setContext, idleContext])
                      (by simp [beginPoll, PollState.setContext]) rfl rfl⟩

structure Beginning (before : PeerMonitor) (config : Fin 4 → PeerConfig) (deadlines : Fin 4 → Int)
    (read : List (Fin 4)) (trace : PollTrace) : Prop where
  lock : trace.state.monitor.lock = true
  polled : ∀ index ∈ read, (config index).configured = true →
    Phase (before.status index) (deadlines index) (trace.state.contexts index)
      (trace.state.monitor.status index) (trace.calls index)
  idle : ∀ index, index ∉ read ∨ (config index).configured = false →
    (trace.state.contexts index).active = false ∧
      trace.state.monitor.status index = before.status index ∧ trace.calls index = []

theorem Beginning.step {read : List (Fin 4)} {timeoutMs : Nat} {begins : Fin 4 → BeginReadings}
    (beginning : Beginning before config (fun index => (begins index).nowUs + timeoutMs * 1000) read trace)
    (fresh : index ∉ read) :
    Beginning before config (fun index => (begins index).nowUs + timeoutMs * 1000) (read ++ [index])
      (trace.body (beginStep config timeoutMs begins) (beginCalls config begins) index) := by
  by_cases configured : (config index).configured = true
  · have stepped : beginStep config timeoutMs begins trace.state index =
        beginPoll trace.state index timeoutMs (begins index) := if_pos configured
    have called : beginCalls config begins trace.state index = beginPollCalls (begins index) :=
      if_pos configured
    obtain ⟨lock, contexts, statuses, phase⟩ :=
      @beginPoll_phase index trace.state beginning.lock timeoutMs (begins index)
    obtain ⟨-, status, calls⟩ := beginning.idle index (Or.inl fresh)
    have elsewhere (other : Fin 4) (ne : other ≠ index) :
        (trace.body (beginStep config timeoutMs begins) (beginCalls config begins) index).state.contexts
            other = trace.state.contexts other ∧
          (trace.body (beginStep config timeoutMs begins) (beginCalls config begins)
            index).state.monitor.status other = trace.state.monitor.status other ∧
          (trace.body (beginStep config timeoutMs begins) (beginCalls config begins) index).calls other =
            trace.calls other := by
      rw [PollTrace.body_state, PollTrace.body_calls, stepped, Function.update_of_ne ne]
      exact ⟨contexts other ne, statuses other ne, rfl⟩
    constructor
    · rw [PollTrace.body_state, stepped]
      exact lock
    · intro other member polled
      by_cases same : other = index
      · subst same
        rw [PollTrace.body_state, PollTrace.body_calls, stepped, called, Function.update_self, calls,
          List.nil_append, ← status]
        exact phase
      · obtain ⟨context, status, calls⟩ := elsewhere other same
        rw [context, status, calls]
        exact beginning.polled other (by simpa [same] using member) polled
    · intro other apart
      have ne : other ≠ index := by
        rintro rfl
        simp [configured] at apart
      obtain ⟨context, status, calls⟩ := elsewhere other ne
      rw [context, status, calls]
      exact beginning.idle other (apart.imp_left fun ahead member => ahead (List.mem_append_left _ member))
  · have stepped : beginStep config timeoutMs begins trace.state index = trace.state :=
      if_neg configured
    have called : beginCalls config begins trace.state index = [] := if_neg configured
    have calls : (trace.body (beginStep config timeoutMs begins) (beginCalls config begins)
        index).calls = trace.calls := by simp [called]
    constructor
    · rw [PollTrace.body_state, stepped]
      exact beginning.lock
    · intro other member polled
      have ne : other ≠ index := by
        rintro rfl
        exact configured polled
      rw [PollTrace.body_state, stepped, calls]
      exact beginning.polled other (by simpa [ne] using member) polled
    · intro other apart
      rw [PollTrace.body_state, stepped, calls]
      exact beginning.idle other (apart.imp_left fun ahead member => ahead (List.mem_append_left _ member))

theorem begun_phases (lock : monitor.lock = true) (config : Fin 4 → PeerConfig) (timeoutMs : Nat)
    (begins : Fin 4 → BeginReadings) :
    Phases monitor config (fun index => (begins index).nowUs + timeoutMs * 1000)
      ((⟨pollStart monitor, fun _ => [], []⟩ : PollTrace).forPeers (beginStep config timeoutMs begins)
        (beginCalls config begins)) := by
  have beginning : Beginning monitor config (fun index => (begins index).nowUs + timeoutMs * 1000)
      (List.finRange 4) ((⟨pollStart monitor, fun _ => [], []⟩ : PollTrace).forPeers
        (beginStep config timeoutMs begins) (beginCalls config begins)) := by
    refine foldl_rule (Beginning monitor config _) ⟨lock, nofun, fun _ _ => ⟨rfl, rfl, rfl⟩⟩ ?_
    intro read index rest trace split beginning
    exact beginning.step fun member => lt_irrefl _ ((finRange_split split index).mp member)
  exact ⟨beginning.lock, fun index => beginning.polled index (List.mem_finRange index),
    fun index unconfigured => beginning.idle index (Or.inr unconfigured)⟩

end

/-! ## The whole poll -/

structure PollCycle (before : PeerMonitor) (config : Fin 4 → PeerConfig) (result : Bool × PollTrace) :
    Prop where
  ended : result.1 = true
  heads : ∀ head ∈ result.2.heads, head.pending = activeCount head.contexts
  pending : result.2.state.pending = 0
  active : activeCount result.2.state.contexts = 0
  closed : ∀ index, result.2.calls index = [] ∨
    ∃ sock, result.2.calls index = [.opened sock, .closed sock]
  outcome : ∀ index, (config index).enabled = true →
    OneOutcome (before.status index) (result.2.state.monitor.status index)
  disabled : ∀ index, (config index).enabled = false →
    result.2.state.monitor.status index = before.status index

theorem pollTraced_state (monitor : PeerMonitor) (config : Fin 4 → PeerConfig) (timeoutMs : Nat)
    (begins : Fin 4 → BeginReadings) (turns : List TurnReadings) :
    pollAllPeers monitor config timeoutMs begins turns =
      ((pollTraced monitor config timeoutMs begins turns).1,
        (pollTraced monitor config timeoutMs begins turns).2.state) := by
  rw [pollAllPeers, pollTraced, (loop_state turns).1, (loop_state turns).2, forPeers_state]
  rfl

theorem one_outcome_per_peer {monitor : PeerMonitor} (lock : monitor.lock = true)
    {config : Fin 4 → PeerConfig} (named : ∀ index, (config index).enabled = true →
      (config index).server ≠ []) (timeoutMs : Nat) (begins : Fin 4 → BeginReadings)
    (turns : Nat → TurnReadings) (passes : ∀ index, (config index).enabled = true →
      ∃ n, (begins index).nowUs + timeoutMs * 1000 ≤ (turns n).nowUs) :
    ∃ n, PollCycle monitor config
        (pollTraced monitor config timeoutMs begins ((List.range n).map turns)) ∧
      pollAllPeers monitor config timeoutMs begins ((List.range n).map turns) =
        ((pollTraced monitor config timeoutMs begins ((List.range n).map turns)).1,
          (pollTraced monitor config timeoutMs begins ((List.range n).map turns)).2.state) := by
  have polled (index : Fin 4) : (config index).configured = (config index).enabled := by
    cases enabled : (config index).enabled with
    | false => simp [PeerConfig.configured, enabled]
    | true => simpa [PeerConfig.configured, enabled] using named index enabled
  choose! late passed using passes
  refine ⟨Finset.univ.sup late + 1, ?_, pollTraced_state _ _ _ _ _⟩
  have begun := begun_phases lock config timeoutMs begins
  have keeps := loopKeeps ((List.range (Finset.univ.sup late + 1)).map turns) begun
    (by
      rw [forPeers_state]
      exact (beginAll_begun monitor config timeoutMs begins).tracked)
    (by simp [forPeers_heads])
  rw [← pollTraced] at keeps
  generalize pollTraced monitor config timeoutMs begins _ = result at keeps
  have ended : result.1 = true := by
    by_contra unfinished
    obtain ⟨pending, waits⟩ := keeps.running (by simpa using unfinished)
    apply pending
    apply keeps.tracked.pending_zero
    intro index opens
    have active := (keeps.tracked.active index).mpr opens
    have enabled := (polled index).symm.trans (keeps.phases.configured active)
    have turned : turns (late index) ∈ (List.range (Finset.univ.sup late + 1)).map turns :=
      List.mem_map_of_mem (List.mem_range.mpr
        (Nat.lt_succ_of_le (Finset.le_sup (Finset.mem_univ index))))
    exact absurd (waits index active _ turned) (not_lt.mpr (passed index enabled))
  have idle : activeCount result.2.state.contexts = 0 :=
    keeps.tracked.pending ▸ keeps.ended ended
  have finished (index : Fin 4) (enabled : (config index).enabled = true) :
      (result.2.calls index = [] ∨ ∃ sock, result.2.calls index = [.opened sock, .closed sock]) ∧
        OneOutcome (monitor.status index) (result.2.state.monitor.status index) := by
    cases keeps.phases.polled index ((polled index).trans enabled) with
    | waiting _ active =>
        rw [active_of_count_zero idle index] at active
        cases active
    | done _ closed outcome => exact ⟨closed, outcome⟩
  refine ⟨ended, fun head member => (keeps.heads head member).pending, keeps.ended ended, idle,
    fun index => ?_, fun index enabled => (finished index enabled).2, fun index disabled => ?_⟩
  · cases enabled : (config index).enabled with
    | false => exact Or.inl (keeps.phases.unpolled index ((polled index).trans enabled)).2.2
    | true => exact (finished index enabled).1
  · exact (keeps.phases.unpolled index ((polled index).trans disabled)).2.1

def twoPeers (index : Fin 4) : PeerConfig := ⟨decide (index < 2), ['n', 't', 'p']⟩

def sentRequest (index : Fin 4) : BeginReadings :=
  ⟨some 0xC0000201, some (54 + index.val), some ⟨3908988800, 0⟩, true, 1000000⟩

def silentTurn (turn : Nat) : TurnReadings :=
  ⟨turn * 1000000, .timeout, fun _ => .wouldBlock, fun _ => ⟨none, 0⟩⟩

theorem silent_peers_time_out : ∃ n, PollCycle freshMonitor twoPeers
    (pollTraced freshMonitor twoPeers 2000 sentRequest ((List.range n).map silentTurn)) := by
  have named (index : Fin 4) (_ : (twoPeers index).enabled = true) : (twoPeers index).server ≠ [] :=
    nofun
  have passes (index : Fin 4) (_ : (twoPeers index).enabled = true) :
      ∃ n, (sentRequest index).nowUs + (2000 : Nat) * 1000 ≤ (silentTurn n).nowUs :=
    ⟨3, by norm_num [sentRequest, silentTurn]⟩
  obtain ⟨n, cycle, -⟩ :=
    @one_outcome_per_peer freshMonitor rfl twoPeers named 2000 sentRequest silentTurn passes
  exact ⟨n, cycle⟩

end NtsTimeServer.Proof
