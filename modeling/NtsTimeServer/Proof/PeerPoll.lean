import NtsTimeServer.Proof.PeerLog
import NtsTimeServer.Proof.PollOutcome

namespace NtsTimeServer.Proof
open Model Lib

variable {configured : Bool} {log : PeerLog} {poll : PollReadings} {index other : Fin 4} {s t : PollState}

structure PollKeeps (s t : PollState) (index : Fin 4) : Prop where
  context : t.contexts index = s.contexts index
  slot : SamePeer s.monitor t.monitor index

theorem PollKeeps.refl (s : PollState) (index : Fin 4) : PollKeeps s s index := ⟨rfl, rfl, rfl, rfl⟩

theorem PollKeeps.trans {last : PollState} (first : PollKeeps s t index) (second : PollKeeps t last index) :
    PollKeeps s last index :=
  ⟨second.context.trans first.context, first.slot.trans second.slot⟩

theorem setContext_keeps (ne : index ≠ other) (ctx : PollContext) : PollKeeps s (s.setContext other ctx) index :=
  ⟨Function.update_of_ne ne _ _, rfl, rfl, rfl⟩

theorem fail_keeps (ne : index ≠ other) (flags : FailureFlags) : PollKeeps s (s.fail other flags) index :=
  ⟨rfl, updateFailure_keeps ne _ _⟩

theorem finish_keeps (ne : index ≠ other) : PollKeeps s (s.finish other) index :=
  ⟨Function.update_of_ne ne _ _, rfl, rfl, rfl⟩

theorem expireStep_keeps (alone : index = other → (s.contexts index).active = false) (nowUs : Int) :
    PollKeeps s (expireStep nowUs s other) index := by
  rw [expireStep]
  split
  next late =>
    have ne : index ≠ other := by
      intro same
      have idle := alone same
      rw [same, late.1] at idle
      cases idle
    exact (fail_keeps ne _).trans (finish_keeps ne)
  next => exact .refl s index

theorem failStep_keeps (alone : index = other → (s.contexts index).active = false) :
    PollKeeps s (failStep s other) index := by
  rw [failStep]
  split
  next active =>
    have ne : index ≠ other := by
      intro same
      have idle := alone same
      rw [same, active] at idle
      cases idle
    exact (fail_keeps ne _).trans (finish_keeps ne)
  next => exact .refl s index

theorem receiveStep_keeps (alone : index = other → (s.contexts index).active = false) (readable : Fin 4 → Bool)
    (readings : TurnReadings) : PollKeeps s (receiveStep readable readings s other) index := by
  rw [receiveStep]
  split
  next ready =>
    have ne : index ≠ other := by
      intro same
      have idle := alone same
      rw [same, ready.1] at idle
      cases idle
    have processed := @processResponse_keeps s.monitor index other ne (s.contexts other) (readings.received other)
      (readings.responses other)
    dsimp only
    split
    next => exact ⟨Function.update_of_ne ne _ _, processed⟩
    next => exact ⟨Function.update_of_ne ne _ _, processed⟩
  next => exact .refl s index

theorem beginPoll_keeps (ne : index ≠ other) (timeoutMs : Nat) (readings : BeginReadings) :
    PollKeeps s (beginPoll s other timeoutMs readings) index := by
  obtain ⟨address, sock, t1, sent, nowUs⟩ := readings
  unfold beginPoll
  cases address with
  | none => exact (setContext_keeps ne _).trans (fail_keeps ne _)
  | some address =>
      cases sock with
      | none => exact (setContext_keeps ne _).trans (fail_keeps ne _)
      | some sock =>
          cases t1 with
          | none => exact ((setContext_keeps ne _).trans (setContext_keeps ne _)).trans (fail_keeps ne _)
          | some t1 =>
              dsimp only
              split
              next => exact ((setContext_keeps ne _).trans (setContext_keeps ne _)).trans (fail_keeps ne _)
              next =>
                exact ((setContext_keeps ne _).trans (setContext_keeps ne _)).trans ⟨rfl, rfl, rfl, rfl⟩

structure Unpolled (configured : Bool) (log : PeerLog) (index : Fin 4) (s : PollState) : Prop where
  inactive : (s.contexts index).active = false
  logged : PeerLogged configured log s.monitor index

theorem Unpolled.keep (unpolled : Unpolled configured log index s) (keeps : PollKeeps s t index) :
    Unpolled configured log index t :=
  ⟨(congrArg PollContext.active keeps.context).trans unpolled.inactive, unpolled.logged.keep keeps.slot⟩

/-! ## A peer with a poll -/

theorem foldl_visits {step : PollState → Fin 4 → PollState} (index : Fin 4)
    (alone : ∀ s other, index ≠ other → PollKeeps s (step s other) index) (s : PollState) :
    ∃ t, PollKeeps s t index ∧ PollKeeps (step t index) ((List.finRange 4).foldl step s) index := by
  obtain ⟨before, after, split⟩ := List.append_of_mem (List.mem_finRange index)
  have ahead : ∀ other ∈ before, index ≠ other := fun other member =>
    ((finRange_split split other).mp member).ne'
  have behind : ∀ other ∈ after, index ≠ other := by
    have nodup := List.nodup_finRange 4
    rw [split] at nodup
    rintro other member rfl
    exact (List.nodup_cons.mp nodup.of_append_right).1 member
  have leaves (others : List (Fin 4)) (apart : ∀ other ∈ others, index ≠ other) (s : PollState) :
      PollKeeps s (others.foldl step s) index := by
    induction others generalizing s with
    | nil => exact .refl s index
    | cons other rest ih =>
        exact (alone s other (apart other List.mem_cons_self)).trans
          (ih (fun other member => apart other (List.mem_cons_of_mem _ member)) _)
  refine ⟨before.foldl step s, leaves before ahead s, ?_⟩
  rw [split, List.foldl_append, List.foldl_cons]
  exact leaves after behind _

/-- The peer waits for a response that the turns of `read` have not brought, or its outcome is written. -/
inductive SlotPhase (configured : Bool) (log : PeerLog) (poll : PollReadings) (index : Fin 4)
    (read : List TurnReadings) (s : PollState) : Prop
  | waiting (active : (s.contexts index).active = true)
      (requested : poll.request? = some (requestOf (s.contexts index)))
      (unanswered : ∀ turn ∈ read, (requestOf (s.contexts index)).turn index (PeerLog.exchanges log).head? turn = none)
      (logged : PeerLogged configured log s.monitor index)
  | settled (inactive : (s.contexts index).active = false)
      (settled : Settled configured log (poll.outcome? index (PeerLog.exchanges log).head?) index s.monitor)

theorem SlotPhase.keep {read : List TurnReadings} (phase : SlotPhase configured log poll index read s)
    (keeps : PollKeeps s t index) : SlotPhase configured log poll index read t := by
  obtain ⟨context, slot⟩ := keeps
  cases phase with
  | waiting active requested unanswered logged =>
      rw [← context] at active requested unanswered
      exact .waiting active requested unanswered (logged.keep slot)
  | settled inactive settled =>
      rw [← context] at inactive
      exact .settled inactive (settled.keep slot)

theorem finish_inactive (s : PollState) (index : Fin 4) : ((s.finish index).contexts index).active = false := by
  simp [PollState.finish, PollState.setContext, finishContext]

section

variable {read rest : List TurnReadings} {turn : TurnReadings}

theorem outcome_of_turn {request : PeerRequest} {previous : Option PeerExchange}
    (requested : poll.request? = some request) (split : poll.turns = read ++ turn :: rest)
    (unanswered : ∀ turn ∈ read, request.turn index previous turn = none) {outcome : PollOutcome}
    (settles : request.turn index previous turn = some outcome) : poll.outcome? index previous = some outcome := by
  rw [PollReadings.outcome?, requested]
  dsimp only
  rw [split, List.findSome?_append, List.findSome?_eq_none_iff.mpr unanswered, Option.none_or,
    List.findSome?_cons, settles]

theorem SlotPhase.waitsOn (active : (s.contexts index).active = true)
    (requested : poll.request? = some (requestOf (s.contexts index)))
    (unanswered : ∀ turn ∈ read, (requestOf (s.contexts index)).turn index (PeerLog.exchanges log).head? turn = none)
    (nothing : (requestOf (s.contexts index)).turn index (PeerLog.exchanges log).head? turn = none)
    (logged : PeerLogged configured log s.monitor index) :
    SlotPhase configured log poll index (read ++ [turn]) s := by
  refine .waiting active requested ?_ logged
  rw [List.forall_mem_append, List.forall_mem_singleton]
  exact ⟨unanswered, nothing⟩

structure InTurn (configured : Bool) (log : PeerLog) (poll : PollReadings) (index : Fin 4)
    (read : List TurnReadings) (turn : TurnReadings) (s : PollState) : Prop where
  phase : SlotPhase configured log poll index read s
  early : (s.contexts index).active = true → turn.nowUs < (s.contexts index).deadlineUs

theorem InTurn.keep (inTurn : InTurn configured log poll index read turn s) (keeps : PollKeeps s t index) :
    InTurn configured log poll index read turn t := by
  refine ⟨inTurn.phase.keep keeps, ?_⟩
  rw [keeps.context]
  exact inTurn.early

theorem SlotPhase.expire (phase : SlotPhase configured log poll index read s)
    (split : poll.turns = read ++ turn :: rest) :
    InTurn configured log poll index read turn (expireAll turn.nowUs s) := by
  obtain ⟨t, before, after⟩ := @foldl_visits (expireStep turn.nowUs) index
    (fun _ _ ne => expireStep_keeps (fun eq => (ne eq).elim) _) s
  refine InTurn.keep ?_ after
  cases phase.keep before with
  | settled inactive settled =>
      have kept : expireStep turn.nowUs t index = t := if_neg (by simp [inactive])
      rw [kept]
      exact ⟨.settled inactive settled, fun active => by simp [inactive] at active⟩
  | waiting active requested unanswered logged =>
      by_cases late : turn.nowUs ≥ (t.contexts index).deadlineUs
      · have settles : (requestOf (t.contexts index)).turn index (PeerLog.exchanges log).head? turn =
            some (.missed .degraded { timeout := true }) := if_pos late
        have expired : expireStep turn.nowUs t index = (t.fail index { timeout := true }).finish index :=
          if_pos ⟨active, late⟩
        rw [expired]
        refine ⟨.settled (finish_inactive _ index) ?_, fun active => by simp [finish_inactive] at active⟩
        rw [outcome_of_turn requested split unanswered settles]
        exact logged.fail _ _
      · have kept : expireStep turn.nowUs t index = t := if_neg fun both => late both.2
        rw [kept]
        exact ⟨.waiting active requested unanswered logged, fun _ => not_le.mp late⟩

theorem InTurn.fail (inTurn : InTurn configured log poll index read turn s)
    (split : poll.turns = read ++ turn :: rest) (select : turn.select = .failed) :
    SlotPhase configured log poll index read (failAll s) := by
  obtain ⟨t, before, after⟩ := @foldl_visits failStep index
    (fun _ _ ne => failStep_keeps fun eq => (ne eq).elim) s
  refine SlotPhase.keep ?_ after
  obtain ⟨phase, early⟩ := inTurn.keep before
  cases phase with
  | settled inactive settled =>
      have kept : failStep t index = t := if_neg (by simp [inactive])
      rw [kept]
      exact .settled inactive settled
  | waiting active requested unanswered logged =>
      have settles : (requestOf (t.contexts index)).turn index (PeerLog.exchanges log).head? turn =
          some (.missed .degraded {}) := by
        rw [PeerRequest.turn, if_neg (not_le.mpr (early active)), select]
      rw [failStep, if_pos active]
      refine .settled (finish_inactive _ index) ?_
      rw [outcome_of_turn requested split unanswered settles]
      exact logged.fail _ _

theorem InTurn.pass (inTurn : InTurn configured log poll index read turn s)
    (settles : ∀ request : PeerRequest, turn.nowUs < request.deadlineUs →
      request.turn index (PeerLog.exchanges log).head? turn = none) :
    SlotPhase configured log poll index (read ++ [turn]) s := by
  obtain ⟨phase, early⟩ := inTurn
  cases phase with
  | settled inactive settled => exact .settled inactive settled
  | waiting active requested unanswered logged =>
      exact .waitsOn active requested unanswered (settles _ (early active)) logged

theorem InTurn.receive (inTurn : InTurn configured log poll index read turn s)
    (split : poll.turns = read ++ turn :: rest) {readable : Fin 4 → Bool} (select : turn.select = .readable readable) :
    SlotPhase configured log poll index (read ++ [turn]) (receiveAll readable turn s) := by
  obtain ⟨t, before, after⟩ := @foldl_visits (receiveStep readable turn) index
    (fun _ _ ne => receiveStep_keeps (fun eq => (ne eq).elim) _ _) s
  refine SlotPhase.keep ?_ after
  have inTurn := inTurn.keep before
  have turned (request : PeerRequest) (early : turn.nowUs < request.deadlineUs) :
      request.turn index (PeerLog.exchanges log).head? turn = if readable index then
        request.receive (PeerLog.exchanges log).head? (turn.responses index) (turn.received index) else none := by
    rw [PeerRequest.turn, if_neg (not_le.mpr early), select]
  rw [receiveStep]
  by_cases ready : (t.contexts index).active = true ∧ readable index = true
  · rw [if_pos ready]
    obtain ⟨active, ready⟩ := ready
    cases inTurn.phase with
    | settled inactive => simp [inactive] at active
    | waiting _ requested unanswered logged =>
        dsimp only
        have turned := turned (requestOf (t.contexts index)) (inTurn.early active)
        rw [if_pos ready] at turned
        rcases logged.processResponse (t.contexts index) (turn.received index) (turn.responses index) with
          ⟨unchanged, nothing⟩ | ⟨finished, settled⟩
        · have passed : SlotPhase configured log poll index (read ++ [turn]) t :=
            .waitsOn active requested unanswered (turned.trans nothing) logged
          rw [unchanged]
          have kept : PollKeeps t ({ t with monitor := t.monitor }.setContext index (t.contexts index)) index :=
            ⟨Function.update_self _ _ _, rfl, rfl, rfl⟩
          split
          next => exact passed.keep ⟨kept.context, kept.slot⟩
          next => exact passed.keep kept
        · have completed : (finishContext (t.contexts index)).completed = true := rfl
          rw [finished, if_pos completed]
          refine .settled (by simp [PollState.setContext, finishContext]) ?_
          obtain ⟨outcome, received, -⟩ := settled.logged
          rw [outcome_of_turn requested split unanswered (turned.trans received), ← received]
          exact settled
  · rw [if_neg ready]
    by_cases unready : readable index = true
    · cases inTurn.phase with
      | settled inactive settled => exact .settled inactive settled
      | waiting active => exact (ready ⟨active, unready⟩).elim
    · exact inTurn.pass fun request early => by rw [turned request early, if_neg unready]

end

/-! ## The turns -/

theorem SlotPhase.turn {read rest : List TurnReadings} {turn : TurnReadings}
    (phase : SlotPhase configured log poll index read s) (split : poll.turns = read ++ turn :: rest) :
    SlotPhase configured log poll index (if (pollTurn s turn).1 then read ++ [turn] else read)
      (pollTurn s turn).2 := by
  have inTurn := phase.expire split
  rw [pollTurn]
  split
  next => exact inTurn.phase
  have silent (select : turn.select = .interrupted ∨ turn.select = .timeout) :
      SlotPhase configured log poll index (read ++ [turn]) (expireAll turn.nowUs s) := by
    refine inTurn.pass fun request early => ?_
    rw [PeerRequest.turn, if_neg (not_le.mpr early)]
    obtain select | select := select <;> rw [select]
  cases select : turn.select with
  | interrupted => exact silent (.inl select)
  | timeout => exact silent (.inr select)
  | failed => exact inTurn.fail split select
  | readable peers => exact inTurn.receive split select

theorem SlotPhase.loop {read turns : List TurnReadings} (phase : SlotPhase configured log poll index read s)
    (split : poll.turns = read ++ turns) :
    ∃ read, SlotPhase configured log poll index read (pollLoop turns s).2 := by
  induction turns generalizing read s with
  | nil => exact ⟨read, phase⟩
  | cons turn rest ih =>
      have next := phase.turn split
      rw [pollLoop]
      split
      next => exact ⟨read, phase⟩
      dsimp only
      split
      next goesOn =>
        rw [if_pos goesOn] at next
        exact ih next (by simp [split])
      next => exact ⟨_, next⟩

theorem Unpolled.turn (unpolled : Unpolled configured log index s) (turn : TurnReadings) :
    Unpolled configured log index (pollTurn s turn).2 := by
  have expired : Unpolled configured log index (expireAll turn.nowUs s) :=
    foldl_rule (fun _ s => Unpolled configured log index s) unpolled
      fun _ other _ _ _ unpolled => unpolled.keep (expireStep_keeps (fun _ => unpolled.inactive) _)
  rw [pollTurn]
  split
  next => exact expired
  cases turn.select with
  | interrupted => exact expired
  | timeout => exact expired
  | failed =>
      exact foldl_rule (fun _ s => Unpolled configured log index s) expired
        fun _ other _ _ _ unpolled => unpolled.keep (failStep_keeps fun _ => unpolled.inactive)
  | readable peers =>
      exact foldl_rule (fun _ s => Unpolled configured log index s) expired
        fun _ other _ _ _ unpolled => unpolled.keep (receiveStep_keeps (fun _ => unpolled.inactive) peers turn)

theorem Unpolled.loop (unpolled : Unpolled configured log index s) (turns : List TurnReadings) :
    Unpolled configured log index (pollLoop turns s).2 := by
  induction turns generalizing s with
  | nil => exact unpolled
  | cons turn rest ih =>
      rw [pollLoop]
      split
      next => exact unpolled
      dsimp only
      split
      next => exact ih (unpolled.turn turn)
      next => exact unpolled.turn turn

theorem Unpolled.begin (unpolled : Unpolled configured log index s) {timeoutMs : Nat} {readings : BeginReadings}
    (begins : poll.begin = readings) (limit : poll.timeoutMs = timeoutMs) :
    SlotPhase configured log poll index [] (beginPoll s index timeoutMs readings) := by
  subst begins limit
  have logged := unpolled.logged
  have fails {t : PollState} {flags : FailureFlags} (unrequested : poll.request? = none)
      (dns : flags = { dns := poll.begin.address.isNone }) (same : t.monitor = s.monitor)
      (inactive : (t.contexts index).active = false) :
      SlotPhase configured log poll index [] (t.fail index flags) := by
    rw [← same] at logged
    subst dns
    refine .settled inactive ?_
    rw [PollReadings.outcome?, unrequested]
    exact logged.fail _ _
  unfold beginPoll
  cases address : poll.begin.address with
  | none =>
      exact fails (by simp [PollReadings.request?, address]) (by simp [address]) rfl
        (by simp [PollState.setContext, idleContext])
  | some address' =>
      dsimp only
      cases sock : poll.begin.sock with
      | none =>
          exact fails (by simp [PollReadings.request?, address, sock]) (by simp [address]) rfl
            (by simp [PollState.setContext, idleContext])
      | some sock' =>
          dsimp only
          cases t1 : poll.begin.t1 with
          | none =>
              exact fails (by simp [PollReadings.request?, address, sock, t1]) (by simp [address]) rfl
                (by simp [PollState.setContext, idleContext])
          | some t1' =>
              dsimp only
              by_cases sent : poll.begin.sent = true
              · rw [if_neg (not_not.mpr sent)]
                refine .waiting (by simp [PollState.setContext]) ?_ (by simp) logged
                simp [PollReadings.request?, requestOf, PollState.setContext, address, sock, t1, sent]
              · rw [if_pos sent]
                exact fails (by simp [PollReadings.request?, address, sock, t1, sent]) (by simp [address]) rfl
                  (by simp [PollState.setContext, idleContext])

theorem pollAllPeers_inactive {monitor : PeerMonitor} (lock : monitor.lock = true) {config : Fin 4 → PeerConfig}
    {timeoutMs : Nat} {begins : Fin 4 → BeginReadings} {turns : List TurnReadings}
    (ended : (pollAllPeers monitor config timeoutMs begins turns).1 = true) (index : Fin 4) :
    ((pollAllPeers monitor config timeoutMs begins turns).2.contexts index).active = false := by
  have tracked := (beginAll_begun monitor config timeoutMs begins).tracked
  have keeps := loopKeeps turns (begun_phases lock config timeoutMs begins)
    (by
      rw [forPeers_state]
      exact tracked)
    (by simp [forPeers_heads])
  rw [← pollTraced] at keeps
  rw [pollTraced_state] at ended ⊢
  have idle := keeps.ended ended
  rw [keeps.tracked.pending] at idle
  exact active_of_count_zero idle index

theorem pollAllPeers_logged {monitor : PeerMonitor} {config : Fin 4 → PeerConfig} {timeoutMs : Nat}
    {begins : Fin 4 → BeginReadings} {turns : List TurnReadings}
    (ended : (pollAllPeers monitor config timeoutMs begins turns).1 = true)
    (logged : PeerLogged configured log monitor index) :
    if (config index).configured then
      Settled configured log (PollReadings.outcome? index (PeerLog.exchanges log).head?
        ⟨(config index).server, timeoutMs, begins index, turns⟩) index
          (pollAllPeers monitor config timeoutMs begins turns).2.monitor
    else PeerLogged configured log (pollAllPeers monitor config timeoutMs begins turns).2.monitor index := by
  have start : Unpolled configured log index (pollStart monitor) := ⟨rfl, logged⟩
  obtain ⟨t, before, after⟩ := @foldl_visits (beginStep config timeoutMs begins) index
    (by
      intro s other ne
      rw [beginStep]
      split
      next => exact beginPoll_keeps ne _ _
      next => exact .refl s index) (pollStart monitor)
  have reached := start.keep before
  split
  next polled =>
    have begun : SlotPhase configured log ⟨(config index).server, timeoutMs, begins index, turns⟩ index []
        (beginAll config timeoutMs begins (pollStart monitor)) := by
      refine SlotPhase.keep ?_ after
      rw [beginStep, if_pos polled]
      exact reached.begin rfl rfl
    obtain ⟨read, phase⟩ := begun.loop rfl
    cases phase with
    | settled _ settled => exact settled
    | waiting active =>
        have inactive := pollAllPeers_inactive logged.lock ended index
        rw [pollAllPeers, active] at inactive
        cases inactive
  next unpolled =>
    have begun : Unpolled configured log index (beginAll config timeoutMs begins (pollStart monitor)) := by
      have skipped : beginStep config timeoutMs begins t index = t := if_neg unpolled
      rw [skipped] at after
      exact reached.keep after
    exact (begun.loop turns).logged

end NtsTimeServer.Proof
