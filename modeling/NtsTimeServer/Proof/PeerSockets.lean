import Mathlib.Algebra.BigOperators.Fin
import NtsTimeServer.Lib.Transducer
import NtsTimeServer.Model.PeerMonitor

namespace NtsTimeServer.Proof
open Model Lib

def Opens (contexts : Fin 4 → PollContext) (index : Fin 4) : Prop := (contexts index).sock.isSome

instance (contexts : Fin 4 → PollContext) (index : Fin 4) : Decidable (Opens contexts index) :=
  inferInstanceAs (Decidable (_ = true))

def AtMostOneOpen (contexts : Fin 4 → PollContext) : Prop :=
  ∀ i j, Opens contexts i → Opens contexts j → i = j

/-- At every point at most one context holds an open socket, and none does in the end. -/
structure Serialized (result : Bool × PollState) : Prop where
  points : ∀ contexts ∈ result.2.points, AtMostOneOpen contexts
  returned : result.1 = true → ∀ index, ¬Opens result.2.contexts index

def BeginReadings.opens (readings : BeginReadings) : Bool :=
  readings.address.isSome && readings.sock.isSome

def BeginReadings.succeeds (readings : BeginReadings) : Bool :=
  BeginReadings.opens readings && readings.t1.isSome && readings.sent

/-- The poll of a peer opens its socket after that of an earlier peer has begun. -/
def Overlaps (config : Fin 4 → PeerConfig) (begins : Fin 4 → BeginReadings) : Prop :=
  ∃ first second, first < second ∧
    ((config first).configured = true ∧ BeginReadings.succeeds (begins first) = true) ∧
    (config second).configured = true ∧ BeginReadings.opens (begins second) = true

structure Closes (before after : PollState) : Prop where
  contexts : ∀ index, Opens after.contexts index → Opens before.contexts index
  points : ∀ contexts ∈ after.points, contexts ∈ before.points ∨
    ∀ index, Opens contexts index → Opens before.contexts index
  kept : ∀ contexts ∈ before.points, contexts ∈ after.points

theorem Closes.refl (s : PollState) : Closes s s :=
  ⟨fun _ => id, fun _ member => Or.inl member, fun _ => id⟩

theorem Closes.trans {first second third : PollState} (h₁ : Closes first second)
    (h₂ : Closes second third) : Closes first third := by
  refine ⟨fun index opens => h₁.contexts index (h₂.contexts index opens), fun contexts member => ?_,
    fun contexts member => h₂.kept contexts (h₁.kept contexts member)⟩
  rcases h₂.points contexts member with member | opens
  · exact h₁.points contexts member
  · exact Or.inr fun index opened => h₁.contexts index (opens index opened)

theorem closes_setContext {s : PollState} {index : Fin 4} {ctx : PollContext}
    (closed : ctx.sock.isSome → Opens s.contexts index) : Closes s (s.setContext index ctx) := by
  have fewer : ∀ other, Opens (Function.update s.contexts index ctx) other → Opens s.contexts other :=
    (Function.forall_update_iff s.contexts fun other ctx => ctx.sock.isSome → Opens s.contexts other).mpr
      ⟨closed, fun _ _ => id⟩
  refine ⟨fewer, fun contexts member => ?_, fun _ member => List.mem_cons_of_mem _ member⟩
  rcases List.mem_cons.mp member with rfl | member
  · exact Or.inr fewer
  · exact Or.inl member

def activeCount (contexts : Fin 4 → PollContext) : Nat := ∑ index, (contexts index).active.toNat

theorem activeCount_update (contexts : Fin 4 → PollContext) (index : Fin 4) (ctx : PollContext) :
    activeCount (Function.update contexts index ctx) + (contexts index).active.toNat =
      activeCount contexts + ctx.active.toNat := by
  have moved : (fun other => (Function.update contexts index ctx other).active.toNat) =
      Function.update (fun other => (contexts other).active.toNat) index ctx.active.toNat := by
    funext other
    exact Function.apply_update (fun _ ctx => ctx.active.toNat) contexts index ctx other
  have member := Finset.mem_univ index
  rw [activeCount, activeCount, moved, Finset.sum_update_of_mem member,
    ← Finset.add_sum_erase _ _ member, Finset.sdiff_singleton_eq_erase]
  omega

theorem active_of_count_zero {contexts : Fin 4 → PollContext} (none : activeCount contexts = 0)
    (index : Fin 4) : (contexts index).active = false := by
  have zero := Finset.sum_eq_zero_iff.mp none index (Finset.mem_univ index)
  cases active : (contexts index).active with
  | false => rfl
  | true =>
      rw [active] at zero
      cases zero

structure Tracked (s : PollState) : Prop where
  active : ∀ index, (s.contexts index).active = true ↔ Opens s.contexts index
  unfinished : ∀ index, (s.contexts index).active = true → (s.contexts index).completed = false
  pending : s.pending = activeCount s.contexts

theorem Tracked.setContext {s : PollState} (tracked : Tracked s) {index : Fin 4} {ctx : PollContext}
    (active : ctx.active = true ↔ ctx.sock.isSome) (unfinished : ctx.active = true → ctx.completed = false)
    {pending : Nat} (count : pending + (s.contexts index).active.toNat =
      s.pending + ctx.active.toNat) :
    Tracked { s.setContext index ctx with pending := pending } where
  active := (Function.forall_update_iff s.contexts fun _ ctx => ctx.active = true ↔ ctx.sock.isSome).mpr
    ⟨active, fun other _ => tracked.active other⟩
  unfinished := (Function.forall_update_iff s.contexts fun _ ctx => ctx.active = true →
    ctx.completed = false).mpr ⟨unfinished, fun other _ => tracked.unfinished other⟩
  pending := by
    change pending = activeCount (Function.update s.contexts index ctx)
    have updated := activeCount_update s.contexts index ctx
    have before := tracked.pending
    omega

theorem Tracked.congr {s t : PollState} (tracked : Tracked s) (contexts : t.contexts = s.contexts)
    (pending : t.pending = s.pending) : Tracked t := by
  refine ⟨?_, ?_, ?_⟩ <;> rw [contexts]
  · exact tracked.active
  · exact tracked.unfinished
  · exact pending.trans tracked.pending

theorem Tracked.withMonitor {s : PollState} (tracked : Tracked s) (monitor : PeerMonitor) :
    Tracked { s with monitor := monitor } := ⟨tracked.active, tracked.unfinished, tracked.pending⟩

theorem closes_withMonitor (s : PollState) (monitor : PeerMonitor) :
    Closes s { s with monitor := monitor } :=
  ⟨fun _ => id, fun _ member => Or.inl member, fun _ => id⟩

theorem Tracked.finish {s : PollState} (tracked : Tracked s) {index : Fin 4}
    (active : (s.contexts index).active = true) : Tracked (s.finish index) := by
  refine tracked.setContext (by simp [finishContext]) (by simp [finishContext]) ?_
  have counted := tracked.pending
  have updated := activeCount_update s.contexts index (finishContext (s.contexts index))
  rw [active, finishContext] at *
  simp only [Bool.toNat_true, Bool.toNat_false] at *
  omega

theorem closes_finish (s : PollState) (index : Fin 4) : Closes s (s.finish index) := by
  have closes : Closes s (s.setContext index (finishContext (s.contexts index))) :=
    closes_setContext (by simp [finishContext])
  exact ⟨closes.contexts, closes.points, closes.kept⟩

theorem closes_foldl {step : PollState → Fin 4 → PollState}
    (closes : ∀ s index, Tracked s → Tracked (step s index) ∧ Closes s (step s index))
    {s : PollState} (tracked : Tracked s) (list : List (Fin 4)) :
    Tracked (list.foldl step s) ∧ Closes s (list.foldl step s) := by
  refine foldl_rule (fun _ t => Tracked t ∧ Closes s t) ⟨tracked, Closes.refl s⟩ ?_
  intro _ index _ t _ held
  obtain ⟨tracked', closes'⟩ := closes t index held.1
  exact ⟨tracked', held.2.trans closes'⟩

theorem expireAll_closes (nowUs : Int) {s : PollState} (tracked : Tracked s) :
    Tracked (expireAll nowUs s) ∧ Closes s (expireAll nowUs s) := by
  refine closes_foldl (fun s index tracked => ?_) tracked _
  split
  · rename_i expired
    exact ⟨(tracked.withMonitor _).finish expired.1,
      (closes_withMonitor s _).trans (closes_finish _ index)⟩
  · exact ⟨tracked, Closes.refl s⟩

theorem failAll_closes {s : PollState} (tracked : Tracked s) :
    Tracked (failAll s) ∧ Closes s (failAll s) := by
  refine closes_foldl (fun s index tracked => ?_) tracked _
  split
  · rename_i active
    exact ⟨(tracked.withMonitor _).finish active,
      (closes_withMonitor s _).trans (closes_finish _ index)⟩
  · exact ⟨tracked, Closes.refl s⟩

theorem processResponse_context (monitor : PeerMonitor) (index : Fin 4) (ctx : PollContext)
    (received : ReceiveOutcome) (readings : ResponseReadings) :
    (processResponse monitor index ctx received readings).2 = ctx ∨
      (processResponse monitor index ctx received readings).2 = finishContext ctx := by
  cases received with
  | datagram bytes source => exact Or.inr rfl
  | wouldBlock => exact Or.inl rfl
  | failed => exact Or.inr rfl

theorem receiveAll_closes (readable : Fin 4 → Bool) (readings : TurnReadings) {s : PollState}
    (tracked : Tracked s) :
    Tracked (receiveAll readable readings s) ∧ Closes s (receiveAll readable readings s) := by
  refine closes_foldl (fun s index tracked => ?_) tracked _
  split
  · rename_i ready
    have active := ready.1
    dsimp only
    generalize (processResponse s.monitor index (s.contexts index) (readings.received index)
      (readings.responses index)).1 = monitor
    have tracked' := tracked.withMonitor monitor
    have closes := closes_withMonitor s monitor
    rcases processResponse_context s.monitor index (s.contexts index) (readings.received index)
      (readings.responses index) with same | finished
    · rw [same, if_neg (by simp [tracked.unfinished index active])]
      exact ⟨tracked'.setContext (tracked.active index) (tracked.unfinished index) rfl,
        closes.trans (closes_setContext fun _ => (tracked.active index).mp active)⟩
    · have completed : (finishContext (s.contexts index)).completed = true := rfl
      rw [finished, if_pos completed]
      exact ⟨tracked'.finish active, closes.trans (closes_finish _ index)⟩
  · exact ⟨tracked, Closes.refl s⟩

theorem Tracked.closed {s : PollState} (tracked : Tracked s)
    (none : ∀ index, (s.contexts index).active = false) (index : Fin 4) : ¬Opens s.contexts index := by
  intro opens
  have active := (tracked.active index).mpr opens
  rw [none index] at active
  cases active

theorem failAll_inactive (s : PollState) (index : Fin 4) :
    ((failAll s).contexts index).active = false := by
  have done : ∀ other ∈ List.finRange 4, ((failAll s).contexts other).active = false := by
    refine foldl_rule (fun read (t : PollState) => ∀ other ∈ read, (t.contexts other).active = false)
      (fun _ member => by cases member) ?_
    intro read a rest t _ inactive
    split
    · have written := Function.forall_update_iff t.contexts (a := a)
        (b := finishContext (t.contexts a)) fun other ctx => other ∈ read ++ [a] → ctx.active = false
      exact written.mpr ⟨fun _ => rfl, fun other ne member => inactive other (by simpa [ne] using member)⟩
    · rename_i idle
      exact List.forall_mem_append.mpr ⟨inactive, List.forall_mem_singleton.mpr (by simpa using idle)⟩
  exact done index (List.mem_finRange index)

theorem pollTurn_closes (readings : TurnReadings) {s : PollState} (tracked : Tracked s) :
    Tracked (pollTurn s readings).2 ∧ Closes s (pollTurn s readings).2 ∧
      ((pollTurn s readings).1 = false → ∀ index, ¬Opens (pollTurn s readings).2.contexts index) := by
  obtain ⟨expired, closes⟩ := expireAll_closes readings.nowUs tracked
  rw [pollTurn]
  split
  · rename_i stop
    refine ⟨expired, closes, fun _ => expired.closed ?_⟩
    rcases stop with none | none
    · rw [expired.pending] at none
      exact active_of_count_zero none
    · exact none
  cases readings.select with
  | interrupted => exact ⟨expired, closes, nofun⟩
  | timeout => exact ⟨expired, closes, nofun⟩
  | failed =>
      obtain ⟨tracked', closes'⟩ := failAll_closes expired
      exact ⟨tracked', closes.trans closes', fun _ => tracked'.closed (failAll_inactive _)⟩
  | readable peers =>
      obtain ⟨tracked', closes'⟩ := receiveAll_closes peers readings expired
      exact ⟨tracked', closes.trans closes', nofun⟩

theorem pollLoop_closes (turns : List TurnReadings) {s : PollState} (tracked : Tracked s) :
    Closes s (pollLoop turns s).2 ∧
      ((pollLoop turns s).1 = true → ∀ index, ¬Opens (pollLoop turns s).2.contexts index) := by
  have ended {s : PollState} (tracked : Tracked s) (none : s.pending = 0) :
      ∀ index, ¬Opens s.contexts index := by
    rw [tracked.pending] at none
    exact tracked.closed (active_of_count_zero none)
  induction turns generalizing s with
  | nil => exact ⟨Closes.refl s, fun returned => ended tracked (by simpa [pollLoop] using returned)⟩
  | cons readings rest ih =>
      rw [pollLoop]
      split
      · rename_i none
        exact ⟨Closes.refl s, fun _ => ended tracked none⟩
      obtain ⟨tracked', closes, stopped⟩ := pollTurn_closes readings tracked
      dsimp only
      split
      · obtain ⟨closes', returned⟩ := ih tracked'
        exact ⟨closes.trans closes', returned⟩
      · rename_i stop
        exact ⟨closes, fun _ => stopped (by simpa using stop)⟩

/-! ## Beginning the polls -/

/-- What `begin_poll` does to the sockets: the points it passes through differ from `s` in the one
context only, which ends open exactly if the poll has begun. -/
structure Began (s t : PollState) (index : Fin 4) (readings : BeginReadings) : Prop where
  tracked : Tracked t
  now : t.contexts ∈ t.points
  others : ∀ other, other ≠ index → t.contexts other = s.contexts other
  own : Opens t.contexts index ↔ BeginReadings.succeeds readings = true
  kept : ∀ contexts ∈ s.points, contexts ∈ t.points
  points : ∀ contexts ∈ t.points, contexts ∈ s.points ∨
    (∀ other, other ≠ index → contexts other = s.contexts other) ∧
      (Opens contexts index → BeginReadings.opens readings = true)
  opened : BeginReadings.opens readings = true → ∃ contexts ∈ t.points, Opens contexts index ∧
    ∀ other, other ≠ index → contexts other = s.contexts other

theorem Began.withMonitor {s t : PollState} {index : Fin 4} {readings : BeginReadings}
    (began : Began s t index readings) (monitor : PeerMonitor) :
    Began s { t with monitor := monitor } index readings :=
  ⟨began.tracked.withMonitor monitor, began.now, began.others, began.own, began.kept, began.points,
    began.opened⟩

theorem began_unopened {s : PollState} (tracked : Tracked s) {index : Fin 4}
    (idle : (s.contexts index).active = false) {readings : BeginReadings}
    (unopened : BeginReadings.opens readings = false) {ctx : PollContext} (sock : ctx.sock = none)
    (active : ctx.active = false) : Began s (s.setContext index ctx) index readings where
  tracked := tracked.setContext (by simp [sock, active]) (by simp [active]) (by rw [idle, active])
  now := List.mem_cons_self
  others other ne := Function.update_of_ne ne _ _
  own := by
    change (Function.update s.contexts index ctx index).sock.isSome = true ↔ _
    rw [Function.update_self, sock]
    simp [BeginReadings.succeeds, unopened]
  kept contexts member := List.mem_cons_of_mem _ member
  points contexts member := by
    rcases List.mem_cons.mp member with rfl | member
    · refine Or.inr ⟨fun other ne => Function.update_of_ne ne _ _, fun opens => ?_⟩
      rw [Opens, Function.update_self, sock] at opens
      cases opens
    · exact Or.inl member
  opened opens := by
    rw [unopened] at opens
    cases opens

theorem began_opened {s : PollState} (tracked : Tracked s) {index : Fin 4}
    (idle : (s.contexts index).active = false) {readings : BeginReadings}
    (opens : BeginReadings.opens readings = true) {opened ctx : PollContext}
    (sock : opened.sock.isSome) (active : ctx.active = true ↔ ctx.sock.isSome)
    (unfinished : ctx.completed = false)
    (succeeds : ctx.active = BeginReadings.succeeds readings) :
    Began s { (s.setContext index opened).setContext index ctx with
      pending := s.pending + ctx.active.toNat } index readings where
  tracked := by
    have tracked' := tracked.setContext active (fun _ => unfinished)
      (show s.pending + ctx.active.toNat + (s.contexts index).active.toNat =
        s.pending + ctx.active.toNat by rw [idle]; rfl)
    exact tracked'.congr (Function.update_idem _ _ _) rfl
  now := List.mem_cons_self
  others other ne := by
    change Function.update (Function.update s.contexts index opened) index ctx other = _
    rw [Function.update_of_ne ne, Function.update_of_ne ne]
  own := by
    change (Function.update (Function.update s.contexts index opened) index ctx index).sock.isSome =
      true ↔ _
    rw [Function.update_self, ← active, succeeds]
  kept contexts member := List.mem_cons_of_mem _ (List.mem_cons_of_mem _ member)
  points contexts member := by
    rcases List.mem_cons.mp member with rfl | member
    · refine Or.inr ⟨fun other ne => ?_, fun _ => opens⟩
      change Function.update (Function.update s.contexts index opened) index ctx other = _
      rw [Function.update_of_ne ne, Function.update_of_ne ne]
    rcases List.mem_cons.mp member with rfl | member
    · exact Or.inr ⟨fun other ne => Function.update_of_ne ne _ _, fun _ => opens⟩
    · exact Or.inl member
  opened _ := by
    refine ⟨Function.update s.contexts index opened, List.mem_cons_of_mem _ List.mem_cons_self, ?_,
      fun other ne => Function.update_of_ne ne _ _⟩
    rw [Opens, Function.update_self]
    exact sock

theorem beginPoll_began {s : PollState} (tracked : Tracked s) {index : Fin 4}
    (idle : ¬Opens s.contexts index) (timeoutMs : Nat) (readings : BeginReadings) :
    Began s (beginPoll s index timeoutMs readings) index readings := by
  have inactive : (s.contexts index).active = false :=
    Bool.eq_false_iff.mpr fun active => idle ((tracked.active index).mp active)
  obtain ⟨address, sock, t1, sent, nowUs⟩ := readings
  cases address with
  | none => exact (began_unopened tracked inactive rfl rfl rfl).withMonitor _
  | some address =>
      cases sock with
      | none => exact (began_unopened tracked inactive rfl rfl rfl).withMonitor _
      | some sock =>
          cases t1 with
          | none =>
              exact (began_opened tracked inactive rfl rfl (by simp [idleContext]) rfl rfl).withMonitor _
          | some t1 =>
              cases sent with
              | false =>
                  exact (began_opened tracked inactive rfl rfl (by simp [idleContext]) rfl
                    rfl).withMonitor _
              | true => exact began_opened tracked inactive rfl rfl (by simp) rfl rfl

structure BegunTo (config : Fin 4 → PeerConfig) (begins : Fin 4 → BeginReadings)
    (read : List (Fin 4)) (s : PollState) : Prop where
  tracked : Tracked s
  now : s.contexts ∈ s.points
  ahead : ∀ index, index ∉ read → ¬Opens s.contexts index
  behind : ∀ index ∈ read, Opens s.contexts index ↔
    (config index).configured = true ∧ BeginReadings.succeeds (begins index) = true
  points : ¬Overlaps config begins → ∀ contexts ∈ s.points, AtMostOneOpen contexts
  overlapping : ∀ first second, first < second → second ∈ read →
    ((config first).configured = true ∧ BeginReadings.succeeds (begins first) = true) →
    (config second).configured = true ∧ BeginReadings.opens (begins second) = true →
    ∃ contexts ∈ s.points, Opens contexts first ∧ Opens contexts second

theorem finRange_split {read rest : List (Fin 4)} {index : Fin 4}
    (split : List.finRange 4 = read ++ index :: rest) : ∀ other, other ∈ read ↔ other < index := by
  have sorted := List.pairwise_lt_finRange 4
  rw [split] at sorted
  obtain ⟨-, after, across⟩ := List.pairwise_append.mp sorted
  intro other
  constructor
  · exact fun member => across other member index List.mem_cons_self
  · intro less
    have member := List.mem_finRange other
    rw [split] at member
    rcases List.mem_append.mp member with member | member
    · exact member
    rcases List.mem_cons.mp member with rfl | member
    · exact absurd less (lt_irrefl _)
    · exact absurd less (List.rel_of_pairwise_cons after member).asymm

theorem Began.atMostOne {s t : PollState} {index : Fin 4} {readings : BeginReadings}
    (began : Began s t index readings) (now : AtMostOneOpen s.contexts)
    (points : ∀ contexts ∈ s.points, AtMostOneOpen contexts)
    (alone : BeginReadings.opens readings = true → ∀ other, other ≠ index → ¬Opens s.contexts other) :
    ∀ contexts ∈ t.points, AtMostOneOpen contexts := by
  intro contexts member
  rcases began.points contexts member with member | ⟨others, own⟩
  · exact points contexts member
  have apart (other : Fin 4) (ne : other ≠ index) (opens : Opens contexts other) :
      ¬Opens contexts index := by
    intro opened
    rw [Opens, others other ne] at opens
    exact alone (own opened) other ne opens
  intro i j opensI opensJ
  by_cases sameI : i = index
  · by_cases sameJ : j = index
    · rw [sameI, sameJ]
    · exact absurd (sameI ▸ opensI) (apart j sameJ opensJ)
  · by_cases sameJ : j = index
    · exact absurd (sameJ ▸ opensJ) (apart i sameI opensI)
    · rw [Opens, others i sameI] at opensI
      rw [Opens, others j sameJ] at opensJ
      exact now i j opensI opensJ

section

variable {config : Fin 4 → PeerConfig} {begins : Fin 4 → BeginReadings} {read rest : List (Fin 4)}
  {index : Fin 4} {s : PollState}

theorem BegunTo.opened_before (begun : BegunTo config begins read s)
    (before : ∀ other, other ∈ read ↔ other < index) {other : Fin 4} (opens : Opens s.contexts other) :
    other < index := by
  by_contra ahead
  exact begun.ahead other (fun member => ahead ((before other).mp member)) opens

theorem begunTo_begins (begun : BegunTo config begins read s)
    (before : ∀ other, other ∈ read ↔ other < index) (configured : (config index).configured = true)
    (timeoutMs : Nat) :
    BegunTo config begins (read ++ [index]) (beginPoll s index timeoutMs (begins index)) := by
  have fresh : index ∉ read := fun member => lt_irrefl _ ((before index).mp member)
  have began := beginPoll_began begun.tracked (begun.ahead index fresh) timeoutMs (begins index)
  refine ⟨began.tracked, began.now, fun other ahead => ?_, fun other behind => ?_, fun serial => ?_,
    fun first second less seen earlier later => ?_⟩
  · rw [List.mem_append, List.mem_singleton, not_or] at ahead
    rw [Opens, began.others other ahead.2]
    exact begun.ahead other ahead.1
  · rcases List.mem_append.mp behind with behind | same
    · have ne : other ≠ index := fun same => fresh (same ▸ behind)
      rw [Opens, began.others other ne]
      exact begun.behind other behind
    · obtain rfl := List.mem_singleton.mp same
      rw [began.own]
      exact ⟨fun succeeds => ⟨configured, succeeds⟩, And.right⟩
  · have points := begun.points serial
    refine began.atMostOne (points s.contexts begun.now) points fun opens other _ opened => ?_
    have less := begun.opened_before before opened
    exact serial ⟨other, index, less, (begun.behind other ((before other).mpr less)).mp opened,
      configured, opens⟩
  · rcases List.mem_append.mp seen with seen | same
    · obtain ⟨contexts, member, both⟩ := begun.overlapping first second less seen earlier later
      exact ⟨contexts, began.kept contexts member, both⟩
    · obtain rfl := List.mem_singleton.mp same
      obtain ⟨contexts, member, opened, others⟩ := began.opened later.2
      refine ⟨contexts, member, ?_, opened⟩
      rw [Opens, others first less.ne]
      exact (begun.behind first ((before first).mpr less)).mpr earlier

theorem begunTo_skips (begun : BegunTo config begins read s)
    (before : ∀ other, other ∈ read ↔ other < index)
    (unconfigured : ¬(config index).configured = true) :
    BegunTo config begins (read ++ [index]) s := by
  have fresh : index ∉ read := fun member => lt_irrefl _ ((before index).mp member)
  refine ⟨begun.tracked, begun.now, fun other ahead => ?_, fun other behind => ?_, begun.points,
    fun first second less seen earlier later => ?_⟩
  · exact begun.ahead other fun member => ahead (List.mem_append_left _ member)
  · rcases List.mem_append.mp behind with behind | same
    · exact begun.behind other behind
    · obtain rfl := List.mem_singleton.mp same
      exact iff_of_false (begun.ahead other fresh) fun both => unconfigured both.1
  · rcases List.mem_append.mp seen with seen | same
    · exact begun.overlapping first second less seen earlier later
    · obtain rfl := List.mem_singleton.mp same
      exact absurd later.1 unconfigured

theorem begunTo_step (split : List.finRange 4 = read ++ index :: rest)
    (begun : BegunTo config begins read s) (timeoutMs : Nat) :
    BegunTo config begins (read ++ [index]) (if (config index).configured then
      beginPoll s index timeoutMs (begins index) else s) := by
  by_cases configured : (config index).configured = true
  · rw [if_pos configured]
    exact begunTo_begins begun (finRange_split split) configured timeoutMs
  · rw [if_neg configured]
    exact begunTo_skips begun (finRange_split split) configured

end

theorem beginAll_begun (monitor : PeerMonitor) (config : Fin 4 → PeerConfig) (timeoutMs : Nat)
    (begins : Fin 4 → BeginReadings) :
    BegunTo config begins (List.finRange 4) (beginAll config timeoutMs begins (pollStart monitor)) := by
  have none (index : Fin 4) : ¬Opens (pollStart monitor).contexts index := nofun
  refine foldl_rule (BegunTo config begins) ⟨⟨fun index => ⟨nofun, fun opens => (none index opens).elim⟩,
    nofun, ?_⟩, List.mem_singleton_self _, fun index _ => none index, nofun, ?_, nofun⟩ ?_
  · rfl
  · intro _ contexts member i j opens
    rw [List.mem_singleton.mp member] at opens
    exact (none i opens).elim
  · exact fun _ _ _ _ split begun => begunTo_step split begun timeoutMs

theorem overlaps_not_serialized {monitor : PeerMonitor} {config : Fin 4 → PeerConfig}
    {timeoutMs : Nat} {begins : Fin 4 → BeginReadings} {turns : List TurnReadings}
    (overlaps : Overlaps config begins) :
    ¬Serialized (pollAllPeers monitor config timeoutMs begins turns) := by
  obtain ⟨first, second, less, earlier, later⟩ := overlaps
  intro serialized
  have begun := beginAll_begun monitor config timeoutMs begins
  obtain ⟨contexts, member, opens, opens'⟩ :=
    begun.overlapping first second less (List.mem_finRange second) earlier later
  have kept := (pollLoop_closes turns begun.tracked).1.kept contexts member
  exact less.ne (serialized.points contexts kept first second opens opens')

/-- No two sockets are ever open together, exactly if no peer's socket is opened after the poll of
an earlier peer has begun; all are closed in the end in any case. -/
theorem peer_polling_serialized_iff (monitor : PeerMonitor) (config : Fin 4 → PeerConfig)
    (timeoutMs : Nat) (begins : Fin 4 → BeginReadings) (turns : List TurnReadings) :
    Serialized (pollAllPeers monitor config timeoutMs begins turns) ↔ ¬Overlaps config begins := by
  have begun := beginAll_begun monitor config timeoutMs begins
  obtain ⟨closes, returned⟩ := pollLoop_closes turns begun.tracked
  refine ⟨fun serialized overlaps => overlaps_not_serialized overlaps serialized, fun serial => ?_⟩
  refine ⟨fun contexts member => ?_, returned⟩
  rcases closes.points contexts member with member | fewer
  · exact begun.points serial contexts member
  · intro i j opensI opensJ
    exact begun.points serial _ begun.now i j (fewer i opensI) (fewer j opensJ)

theorem two_peers_hold_two_sockets : ¬∀ (monitor : PeerMonitor) (config : Fin 4 → PeerConfig)
    (timeoutMs : Nat) (begins : Fin 4 → BeginReadings) (turns : List TurnReadings),
    Serialized (pollAllPeers monitor config timeoutMs begins turns) := by
  intro claim
  let status : PeerStatus :=
    ⟨.unknown, 0, 0, 0, [], 0, 0, 0, 0, 0, 0, 0, 0, 0, 0, 0, 0, 0, 0, 0, 0, 0, 0, 0, 0, 0, 0⟩
  let monitor : PeerMonitor := ⟨true, fun _ => status, fun _ => ⟨[], [], 0, 0, 0, false, 0⟩⟩
  let config : Fin 4 → PeerConfig := fun index => ⟨decide (index < 2), ['n', 't', 'p']⟩
  let begins : Fin 4 → BeginReadings := fun index =>
    ⟨some 0xC0000201, some (54 + index.val), some ⟨3908988800, 0⟩, true, 1000000⟩
  have overlaps : Overlaps config begins :=
    ⟨0, 1, by decide, ⟨by decide, by decide⟩, by decide, by decide⟩
  exact overlaps_not_serialized overlaps (claim monitor config 2000 begins [])

end NtsTimeServer.Proof
