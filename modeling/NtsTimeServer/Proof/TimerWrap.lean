import NtsTimeServer.Model.TimerSystem

namespace NtsTimeServer.Proof
open Model Lib

def TicksFit (ticks : Nat) : Prop := ticks * 1000000 < 2 ^ 64

theorem ticksToUs_eq {ticks : Nat} (fit : TicksFit ticks) : ticksToUs ticks = ticks := by
  rw [ticksToUs, u64_eq fit]
  exact Nat.mul_div_cancel ticks (by decide)

theorem ticksToUs_exact_iff (ticks : Nat) :
    ticksToUs ticks = ticks * 1000000 / appPpsTimerResolutionHz ↔ TicksFit ticks := by
  rw [show ticks * 1000000 / appPpsTimerResolutionHz = ticks from
    Nat.mul_div_cancel ticks (by decide)]
  constructor
  · intro exact
    have wrapped := Nat.mod_lt (ticks * 1000000) (Nat.two_pow_pos 64)
    have product := Nat.div_mul_le_self (u64 (ticks * 1000000)) 1000000
    change ticksToUs ticks * 1000000 ≤ u64 (ticks * 1000000) at product
    rw [exact] at product
    exact product.trans_lt wrapped
  · exact ticksToUs_eq

/-- A sample for the later edge is not turned away for its capture time. -/
def LaterEdgeTaken (earlierUs laterUs : Nat) : Prop :=
  ∀ (F : Type) [Double F] (config : Kconfig) (clock : ClockContext F) (lock : Bool)
    (sample : TimingSample), clock.lastSampleCaptureUs = earlierUs → sample.ppsCaptureUs = laterUs →
    (submitSample config clock lock sample).1 = .invalidState →
    sample.utcSeconds ≤ clock.lastSampleUtcSeconds

theorem laterEdgeTaken_of_lt {earlierUs laterUs : Nat} (lt : earlierUs < laterUs) :
    LaterEdgeTaken earlierUs laterUs := by
  rintro F _ config clock lock sample rfl rfl refused
  by_contra older
  have elapsed : ¬sample.utcSeconds - clock.lastSampleUtcSeconds ≤ 0 := by omega
  have order : ¬(sample.ppsCaptureUs ≤ clock.lastSampleCaptureUs ∨
      sample.utcSeconds ≤ clock.lastSampleUtcSeconds) := not_or.mpr ⟨not_le.mpr lt, older⟩
  simp only [submitSample, order, elapsed, if_false] at refused
  split at refused
  · cases refused
  split at refused
  · cases refused
  split at refused
  · cases refused
  split at refused
  · cases refused
  split at refused <;> cases refused

structure CountsOn (earlier later : Nat) : Prop where
  ordered : ticksToUs earlier ≤ ticksToUs later
  earlierExact : ticksToUs earlier = earlier * 1000000 / appPpsTimerResolutionHz
  laterExact : ticksToUs later = later * 1000000 / appPpsTimerResolutionHz
  taken : earlier < later → LaterEdgeTaken (ticksToUs earlier) (ticksToUs later)

theorem TicksFit.earlier {earlier later : Nat} (fit : TicksFit later) (le : earlier ≤ later) :
    TicksFit earlier := (Nat.mul_le_mul_right _ le).trans_lt fit

theorem countsOn_iff {earlier later : Nat} (le : earlier ≤ later) :
    CountsOn earlier later ↔ TicksFit later := by
  constructor
  · exact fun counts => (ticksToUs_exact_iff later).mp counts.laterExact
  · intro fit
    have fit' := fit.earlier le
    refine ⟨?_, (ticksToUs_exact_iff earlier).mpr fit', (ticksToUs_exact_iff later).mpr fit, ?_⟩
    · rwa [ticksToUs_eq fit, ticksToUs_eq fit']
    · intro lt
      rw [ticksToUs_eq fit, ticksToUs_eq fit']
      exact laterEdgeTaken_of_lt lt

/-! ## Runs of the service -/

def captured (s : TimerSystem) : List Nat := (s.delivered.map Capture.ticks).reverse ++ s.queuedTicks

structure Timed (s : TimerSystem) : Prop where
  queue : s.pps.captureQueue = s.queuedTicks.map ticksToUs
  converted : ∀ capture ∈ s.delivered, capture.captureUs = ticksToUs capture.ticks
  ordered : (captured s).Pairwise (· ≤ ·)
  fit : ∀ ticks ∈ captured s, TicksFit ticks
  past : ∀ ticks ∈ captured s, ticks ≤ s.ticks
  readings : s.readings.Pairwise (· ≥ ·)
  readingsPast : ∀ nowUs ∈ s.readings, nowUs ≤ s.ticks

theorem timerStart_timed : Timed timerStart :=
  ⟨rfl, nofun, .nil, nofun, nofun, .nil, nofun⟩

theorem Timed.wait {s : TimerSystem} (timed : Timed s) {ticks : Nat} (le : s.ticks ≤ ticks) :
    Timed { s with ticks := ticks } :=
  ⟨timed.queue, timed.converted, timed.ordered, timed.fit,
    fun count mem => (timed.past count mem).trans le, timed.readings,
    fun nowUs mem => (timed.readingsPast nowUs mem).trans le⟩

theorem Timed.enqueue {s : TimerSystem} (timed : Timed s) (fit : TicksFit s.ticks) :
    Timed { s with
      pps := { s.pps with captureQueue := s.pps.captureQueue ++ [ticksToUs s.ticks] }
      queuedTicks := s.queuedTicks ++ [s.ticks] } := by
  have added : captured { s with
      pps := { s.pps with captureQueue := s.pps.captureQueue ++ [ticksToUs s.ticks] }
      queuedTicks := s.queuedTicks ++ [s.ticks] } = captured s ++ [s.ticks] :=
    (List.append_assoc _ _ _).symm
  refine ⟨?_, timed.converted, ?_, ?_, ?_, timed.readings, timed.readingsPast⟩
  · simp [timed.queue]
  · rw [added]
    refine List.pairwise_append.mpr ⟨timed.ordered, List.pairwise_singleton _ _, ?_⟩
    intro ticks mem latest last
    rw [List.mem_singleton.mp last]
    exact timed.past ticks mem
  · rw [added]
    exact List.forall_mem_append.mpr ⟨timed.fit, by simpa using fit⟩
  · rw [added]
    exact List.forall_mem_append.mpr ⟨timed.past, by simp⟩

theorem edge_timed {s : TimerSystem} (timed : Timed s) {ticks : Nat} (le : s.ticks ≤ ticks)
    (fit : TicksFit ticks) (latched : Bool) : Timed (s.apply (.edge ticks latched)) := by
  have later := timed.wait le
  cases latched with
  | false => simpa [TimerSystem.apply, ppsGpioIsrCaptured] using later
  | true =>
      by_cases room : s.pps.captureQueue.length < appPpsEventQueueLength
      · simpa [TimerSystem.apply, ppsGpioIsrCaptured, ppsGpioIsr, room] using later.enqueue fit
      · simpa [TimerSystem.apply, ppsGpioIsrCaptured, ppsGpioIsr, room] using later

theorem waitForCapture_timed {s : TimerSystem} (timed : Timed s) :
    Timed (s.apply .waitForCapture) := by
  cases queued : s.queuedTicks with
  | nil =>
      have empty : s.pps.captureQueue = [] := by rw [timed.queue, queued, List.map_nil]
      simpa [TimerSystem.apply, ppsWaitForCapture, empty] using timed
  | cons ticks rest =>
      have full : s.pps.captureQueue = ticksToUs ticks :: rest.map ticksToUs := by
        rw [timed.queue, queued, List.map_cons]
      obtain ⟨pps, applied, queue⟩ : ∃ pps, s.apply .waitForCapture = { s with
          pps := pps
          queuedTicks := rest
          delivered := ⟨ticks, ticksToUs ticks⟩ :: s.delivered } ∧
          pps.captureQueue = rest.map ticksToUs := by
        simp only [TimerSystem.apply, ppsWaitForCapture, full, queued, List.tail_cons, List.headD_cons]
        exact ⟨_, rfl, rfl⟩
      have same : captured { s with
          pps := pps
          queuedTicks := rest
          delivered := ⟨ticks, ticksToUs ticks⟩ :: s.delivered } = captured s := by
        simp [captured, queued]
      rw [applied]
      exact ⟨queue, List.forall_mem_cons.mpr ⟨rfl, timed.converted⟩, same ▸ timed.ordered,
        same ▸ timed.fit, fun count mem => timed.past count (same ▸ mem), timed.readings,
        timed.readingsPast⟩

theorem getMonotonic_timed {s : TimerSystem} (timed : Timed s) {ticks : Nat} (le : s.ticks ≤ ticks)
    (fit : TicksFit ticks) (counted : Bool) : Timed (s.apply (.getMonotonic ticks counted)) := by
  have later := timed.wait le
  cases counted with
  | false => simpa [TimerSystem.apply, ppsServiceGetMonotonicUs] using later
  | true =>
      refine ⟨later.queue, later.converted, later.ordered, later.fit, later.past, ?_, ?_⟩
      · refine List.pairwise_cons.mpr ⟨fun nowUs mem => ?_, timed.readings⟩
        rw [ticksToUs_eq fit]
        exact later.readingsPast nowUs mem
      · exact List.forall_mem_cons.mpr ⟨(ticksToUs_eq fit).le, later.readingsPast⟩

def EventFits (s : TimerSystem) (event : TimerEvent) : Prop := TicksFit (event.ticks s)

instance (s : TimerSystem) (event : TimerEvent) : Decidable (EventFits s event) :=
  inferInstanceAs (Decidable (_ < 2 ^ 64))

theorem timerStep_timed {s t : TimerSystem} (timed : Timed s) {event : TimerEvent}
    (fits : EventFits s event) (taken : timerStep s event = some t) : Timed t := by
  unfold timerStep at taken
  split at taken <;> cases taken
  rename_i le
  cases event with
  | edge ticks latched => exact edge_timed timed le fits latched
  | waitForCapture => exact waitForCapture_timed timed
  | getMonotonic ticks counted => exact getMonotonic_timed timed le fits counted

theorem timer_run_timed {past : List TimerEvent} {s : TimerSystem}
    (run : Run timerStep EventFits timerStart past s) : Timed s :=
  run.invariant (fun _ s => Timed s) timerStart_timed
    fun _ _ _ _ timed fits taken => timerStep_timed timed fits taken

/-! ## Edges in the order of the counter -/

structure InOrder (s : TimerSystem) : Prop where
  exact : ∀ capture ∈ s.delivered,
    capture.captureUs = capture.ticks * 1000000 / appPpsTimerResolutionHz
  captures : s.delivered.Pairwise fun later earlier => earlier.captureUs ≤ later.captureUs ∧
    (earlier.ticks < later.ticks → LaterEdgeTaken earlier.captureUs later.captureUs)
  readings : s.readings.Pairwise fun later earlier => earlier ≤ later

theorem Timed.inOrder {s : TimerSystem} (timed : Timed s) : InOrder s := by
  have fit : ∀ capture ∈ s.delivered, TicksFit capture.ticks := fun capture mem =>
    timed.fit _ (List.mem_append_left _ (List.mem_reverse.mpr (List.mem_map_of_mem mem)))
  have delivered : s.delivered.Pairwise fun later earlier => earlier.ticks ≤ later.ticks :=
    List.pairwise_map.mp (List.pairwise_reverse.mp (List.pairwise_append.mp timed.ordered).1)
  refine ⟨?_, ?_, timed.readings⟩
  · intro capture mem
    exact (timed.converted capture mem).trans ((ticksToUs_exact_iff _).mpr (fit capture mem))
  · refine delivered.imp_of_mem ?_
    intro later earlier laterMem earlierMem le
    have counts := (countsOn_iff le).mpr (fit later laterMem)
    rw [timed.converted later laterMem, timed.converted earlier earlierMem]
    exact ⟨counts.ordered, counts.taken⟩

theorem counter_goes_on_iff {earlier later : Nat} (le : earlier ≤ later) (_counter : later < 2 ^ 64) :
    (CountsOn earlier later ↔ later * 1000000 < 2 ^ 64) ∧
      ∀ (past : List TimerEvent) (s : TimerSystem),
        Run timerStep EventFits timerStart past s → InOrder s :=
  ⟨countsOn_iff le, fun _ _ run => (timer_run_timed run).inOrder⟩

def twoEdges : Option TimerSystem :=
  execute timerStep EventFits timerStart [.edge 1000000 true, .getMonotonic 1200000 true,
    .waitForCapture, .edge 2000000 true, .waitForCapture, .getMonotonic 2000300 true]

theorem twoEdges_executes : twoEdges.isSome = true := by decide

theorem twoEdges_in_order : CountsOn 1000000 2000000 ∧ InOrder (twoEdges.get twoEdges_executes) := by
  obtain ⟨counts, inOrder⟩ := counter_goes_on_iff (show 1000000 ≤ 2000000 by decide) (by decide)
  exact ⟨counts.mpr (by decide), inOrder _ _ (execute_run (Option.some_get twoEdges_executes).symm)⟩

def lastEdgeTicks : Nat := 18446744073709

def servedClock : ClockContext ℚ :=
  { clockInit with
    solutionValid := true
    anchorCaptureUs := ticksToUs lastEdgeTicks
    anchorUtcSeconds := 1700000000
    lastSampleCaptureUs := ticksToUs lastEdgeTicks
    lastSampleUtcSeconds := 1700000000
    acceptedSamples := 100
    state := .synchronized }

/-- One second after the last count that fits, the counter is back at 999999 and the sample for the
edge is rejected. -/
theorem counter_goes_back :
    (¬∀ earlier later : Nat, earlier ≤ later → later < 2 ^ 64 → CountsOn earlier later) ∧
    ticksToUs (lastEdgeTicks + 1000000) = 999999 ∧
    (submitSample Kconfig.default servedClock true
      ⟨ticksToUs (lastEdgeTicks + 1000000), 1700000001, 0, .noWarning⟩).1 = .invalidState := by
  refine ⟨fun claim => ?_, by decide, ?_⟩
  · have counts := claim lastEdgeTicks (lastEdgeTicks + 1000000) (by decide) (by decide)
    exact absurd counts.ordered (by decide)
  · simp [submitSample, servedClock, clockInit, appClockMaxTimingQerrNs,
      show ticksToUs (lastEdgeTicks + 1000000) = 999999 by decide,
      show ticksToUs lastEdgeTicks = 18446744073709 by decide]

end NtsTimeServer.Proof
