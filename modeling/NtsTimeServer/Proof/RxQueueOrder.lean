import NtsTimeServer.Proof.RxTimestamp

namespace NtsTimeServer.Proof
open Model Lib

/-- Enqueued, not returned and not overwritten: 16 later entries come before a slot is used again. -/
structure Live (s : RxQueueLog) (place : Nat) : Prop where
  enqueued : place < s.history.length
  kept : s.history.length ≤ place + 16
  fresh : place ∉ s.taken

def QueuedStamp.isFor (entry : QueuedStamp) (clientIpv4 clientPort : Nat) : Prop :=
  entry.clientIpv4 = clientIpv4 ∧ entry.clientPort = clientPort

def LiveFor (s : RxQueueLog) (clientIpv4 clientPort place : Nat) : Prop :=
  Live s place ∧ ∃ entry ∈ s.history[place]?, QueuedStamp.isFor entry clientIpv4 clientPort

structure Oldest (s : RxQueueLog) (clientIpv4 clientPort place : Nat) : Prop where
  live : LiveFor s clientIpv4 clientPort place
  least : ∀ other, LiveFor s clientIpv4 clientPort other → place ≤ other

def Takes (s : RxQueueLog) (clientIpv4 clientPort place : Nat) : Prop :=
  (s.take clientIpv4 clientPort).taken = place :: s.taken ∧
    ∃ entry ∈ s.history[place]?, ∃ queue,
      s.queue.take clientIpv4 clientPort = some (entry.ptpTime, queue)

structure TakesOldest (s : RxQueueLog) (clientIpv4 clientPort : Nat) : Prop where
  hit : ∀ found, s.queue.take clientIpv4 clientPort = some found →
    ∃ place, Oldest s clientIpv4 clientPort place ∧ Takes s clientIpv4 clientPort place
  miss : s.queue.take clientIpv4 clientPort = none → ∀ place, ¬LiveFor s clientIpv4 clientPort place

/-- Counting entries from 1, as the code does: the number of the client's oldest entry does not end
in 2^32 - 1, and the counter has not wrapped between that entry and the client's others. -/
def Unwrapped (s : RxQueueLog) (clientIpv4 clientPort : Nat) : Prop :=
  ∀ place, Oldest s clientIpv4 clientPort place → (place + 2) % 2 ^ 32 ≠ 0 ∧
    ∀ other, LiveFor s clientIpv4 clientPort other → (other + 1) / 2 ^ 32 = (place + 1) / 2 ^ 32

/-! ## The slots along a run -/

structure SlotLogged (s : RxQueueLog) (index : Fin 16) : Prop where
  live : Live s (s.place index)
  position : s.place index % 16 = index.val
  entry : s.history[s.place index]? = some ⟨(s.queue.entries index).clientIpv4,
    (s.queue.entries index).clientPort, (s.queue.entries index).ptpTime⟩
  sequence : (s.queue.entries index).sequence = u32 (s.place index + 1)

structure Logged (s : RxQueueLog) : Prop where
  sequence : s.queue.sequence = u32 s.history.length
  next : s.queue.next.val = s.history.length % 16
  slot : ∀ index, (s.queue.entries index).valid = true → SlotLogged s index
  holds : ∀ place, Live s place → ∃ index, (s.queue.entries index).valid = true ∧
    s.place index = place
  once : s.taken.Nodup
  past : ∀ place ∈ s.taken, place < s.history.length

theorem rxQueueLogStart_logged : Logged rxQueueLogStart where
  sequence := rfl
  next := rfl
  slot := nofun
  holds _ live := absurd live.enqueued (Nat.not_lt_zero _)
  once := List.nodup_nil
  past := nofun

theorem SlotLogged.enqueue {s t : RxQueueLog} {index : Fin 16} (slot : SlotLogged s index)
    (next : s.queue.next.val = s.history.length % 16) (other : index ≠ s.queue.next)
    {entry : QueuedStamp} (history : t.history = s.history ++ [entry]) (taken : t.taken = s.taken)
    (place : t.place index = s.place index)
    (entries : t.queue.entries index = s.queue.entries index) : SlotLogged t index := by
  have enqueued := slot.live.enqueued
  have kept := slot.live.kept
  have position := slot.position
  have length : t.history.length = s.history.length + 1 := by simp [history]
  -- a slot that is not written next holds none of the entries 16 back
  have apart : index.val ≠ s.history.length % 16 := fun same => other (Fin.ext (same.trans next.symm))
  refine ⟨⟨?_, ?_, ?_⟩, ?_, ?_, ?_⟩
  · rw [length, place]
    omega
  · rw [length, place]
    omega
  · rw [taken, place]
    exact slot.live.fresh
  · rw [place]
    exact position
  · rw [history, place, entries, List.getElem?_append_left enqueued]
    exact slot.entry
  · rw [place, entries]
    exact slot.sequence

theorem logged_enqueue {s t : RxQueueLog} (logged : Logged s) {entry : QueuedStamp}
    (queue : t.queue = s.queue.enqueue entry.clientIpv4 entry.clientPort entry.ptpTime)
    (history : t.history = s.history ++ [entry])
    (place : t.place = Function.update s.place s.queue.next s.history.length)
    (taken : t.taken = s.taken) : Logged t := by
  have length : t.history.length = s.history.length + 1 := by simp [history]
  have newSequence : u32 (s.queue.sequence + 1) = u32 (s.history.length + 1) := by
    rw [logged.sequence, u32_succ]
  have newEntry : t.queue.entries s.queue.next = ⟨true, entry.clientIpv4, entry.clientPort,
      u32 (s.history.length + 1), entry.ptpTime⟩ := by
    rw [queue, ← newSequence]
    exact Function.update_self _ _ _
  have newPlace : t.place s.queue.next = s.history.length := by rw [place, Function.update_self]
  have entries {index : Fin 16} (other : index ≠ s.queue.next) :
      t.queue.entries index = s.queue.entries index := by
    rw [queue, RxQueue.enqueue_of_ne other]
  have places {index : Fin 16} (other : index ≠ s.queue.next) : t.place index = s.place index := by
    rw [place, Function.update_of_ne other]
  refine ⟨?_, ?_, fun index valid => ?_, fun number live => ?_, ?_, fun number mem => ?_⟩
  · rw [queue, length]
    exact newSequence
  · have stepped : (s.queue.next + 1).val = (s.queue.next.val + 1) % 16 := Fin.val_add _ _
    rw [queue, length]
    refine stepped.trans ?_
    rw [logged.next, Nat.mod_add_mod]
  · by_cases same : index = s.queue.next
    · subst same
      refine ⟨⟨?_, ?_, ?_⟩, ?_, ?_, ?_⟩
      · rw [newPlace, length]
        exact Nat.lt_succ_self _
      · rw [newPlace, length]
        omega
      · rw [newPlace, taken]
        exact fun mem => Nat.lt_irrefl _ (logged.past _ mem)
      · rw [newPlace, logged.next]
      · rw [newPlace, newEntry, history]
        simp
      · rw [newPlace, newEntry]
    · exact (logged.slot index (by rwa [entries same] at valid)).enqueue logged.next same history taken
        (places same) (entries same)
  · have enqueued := live.enqueued
    have kept := live.kept
    rw [length] at enqueued kept
    by_cases newest : number = s.history.length
    · exact ⟨s.queue.next, by rw [newEntry], newPlace.trans newest.symm⟩
    · obtain ⟨index, valid, at'⟩ := logged.holds number
        ⟨by omega, by omega, taken ▸ live.fresh⟩
      have other : index ≠ s.queue.next := by
        rintro rfl
        have position := (logged.slot _ valid).position
        rw [at', logged.next] at position
        omega
      exact ⟨index, by rwa [entries other], (places other).trans at'⟩
  · rw [taken]
    exact logged.once
  · rw [taken] at mem
    rw [length]
    exact (logged.past number mem).trans (Nat.lt_succ_self _)

theorem logged_receive {s : RxQueueLog} (logged : Logged s) (buffer : Bytes)
    (info : Option EthMacTime) : Logged (s.receive buffer info) := by
  unfold RxQueueLog.receive ethInputToNetifWithTimestamp
  cases client : ethFrameGetNtpClient buffer with
  | none => exact logged
  | some client' =>
      cases stamp : timestampValid info with
      | none => exact logged
      | some ptpTime => exact logged_enqueue logged rfl rfl rfl rfl

theorem take_of_find {s : RxQueueLog} {clientIpv4 clientPort : Nat} {index : Fin 16}
    (found : s.queue.find clientIpv4 clientPort = some index) :
    s.take clientIpv4 clientPort =
      { s with queue := s.queue.clear index, taken := s.place index :: s.taken } := by
  simp [RxQueueLog.take, RxQueue.take, found]

theorem logged_clear {s : RxQueueLog} (logged : Logged s) {index : Fin 16}
    (valid : (s.queue.entries index).valid = true) :
    Logged { s with queue := s.queue.clear index, taken := s.place index :: s.taken } := by
  have slot := logged.slot index valid
  have apart {other : Fin 16} (valid' : (s.queue.entries other).valid = true) (ne : other ≠ index) :
      s.place other ≠ s.place index := by
    intro same
    have position := (logged.slot other valid').position
    rw [same, slot.position] at position
    exact ne (Fin.ext position.symm)
  refine ⟨logged.sequence, logged.next, fun other valid' => ?_, fun place live => ?_, ?_, ?_⟩
  · have same := RxQueue.clear_of_valid valid'
    have ne : other ≠ index := by
      rintro rfl
      simp [RxQueue.clear] at valid'
    rw [same] at valid'
    obtain ⟨live, position, entry, sequence⟩ := logged.slot other valid'
    refine ⟨⟨live.enqueued, live.kept, ?_⟩, position, ?_, ?_⟩
    · exact fun mem => (List.mem_cons.mp mem).elim (apart valid' ne) live.fresh
    · rw [same]
      exact entry
    · rw [same]
      exact sequence
  · obtain ⟨taken, fresh⟩ := not_or.mp (List.mem_cons.not.mp live.fresh)
    obtain ⟨other, valid', rfl⟩ := logged.holds place ⟨live.enqueued, live.kept, fresh⟩
    have ne : other ≠ index := fun same => taken (by rw [same])
    have kept : (s.queue.clear index).entries other = s.queue.entries other :=
      Function.update_of_ne ne _ _
    exact ⟨other, (congrArg RxQueueEntry.valid kept).trans valid', rfl⟩
  · exact List.nodup_cons.mpr ⟨slot.live.fresh, logged.once⟩
  · exact List.forall_mem_cons.mpr ⟨slot.live.enqueued, logged.past⟩

theorem logged_step {s t : RxQueueLog} {event : RxQueueEvent} (logged : Logged s)
    (taken : rxQueueStep s event = some t) : Logged t := by
  cases event with
  | frame buffer info =>
      obtain rfl := Option.some.inj taken
      exact logged_receive logged buffer info
  | take clientIpv4 clientPort =>
      obtain rfl := Option.some.inj taken
      cases found : s.queue.find clientIpv4 clientPort with
      | none =>
          simp only [RxQueueLog.take, found]
          exact logged
      | some index =>
          rw [take_of_find found]
          exact logged_clear logged (isFor_iff.mp (find_least found).1).1

theorem logged_of_run {past : List RxQueueEvent} {s : RxQueueLog}
    (run : FreeRun rxQueueStep rxQueueLogStart past s) : Logged s :=
  run.invariant (fun _ s => Logged s) rxQueueLogStart_logged
    fun _ _ _ _ logged _ taken => logged_step logged taken

/-! ## What a take returns -/

section

variable {s : RxQueueLog} {clientIpv4 clientPort : Nat}

theorem liveFor_of_slot (logged : Logged s) {index : Fin 16}
    (matched : (s.queue.entries index).isFor clientIpv4 clientPort = true) :
    LiveFor s clientIpv4 clientPort (s.place index) := by
  obtain ⟨valid, client⟩ := isFor_iff.mp matched
  have slot := logged.slot index valid
  exact ⟨slot.live, _, slot.entry, client⟩

theorem slot_of_liveFor (logged : Logged s) {place : Nat}
    (live : LiveFor s clientIpv4 clientPort place) : ∃ index, s.place index = place ∧
      (s.queue.entries index).isFor clientIpv4 clientPort = true ∧
      (s.queue.entries index).sequence = u32 (place + 1) := by
  obtain ⟨alive, entry, at', client⟩ := live
  obtain ⟨index, valid, rfl⟩ := logged.holds place alive
  have slot := logged.slot index valid
  obtain rfl := Option.some.inj (slot.entry.symm.trans at')
  exact ⟨index, rfl, isFor_iff.mpr ⟨valid, client⟩, slot.sequence⟩

theorem takes_of_find (logged : Logged s) {index : Fin 16}
    (found : s.queue.find clientIpv4 clientPort = some index) :
    LiveFor s clientIpv4 clientPort (s.place index) ∧ Takes s clientIpv4 clientPort (s.place index) := by
  have matched := (find_least found).1
  have slot := logged.slot index (isFor_iff.mp matched).1
  refine ⟨liveFor_of_slot logged matched, by rw [take_of_find found], _, slot.entry,
    s.queue.clear index, ?_⟩
  rw [RxQueue.take, found]
  rfl

theorem exists_oldest {place : Nat} (live : LiveFor s clientIpv4 clientPort place) :
    ∃ oldest, Oldest s clientIpv4 clientPort oldest := by
  classical
  have some : ∃ place, LiveFor s clientIpv4 clientPort place := ⟨place, live⟩
  exact ⟨Nat.find some, Nat.find_spec some, fun other => Nat.find_min' some⟩

theorem takesOldest_of_unwrapped (logged : Logged s) (unwrapped : Unwrapped s clientIpv4 clientPort) :
    TakesOldest s clientIpv4 clientPort := by
  refine ⟨fun found taken => ?_, fun missed place live => ?_⟩
  · cases index : s.queue.find clientIpv4 clientPort with
    | none => simp [RxQueue.take, index] at taken
    | some index' =>
        obtain ⟨live, takes⟩ := takes_of_find logged index
        refine ⟨s.place index', ⟨live, fun other live' => ?_⟩, takes⟩
        obtain ⟨oldest, first⟩ := exists_oldest live
        obtain ⟨-, epochs⟩ := unwrapped oldest first
        obtain ⟨slot, at', matched, sequence⟩ := slot_of_liveFor logged first.live
        obtain ⟨matched', least⟩ := find_least index
        have less := least slot matched
        have epoch := epochs _ live
        have below := first.least other live'
        rw [sequence, (logged.slot index' (isFor_iff.mp matched').1).sequence] at less
        simp only [u32] at less
        omega
  · obtain ⟨oldest, first⟩ := exists_oldest live
    obtain ⟨sentinel, -⟩ := unwrapped oldest first
    obtain ⟨slot, -, matched, sequence⟩ := slot_of_liveFor logged first.live
    have index : s.queue.find clientIpv4 clientPort = none := by simpa [RxQueue.take] using missed
    have above := (scanLeast_none index).2 slot (List.mem_finRange slot) matched
    rw [sequence] at above
    simp only [u32] at above
    omega

theorem unwrapped_of_takesOldest (logged : Logged s) (takes : TakesOldest s clientIpv4 clientPort) :
    Unwrapped s clientIpv4 clientPort := by
  intro place first
  cases index : s.queue.find clientIpv4 clientPort with
  | none => exact absurd first.live (takes.miss (by simp [RxQueue.take, index]) place)
  | some index' =>
      obtain ⟨-, takenThis, entry, -, queue, taken⟩ := takes_of_find logged index
      obtain ⟨place', oldest, takenOldest, -⟩ := takes.hit _ taken
      have same : place' = place := le_antisymm (oldest.least _ first.live) (first.least _ oldest.live)
      obtain ⟨at', -⟩ := List.cons.inj (takenThis.symm.trans takenOldest)
      obtain ⟨-, matched, below, least⟩ := scanLeast_least index
      rw [(logged.slot index' (isFor_iff.mp matched).1).sequence, at', same] at below
      refine ⟨?_, fun other live => ?_⟩
      · simp only [u32] at below
        omega
      · obtain ⟨slot, -, matched', sequence⟩ := slot_of_liveFor logged live
        have less := least slot (List.mem_finRange slot) matched'
        rw [(logged.slot index' (isFor_iff.mp matched).1).sequence, at', same, sequence] at less
        have enqueued := live.1.enqueued
        have kept := first.live.1.kept
        have later := first.least other live
        simp only [u32] at less
        omega

end

/-- Every entry is returned at most once and only to its own client, and a take returns the oldest
entry of its client exactly while the counter has not wrapped since that entry. -/
theorem take_is_oldest_iff {past : List RxQueueEvent} {s : RxQueueLog}
    (run : FreeRun rxQueueStep rxQueueLogStart past s) : s.taken.Nodup ∧
      ∀ clientIpv4 clientPort,
        (∀ found, s.queue.take clientIpv4 clientPort = some found →
          ∃ place, LiveFor s clientIpv4 clientPort place ∧ Takes s clientIpv4 clientPort place) ∧
        (TakesOldest s clientIpv4 clientPort ↔ Unwrapped s clientIpv4 clientPort) := by
  have logged := logged_of_run run
  refine ⟨logged.once, fun clientIpv4 clientPort => ⟨fun found taken => ?_,
    unwrapped_of_takesOldest logged, takesOldest_of_unwrapped logged⟩⟩
  cases index : s.queue.find clientIpv4 clientPort with
  | none => simp [RxQueue.take, index] at taken
  | some index' => exact ⟨_, takes_of_find logged index⟩

def twoRequests : Option RxQueueLog :=
  execute rxQueueStep (fun _ _ => True) rxQueueLogStart
    [.frame requestBuffer (some ⟨100, 0⟩), .frame requestBuffer (some ⟨101, 0⟩)]

theorem twoRequests_execute : twoRequests.isSome = true := by decide +kernel

theorem twoRequests_first_is_taken :
    TakesOldest (twoRequests.get twoRequests_execute) 16908480 49152 := by
  let s := twoRequests.get twoRequests_execute
  have run : FreeRun rxQueueStep rxQueueLogStart _ s :=
    execute_run (Option.some_get twoRequests_execute).symm
  have length : s.history.length = 2 := by decide +kernel
  refine (((take_is_oldest_iff run).2 16908480 49152).2).mpr fun place first => ?_
  have enqueued := first.live.1.enqueued
  refine ⟨by omega, fun other live => ?_⟩
  have enqueued' := live.1.enqueued
  omega

theorem run_frames {past : List RxQueueEvent} {s : RxQueueLog} (buffer : Bytes)
    (entry : QueuedStamp)
    (client : ethFrameGetNtpClient buffer = some (entry.clientIpv4, entry.clientPort))
    (valid : timestampValid (some entry.ptpTime) = some entry.ptpTime)
    (run : FreeRun rxQueueStep rxQueueLogStart past s) (count : Nat) :
    ∃ past' t, FreeRun rxQueueStep rxQueueLogStart past' t ∧ t.taken = s.taken ∧
      t.history = s.history ++ List.replicate count entry := by
  induction count with
  | zero => exact ⟨past, s, run, rfl, by simp⟩
  | succ count ih =>
      obtain ⟨past', t, run', taken, history⟩ := ih
      refine ⟨.frame buffer (some entry.ptpTime) :: past', t.receive buffer (some entry.ptpTime),
        .next run' trivial rfl, ?_, ?_⟩
      · simp only [RxQueueLog.receive, client, valid]
        exact taken
      · simp only [RxQueueLog.receive, client, valid, history]
        rw [List.replicate_succ', List.append_assoc]

def otherBuffer : Bytes := writeAt requestBuffer 29 [9]

def otherStamp : QueuedStamp := ⟨151126208, 49152, ⟨200, 0⟩⟩

theorem lastNumber_not_unwrapped {count : Nat} (last : (count + 2) % 2 ^ 32 = 0) :
    ∃ past s, FreeRun rxQueueStep rxQueueLogStart past s ∧
      ¬Unwrapped s otherStamp.clientIpv4 otherStamp.clientPort := by
  let stamp : QueuedStamp := ⟨16908480, 49152, ⟨100, 0⟩⟩
  obtain ⟨past, t, run, taken, history⟩ :=
    run_frames requestBuffer stamp (by decide) (by decide) .start count
  obtain ⟨past, s, run, taken', history'⟩ :=
    run_frames otherBuffer otherStamp (by decide) (by decide) run 1
  have all : s.history = List.replicate count stamp ++ [otherStamp] := by
    rw [history', history]
    rfl
  have length : s.history.length = count + 1 := by simp [all]
  refine ⟨past, s, run, fun unwrapped => (unwrapped count ⟨⟨⟨?_, ?_, ?_⟩, ?_⟩, ?_⟩).1 last⟩
  · omega
  · omega
  · rw [taken', taken]
    exact List.not_mem_nil
  · refine ⟨otherStamp, ?_, rfl, rfl⟩
    simp [all]
  · rintro other ⟨-, entry, at', address, -⟩
    by_contra earlier
    rw [all, List.getElem?_append_left (by simpa using earlier), List.getElem?_replicate,
      if_pos (not_le.mp earlier)] at at'
    cases at'
    cases address

/-- After 2^32 - 2 requests of one client, the request of another has the number that is never less
than the limit of the scan. -/
theorem lastNumber_is_missed : ¬∀ past s, FreeRun rxQueueStep rxQueueLogStart past s →
    ∀ clientIpv4 clientPort, TakesOldest s clientIpv4 clientPort := by
  intro claim
  obtain ⟨past, s, run, wrapped⟩ := lastNumber_not_unwrapped (show (4294967294 + 2) % 2 ^ 32 = 0 by decide)
  exact wrapped (unwrapped_of_takesOldest (logged_of_run run) (claim past s run _ _))

end NtsTimeServer.Proof
