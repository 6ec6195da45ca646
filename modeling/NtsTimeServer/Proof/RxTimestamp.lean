import NtsTimeServer.Model.RxQueue

namespace NtsTimeServer.Proof
open Model Lib

/-- A take for the oldest datagram of the socket uses the descriptor timestamp of the frame that
carried it. -/
def UsesOwnStamp (s : RxSystem) : Prop :=
  ∀ number rest frame readings timestamp, s.socket = number :: rest →
    s.frames[number]? = some frame →
    (ethServiceTakeNtpRxTimestamp s.queue frame.clientIpv4 frame.clientPort readings).1 =
      some timestamp →
    ∃ stamp queue, frame.stamp = some stamp ∧
      s.queue.take frame.clientIpv4 frame.clientPort = some (stamp, queue)

def Holds (s : RxSystem) (frame : NtpFrame) (index : Fin 16) : Prop :=
  (s.queue.entries index).isFor frame.clientIpv4 frame.clientPort = true

instance (s : RxSystem) (frame : NtpFrame) (index : Fin 16) : Decidable (Holds s frame index) :=
  inferInstanceAs (Decidable (_ = true))

/-- The frame's own entry is the first of its client in the queue, and the sequence numbers of the
client's entries have not wrapped. -/
structure OwnEntryFirst (s : RxSystem) (number : Nat) (frame : NtpFrame) : Prop where
  noEarlier : ∀ index, Holds s frame index → number ≤ s.owner index
  queued : (∃ index, Holds s frame index) → ∃ index, Holds s frame index ∧ s.owner index = number
  unwrapped : ∀ index other, Holds s frame index → Holds s frame other →
    s.ordinal index / 2 ^ 32 = s.ordinal other / 2 ^ 32

instance (s : RxSystem) (number : Nat) (frame : NtpFrame) :
    Decidable (OwnEntryFirst s number frame) :=
  decidable_of_iff ((∀ index, Holds s frame index → number ≤ s.owner index) ∧
      ((∃ index, Holds s frame index) → ∃ index, Holds s frame index ∧ s.owner index = number) ∧
      ∀ index other, Holds s frame index → Holds s frame other →
        s.ordinal index / 2 ^ 32 = s.ordinal other / 2 ^ 32)
    ⟨fun h => ⟨h.1, h.2.1, h.2.2⟩, fun h => ⟨h.noEarlier, h.queued, h.unwrapped⟩⟩

def NextEntryFirst (s : RxSystem) : Prop :=
  ∀ number ∈ s.socket.head?, ∀ frame ∈ s.frames[number]?, OwnEntryFirst s number frame

instance (s : RxSystem) : Decidable (NextEntryFirst s) :=
  inferInstanceAs (Decidable (∀ number ∈ s.socket.head?, ∀ frame ∈ s.frames[number]?, _))

/-! ## The queue along a run -/

structure EntryOwned (s : RxSystem) (index : Fin 16) : Prop where
  frame : ∃ frame, s.frames[s.owner index]? = some frame ∧
    frame.clientIpv4 = (s.queue.entries index).clientIpv4 ∧
    frame.clientPort = (s.queue.entries index).clientPort ∧
    frame.stamp = some (s.queue.entries index).ptpTime
  sequence : (s.queue.entries index).sequence = u32 (s.ordinal index)
  counted : s.ordinal index ≤ s.enqueued

structure QueueOwned (s : RxSystem) : Prop where
  sequence : s.queue.sequence = u32 s.enqueued
  owned : ∀ index, (s.queue.entries index).valid = true → EntryOwned s index
  ordered : ∀ index other, (s.queue.entries index).valid = true →
    (s.queue.entries other).valid = true → s.owner index < s.owner other →
    s.ordinal index < s.ordinal other

theorem EntryOwned.owner_lt {s : RxSystem} {index : Fin 16} (owned : EntryOwned s index) :
    s.owner index < s.frames.length := by
  obtain ⟨frame, found, -⟩ := owned.frame
  exact (List.getElem?_eq_some_iff.mp found).1

theorem u32_succ (n : Nat) : u32 (u32 n + 1) = u32 (n + 1) := by simp [u32]

theorem EntryOwned.append {s t : RxSystem} {index : Fin 16} (owned : EntryOwned s index)
    {frame : NtpFrame} (frames : t.frames = s.frames ++ [frame])
    (entries : t.queue.entries index = s.queue.entries index) (owner : t.owner index = s.owner index)
    (ordinal : t.ordinal index = s.ordinal index) (enqueued : s.enqueued ≤ t.enqueued) :
    EntryOwned t index := by
  obtain ⟨earlier, found, same⟩ := owned.frame
  refine ⟨⟨earlier, ?_, ?_⟩, ?_, ?_⟩
  · rw [frames, owner, List.getElem?_append_left owned.owner_lt, found]
  · rw [entries]
    exact same
  · rw [entries, ordinal]
    exact owned.sequence
  · rw [ordinal]
    exact owned.counted.trans enqueued

theorem queueOwned_enqueue {s t : RxSystem} (owned : QueueOwned s) {frame : NtpFrame}
    {stamp : EthMacTime} (stamped : frame.stamp = some stamp)
    (queue : t.queue = s.queue.enqueue frame.clientIpv4 frame.clientPort stamp)
    (frames : t.frames = s.frames ++ [frame])
    (owner : t.owner = Function.update s.owner s.queue.next s.frames.length)
    (ordinal : t.ordinal = Function.update s.ordinal s.queue.next (s.enqueued + 1))
    (enqueued : t.enqueued = s.enqueued + 1) : QueueOwned t := by
  have newSequence : u32 (s.queue.sequence + 1) = u32 (s.enqueued + 1) := by
    rw [owned.sequence, u32_succ]
  have newEntry : t.queue.entries s.queue.next =
      ⟨true, frame.clientIpv4, frame.clientPort, u32 (s.enqueued + 1), stamp⟩ := by
    rw [queue, ← newSequence]
    exact Function.update_self _ _ _
  have newOwner : t.owner s.queue.next = s.frames.length := by rw [owner, Function.update_self]
  have newOrdinal : t.ordinal s.queue.next = s.enqueued + 1 := by rw [ordinal, Function.update_self]
  have entries {index : Fin 16} (other : index ≠ s.queue.next) :
      t.queue.entries index = s.queue.entries index := by
    rw [queue, RxQueue.enqueue_of_ne other]
  have owners {index : Fin 16} (other : index ≠ s.queue.next) : t.owner index = s.owner index := by
    rw [owner, Function.update_of_ne other]
  have ordinals {index : Fin 16} (other : index ≠ s.queue.next) :
      t.ordinal index = s.ordinal index := by
    rw [ordinal, Function.update_of_ne other]
  refine ⟨?_, fun index valid => ?_, fun index other valid valid' less => ?_⟩
  · rw [queue, enqueued]
    exact newSequence
  · by_cases same : index = s.queue.next
    · subst same
      refine ⟨⟨frame, ?_, ?_⟩, ?_, ?_⟩
      · rw [frames, newOwner]
        simp
      · rw [newEntry]
        exact ⟨rfl, rfl, stamped⟩
      · rw [newEntry, newOrdinal]
      · rw [newOrdinal, enqueued]
    · have before := owned.owned index (by rwa [entries same] at valid)
      exact before.append frames (entries same) (owners same) (ordinals same) (by omega)
  · by_cases same : index = s.queue.next
    · -- no valid entry belongs to a later frame than the newest
      subst same
      have latest : t.owner other ≤ s.frames.length := by
        by_cases last : other = s.queue.next
        · rw [last, newOwner]
        · rw [owners last]
          exact (owned.owned other (by rwa [entries last] at valid')).owner_lt.le
      omega
    · rw [entries same] at valid
      rw [owners same] at less
      rw [ordinals same]
      by_cases last : other = s.queue.next
      · subst last
        have := (owned.owned index valid).counted
        omega
      · rw [entries last] at valid'
        rw [owners last] at less
        rw [ordinals last]
        exact owned.ordered index other valid valid' less

theorem queueOwned_receive {s : RxSystem} (owned : QueueOwned s) (buffer : Bytes)
    (info : Option EthMacTime) : QueueOwned (s.receive buffer info) := by
  unfold RxSystem.receive
  cases client : ethFrameGetNtpClient buffer with
  | none =>
      simp only [ethInputToNetifWithTimestamp, client]
      exact owned
  | some client' =>
      cases stamp : timestampValid info with
      | none =>
          simp only [ethInputToNetifWithTimestamp, client, stamp]
          exact ⟨owned.sequence, fun index valid =>
            (owned.owned index valid).append rfl rfl rfl rfl le_rfl, owned.ordered⟩
      | some stamp' =>
          simp only [ethInputToNetifWithTimestamp, client, stamp, Option.isSome_some, if_true]
          exact queueOwned_enqueue owned rfl rfl rfl rfl rfl rfl

theorem queueOwned_clear {s : RxSystem} (owned : QueueOwned s) (index : Fin 16) (socket : List Nat) :
    QueueOwned { s with queue := s.queue.clear index, socket := socket } := by
  refine ⟨owned.sequence, fun other valid => ?_, fun first second valid valid' => ?_⟩
  · have same := RxQueue.clear_of_valid valid
    have before := owned.owned other (by rwa [same] at valid)
    refine ⟨?_, ?_, before.counted⟩
    · rw [same]
      exact before.frame
    · rw [same]
      exact before.sequence
  · rw [RxQueue.clear_of_valid valid] at valid
    rw [RxQueue.clear_of_valid valid'] at valid'
    exact owned.ordered first second valid valid'

theorem queueOwned_step {s t : RxSystem} {event : RxEvent} (owned : QueueOwned s)
    (taken : rxStep s event = some t) : QueueOwned t := by
  cases event with
  | frame buffer info =>
      obtain rfl := Option.some.inj taken
      exact queueOwned_receive owned buffer info
  | deliver =>
      simp only [rxStep] at taken
      split at taken
      · cases taken
      · obtain rfl := Option.some.inj taken
        exact ⟨owned.sequence, fun index valid => ⟨(owned.owned index valid).frame,
          (owned.owned index valid).sequence, (owned.owned index valid).counted⟩, owned.ordered⟩
  | drop =>
      simp only [rxStep] at taken
      split at taken
      · cases taken
      · obtain rfl := Option.some.inj taken
        exact ⟨owned.sequence, fun index valid => ⟨(owned.owned index valid).frame,
          (owned.owned index valid).sequence, (owned.owned index valid).counted⟩, owned.ordered⟩
  | take readings =>
      simp only [rxStep] at taken
      split at taken
      · cases taken
      split at taken
      · cases taken
      rename_i frame found
      obtain rfl := Option.some.inj taken
      simp only [ethServiceTakeNtpRxTimestamp, RxQueue.take]
      cases s.queue.find frame.clientIpv4 frame.clientPort with
      | none =>
          exact ⟨owned.sequence, fun index valid => ⟨(owned.owned index valid).frame,
            (owned.owned index valid).sequence, (owned.owned index valid).counted⟩, owned.ordered⟩
      | some index => exact queueOwned_clear owned index _

theorem queueOwned {past : List RxEvent} {s : RxSystem} (run : FreeRun rxStep rxStart past s) :
    QueueOwned s := by
  refine run.invariant (fun _ s => QueueOwned s) ⟨rfl, ?_, ?_⟩ ?_
  · intro index valid
    cases valid
  · intro index other valid
    cases valid
  · exact fun _ _ _ _ owned _ taken => queueOwned_step owned taken

/-! ## Whose timestamp a take uses -/

theorem find_least {queue : RxQueue} {clientIpv4 clientPort : Nat} {index : Fin 16}
    (found : queue.find clientIpv4 clientPort = some index) :
    (queue.entries index).isFor clientIpv4 clientPort = true ∧
      ∀ other, (queue.entries other).isFor clientIpv4 clientPort = true →
        (queue.entries index).sequence ≤ (queue.entries other).sequence := by
  obtain ⟨-, matched, -, least⟩ := scanLeast_least found
  exact ⟨matched, fun other matched' => least other (List.mem_finRange other) matched'⟩

theorem isFor_iff {entry : RxQueueEntry} {clientIpv4 clientPort : Nat} :
    entry.isFor clientIpv4 clientPort = true ↔
      entry.valid = true ∧ entry.clientIpv4 = clientIpv4 ∧ entry.clientPort = clientPort := by
  simp [RxQueueEntry.isFor, and_assoc]

theorem find_own {s : RxSystem} (owned : QueueOwned s) {number : Nat} {frame : NtpFrame}
    (first : OwnEntryFirst s number frame) {index : Fin 16}
    (found : s.queue.find frame.clientIpv4 frame.clientPort = some index) :
    s.owner index = number := by
  obtain ⟨matched, least⟩ := find_least found
  obtain ⟨own, holds, owner⟩ := first.queued ⟨index, matched⟩
  by_contra other
  have later : s.owner own < s.owner index := by
    have := first.noEarlier index matched
    omega
  obtain ⟨valid, -⟩ := isFor_iff.mp matched
  obtain ⟨valid', -⟩ := isFor_iff.mp holds
  have ordinals := owned.ordered own index valid' valid later
  have sequences := least own holds
  rw [(owned.owned index valid).sequence, (owned.owned own valid').sequence] at sequences
  have epoch := first.unwrapped own index holds matched
  simp only [u32] at sequences
  omega

theorem taken_timestamp_is_own {past : List RxEvent} {s : RxSystem}
    (run : FreeRun rxStep rxStart past s) (first : NextEntryFirst s) : UsesOwnStamp s := by
  intro number rest frame readings timestamp socket received success
  have owned := queueOwned run
  cases found : s.queue.find frame.clientIpv4 frame.clientPort with
  | none => simp [ethServiceTakeNtpRxTimestamp, RxQueue.take, found] at success
  | some index =>
      have head : s.socket.head? = some number := by rw [socket, List.head?_cons]
      have own := find_own owned (first number head frame received) found
      obtain ⟨valid, -⟩ := isFor_iff.mp (find_least found).1
      obtain ⟨frame', received', -, -, stamp⟩ := (owned.owned index valid).frame
      rw [own, received] at received'
      obtain rfl := Option.some.inj received'
      exact ⟨_, _, stamp, by rw [RxQueue.take, found]; rfl⟩

def requestBuffer : Bytes :=
  [2, 0, 0, 0, 0, 1, 2, 0, 0, 0, 0, 2, 0x08, 0x00] ++
    [0x45, 0, 0, 76, 0, 1, 0x40, 0, 64, 17, 0xB6, 0x9C, 192, 0, 2, 1, 192, 0, 2, 2] ++
    [0xC0, 0x00, 0, 123, 0, 56, 0, 0] ++ 0x23 :: List.replicate 47 0

def receivedAt (seconds : Nat) : RxEvent := .frame requestBuffer (some ⟨seconds, 0⟩)

def exactReadings : MapReadings where
  utcBefore := some ⟨3900000000, 0⟩
  ptpNow := some ⟨102, 0⟩
  utcAfter := some ⟨3900000000, 0⟩
  correlationValid := true
  correlationSamples := 2
  ratePpb := 0
  correlationLastUs := 1
  nowUs := 1

def deliveredRun : Option RxSystem :=
  execute rxStep (fun _ _ => True) rxStart [receivedAt 100, .deliver, receivedAt 101, .deliver]

theorem deliveredRun_executes : deliveredRun.isSome = true := by decide +kernel

theorem deliveredRun_uses_own_stamp : UsesOwnStamp (deliveredRun.get deliveredRun_executes) :=
  have run : FreeRun rxStep rxStart _ (deliveredRun.get deliveredRun_executes) :=
    execute_run (Option.some_get deliveredRun_executes).symm
  taken_timestamp_is_own run (by decide +kernel)

def droppedRun : Option RxSystem :=
  execute rxStep (fun _ _ => True) rxStart [receivedAt 100, .drop, receivedAt 101, .deliver]

theorem droppedRun_executes : droppedRun.isSome = true := by decide +kernel

theorem dropped_frame_leaves_stamp : ¬∀ past s, FreeRun rxStep rxStart past s → UsesOwnStamp s := by
  intro claim
  let s := droppedRun.get droppedRun_executes
  have run : FreeRun rxStep rxStart _ s := execute_run (Option.some_get droppedRun_executes).symm
  let frame : NtpFrame := ⟨16908480, 49152, some ⟨101, 0⟩⟩
  have socket : s.socket = 1 :: [] := by decide +kernel
  have received : s.frames[1]? = some frame := by decide +kernel
  have success : (ethServiceTakeNtpRxTimestamp s.queue frame.clientIpv4 frame.clientPort
      exactReadings).1 = some ⟨3899999998, 0, 0, 2000000⟩ := by decide +kernel
  obtain ⟨stamp, queue, own, taken⟩ := claim _ s run 1 [] frame exactReadings _ socket received success
  have used : (s.queue.take frame.clientIpv4 frame.clientPort).map Prod.fst = some ⟨100, 0⟩ := by
    decide +kernel
  rw [taken] at used
  cases own
  cases used

end NtsTimeServer.Proof
