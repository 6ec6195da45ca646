import NtsTimeServer.Lib.Scan
import NtsTimeServer.Lib.Run
import NtsTimeServer.Model.Clock
import NtsTimeServer.Model.EthFrame
import Mathlib.Data.Fin.Basic
import Mathlib.Logic.Function.Basic

/-!
# Hardware receive timestamps

The queue of `eth_service.c` that carries descriptor timestamps from the Ethernet input to the NTP
server, and the mapping of a timestamp to UTC. The counters of `s_status` are left out.
-/

namespace NtsTimeServer.Model
open Lib

def ethPtpCorrelationMaxAgeUs : Int := 30000000
def ethPtpLocalMapMaxBracketNs : Nat := 250000

structure EthMacTime where
  seconds : Nat
  nanoseconds : Nat
  deriving DecidableEq, Repr

structure RxQueueEntry where
  valid : Bool
  clientIpv4 : Nat
  clientPort : Nat
  sequence : Nat
  ptpTime : EthMacTime
  deriving DecidableEq

/-- `s_ntp_rx_queue`, `s_ntp_rx_queue_next` and `s_ntp_rx_queue_sequence`. -/
structure RxQueue where
  entries : Fin 16 → RxQueueEntry
  next : Fin 16
  sequence : Nat

def rxQueueInit : RxQueue := ⟨fun _ => ⟨false, 0, 0, 0, ⟨0, 0⟩⟩, 0, 0⟩

def RxQueue.enqueue (queue : RxQueue) (clientIpv4 clientPort : Nat) (ptpTime : EthMacTime) :
    RxQueue where
  entries := Function.update queue.entries queue.next
    ⟨true, clientIpv4, clientPort, u32 (queue.sequence + 1), ptpTime⟩
  next := queue.next + 1
  sequence := u32 (queue.sequence + 1)

def timestampValid (info : Option EthMacTime) : Option EthMacTime :=
  info.filter fun timestamp => timestamp.seconds ≠ 0 ∨ timestamp.nanoseconds ≠ 0

def ethInputToNetifWithTimestamp (queue : RxQueue) (buffer : Bytes) (info : Option EthMacTime) :
    RxQueue :=
  match ethFrameGetNtpClient buffer, timestampValid info with
  | some (clientIpv4, clientPort), some timestamp => queue.enqueue clientIpv4 clientPort timestamp
  | _, _ => queue

def RxQueueEntry.isFor (entry : RxQueueEntry) (clientIpv4 clientPort : Nat) : Bool :=
  entry.valid && entry.clientIpv4 == clientIpv4 && entry.clientPort == clientPort

/-- The slot that the scan of `eth_service_take_ntp_rx_timestamp` chooses. -/
def RxQueue.find (queue : RxQueue) (clientIpv4 clientPort : Nat) : Option (Fin 16) :=
  scanLeast (fun index => (queue.entries index).isFor clientIpv4 clientPort)
    (fun index => (queue.entries index).sequence) (List.finRange 16) none (2 ^ 32 - 1)

def RxQueue.clear (queue : RxQueue) (index : Fin 16) : RxQueue :=
  { queue with
    entries := Function.update queue.entries index { queue.entries index with valid := false } }

def RxQueue.take (queue : RxQueue) (clientIpv4 clientPort : Nat) : Option (EthMacTime × RxQueue) :=
  (queue.find clientIpv4 clientPort).map fun index =>
    ((queue.entries index).ptpTime, queue.clear index)

theorem RxQueue.enqueue_of_ne {queue : RxQueue} {index : Fin 16} (other : index ≠ queue.next)
    (clientIpv4 clientPort : Nat) (ptpTime : EthMacTime) :
    (queue.enqueue clientIpv4 clientPort ptpTime).entries index = queue.entries index :=
  Function.update_of_ne other _ _

theorem RxQueue.clear_of_valid {queue : RxQueue} {index other : Fin 16}
    (valid : ((queue.clear index).entries other).valid = true) :
    (queue.clear index).entries other = queue.entries other := by
  refine Function.update_of_ne ?_ _ _
  rintro rfl
  simp [clear] at valid

/-! ## Mapping to UTC -/

def ntpTimestampToNs (timestamp : NtpTimestamp) : Nat :=
  timestamp.seconds * 1000000000 + (timestamp.fraction * 1000000000 + 0x80000000) / 2 ^ 32

def ptpTimestampToNs (timestamp : EthMacTime) : Nat :=
  timestamp.seconds * 1000000000 + timestamp.nanoseconds

/-- What the mapping reads: the clocks, each of which may fail, and the PTP correlation. -/
structure MapReadings where
  utcBefore : Option NtpTimestamp
  ptpNow : Option EthMacTime
  utcAfter : Option NtpTimestamp
  correlationValid : Bool
  correlationSamples : Nat
  ratePpb : Int
  correlationLastUs : Int
  nowUs : Int

structure NtpRxTimestamp where
  seconds : Nat
  fraction : Nat
  mappingBracketNs : Nat
  mappingAgeUs : Nat
  deriving DecidableEq

/-- The part of `eth_service_take_ntp_rx_timestamp` after the queue. -/
def mapRxTimestamp (rxPtp : EthMacTime) (readings : MapReadings) : Option NtpRxTimestamp :=
  match readings.utcBefore, readings.ptpNow, readings.utcAfter with
  | some utcBefore, some ptpNow, some utcAfter =>
      let utcBeforeNs := ntpTimestampToNs utcBefore
      let utcAfterNs := ntpTimestampToNs utcAfter
      let ptpNowNs := ptpTimestampToNs ptpNow
      let rxPtpNs := ptpTimestampToNs rxPtp
      if utcAfterNs < utcBeforeNs ∨ ptpNowNs < rxPtpNs then none
      else
        let bracketNs := utcAfterNs - utcBeforeNs
        let utcMidNs := utcBeforeNs + bracketNs / 2
        let ptpAgeNs := ptpNowNs - rxPtpNs
        if ¬readings.correlationValid ∨ readings.correlationSamples < 2 ∨
            readings.correlationLastUs ≤ 0 ∨ readings.nowUs < readings.correlationLastUs ∨
            readings.nowUs - readings.correlationLastUs > ethPtpCorrelationMaxAgeUs ∨
            bracketNs > ethPtpLocalMapMaxBracketNs then none
        else
          let denominator := 1000000000 + readings.ratePpb
          if denominator ≤ 0 then none
          else
            let denominator := denominator.toNat
            let ageQuotient := ptpAgeNs / denominator
            let ageRemainder := ptpAgeNs % denominator
            let utcAgeNs := u64 (u64 (ageQuotient * 1000000000) +
              u64 (u64 (ageRemainder * 1000000000) + denominator / 2) / denominator)
            if utcAgeNs > utcMidNs then none
            else
              let mappedNs := utcMidNs - utcAgeNs
              let seconds := mappedNs / 1000000000
              let nanoseconds := mappedNs % 1000000000
              if seconds > 2 ^ 32 - 1 then none
              else some {
                seconds := seconds
                fraction := u32 ((nanoseconds * 2 ^ 32 + 500000000) / 1000000000)
                mappingBracketNs := min bracketNs (2 ^ 32 - 1)
                mappingAgeUs := min (ptpAgeNs / 1000) (2 ^ 32 - 1) }
  | _, _, _ => none

/-- `eth_service_take_ntp_rx_timestamp`: a failed mapping still consumes the entry. -/
def ethServiceTakeNtpRxTimestamp (queue : RxQueue) (clientIpv4 clientPort : Nat)
    (readings : MapReadings) : Option NtpRxTimestamp × RxQueue :=
  match queue.take clientIpv4 clientPort with
  | none => (none, queue)
  | some (rxPtp, queue) => (mapRxTimestamp rxPtp readings, queue)

/-- A received frame that carries an NTP request, with its descriptor timestamp if that is valid. -/
structure NtpFrame where
  clientIpv4 : Nat
  clientPort : Nat
  stamp : Option EthMacTime
  deriving DecidableEq

/-- The queue, the IP stack and the socket. Frames are named by their place in `frames`. -/
structure RxSystem where
  queue : RxQueue
  /-- the NTP frames received so far, oldest first -/
  frames : List NtpFrame
  stack : List Nat
  socket : List Nat
  /-- the frame a slot was last written for -/
  owner : Fin 16 → Nat
  /-- how many frames had been enqueued when a slot was last written, this one included -/
  ordinal : Fin 16 → Nat
  enqueued : Nat

inductive RxEvent
  | frame (buffer : Bytes) (info : Option EthMacTime)
  | deliver
  | drop
  | take (readings : MapReadings)

def rxStart : RxSystem := ⟨rxQueueInit, [], [], [], fun _ => 0, fun _ => 0, 0⟩

def RxSystem.receive (s : RxSystem) (buffer : Bytes) (info : Option EthMacTime) : RxSystem :=
  match ethFrameGetNtpClient buffer with
  | none => { s with queue := ethInputToNetifWithTimestamp s.queue buffer info }
  | some (clientIpv4, clientPort) =>
      { s with
        queue := ethInputToNetifWithTimestamp s.queue buffer info
        frames := s.frames ++ [⟨clientIpv4, clientPort, timestampValid info⟩]
        stack := s.stack ++ [s.frames.length]
        owner := if (timestampValid info).isSome
          then Function.update s.owner s.queue.next s.frames.length else s.owner
        ordinal := if (timestampValid info).isSome
          then Function.update s.ordinal s.queue.next (s.enqueued + 1) else s.ordinal
        enqueued := if (timestampValid info).isSome then s.enqueued + 1 else s.enqueued }

def rxStep (s : RxSystem) : RxEvent → Option RxSystem
  | .frame buffer info => some (s.receive buffer info)
  | .deliver =>
      match s.stack with
      | [] => none
      | frame :: rest => some { s with stack := rest, socket := s.socket ++ [frame] }
  | .drop =>
      match s.stack with
      | [] => none
      | _ :: rest => some { s with stack := rest }
  | .take readings =>
      match s.socket with
      | [] => none
      | number :: rest =>
          match s.frames[number]? with
          | none => none
          | some frame => some { s with
              queue := (ethServiceTakeNtpRxTimestamp s.queue frame.clientIpv4 frame.clientPort
                readings).2
              socket := rest }

/-! ## The queue by itself -/

structure QueuedStamp where
  clientIpv4 : Nat
  clientPort : Nat
  ptpTime : EthMacTime
  deriving DecidableEq

/-- The queue and its past. Entries are named by their place in `history`. -/
structure RxQueueLog where
  queue : RxQueue
  /-- the entries enqueued so far, oldest first -/
  history : List QueuedStamp
  /-- the entry a slot was last written with -/
  place : Fin 16 → Nat
  /-- the entries returned so far, latest first -/
  taken : List Nat

inductive RxQueueEvent
  | frame (buffer : Bytes) (info : Option EthMacTime)
  | take (clientIpv4 clientPort : Nat)
  deriving DecidableEq

def rxQueueLogStart : RxQueueLog := ⟨rxQueueInit, [], fun _ => 0, []⟩

def RxQueueLog.receive (s : RxQueueLog) (buffer : Bytes) (info : Option EthMacTime) : RxQueueLog :=
  match ethFrameGetNtpClient buffer, timestampValid info with
  | some (clientIpv4, clientPort), some ptpTime =>
      { s with
        queue := ethInputToNetifWithTimestamp s.queue buffer info
        history := s.history ++ [⟨clientIpv4, clientPort, ptpTime⟩]
        place := Function.update s.place s.queue.next s.history.length }
  | _, _ => { s with queue := ethInputToNetifWithTimestamp s.queue buffer info }

def RxQueueLog.take (s : RxQueueLog) (clientIpv4 clientPort : Nat) : RxQueueLog :=
  match s.queue.find clientIpv4 clientPort, s.queue.take clientIpv4 clientPort with
  | some index, some (_, queue) => { s with queue := queue, taken := s.place index :: s.taken }
  | _, _ => s

def rxQueueStep (s : RxQueueLog) : RxQueueEvent → Option RxQueueLog
  | .frame buffer info => some (s.receive buffer info)
  | .take clientIpv4 clientPort => some (s.take clientIpv4 clientPort)

end NtsTimeServer.Model
