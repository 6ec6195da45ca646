import NtsTimeServer.Lib.Run
import NtsTimeServer.Model.Gnss
import NtsTimeServer.Model.Pps

/-!
# The clock monitor and the receiver it listens to

`clock_monitor_task` against a receiver that raises a PPS edge and sends a UBX-TIM-TP record for it
on the UART. The edges reach the task through the capture queue, the records through the GNSS
service; records are received in order and any of them may be lost. `esp_timer` and the capture
timer are one counter here.
-/

namespace NtsTimeServer.Model

/-- What the receiver does: when each edge is captured, the UTC second it marks and the record sent
for it. -/
structure Receiver where
  captureUs : Nat → Nat
  utcSeconds : Nat → Int
  timTp : Nat → TimTp
  increasing : StrictMono captureUs

inductive MonitorTask
  | waiting
  | polling (captureUs deadlineUs : Nat)
  | updating
  | enforcing
  deriving DecidableEq

structure MonitorSystem (F : Type) where
  nowUs : Nat
  /-- edges raised so far -/
  edges : Nat
  /-- the record for the next edge is sent -/
  sent : Bool
  /-- edges whose records are on the UART, oldest first -/
  uart : List Nat
  /-- edge of the last record received -/
  received : Option Nat
  gnss : GnssService
  pps : PpsService
  task : MonitorTask
  lastTimTp : Option (Nat × Nat)
  clock : ClockContext F
  deriving DecidableEq

inductive MonitorEvent
  | edge
  /-- the receiver sends the record for the next edge -/
  | send
  | receive (now : Nat)
  | lose
  | flags (flags : GnssFlags)
  | staleness (now : Nat)
  | waitForCapture (now : Nat) (read : Bool)
  | poll (now : Nat) (lock : Bool)
  | updateReference (now : Nat) (lock read : Bool)
  | enforce (now : Nat) (lock read : Bool)
  deriving DecidableEq

variable {F : Type} [Double F]

def monitorStart : MonitorSystem F where
  nowUs := 0
  edges := 0
  sent := false
  uart := []
  received := none
  gnss := gnssInit
  pps := ppsInit
  task := .waiting
  lastTimTp := none
  clock := clockInit

def clockTimTpWaitTimeoutUs : Nat := 750 * 1000

def MonitorEvent.now (receiver : Receiver) (s : MonitorSystem F) : MonitorEvent → Nat
  | .edge => receiver.captureUs s.edges
  | .send | .lose | .flags _ => s.nowUs
  | .receive now | .staleness now | .waitForCapture now _ | .poll now _ => now
  | .updateReference now .. | .enforce now .. => now

def MonitorSystem.waitForCapture (s : MonitorSystem F) (now : Nat) (read : Bool) :
    MonitorSystem F :=
  match ppsWaitForCapture s.pps with
  | none => { s with task := .updating }
  | some (captureUs, pps) =>
      let usable := ppsStatusUsable (ppsGetStatus pps (if read then some now else none))
      { s with
        pps := pps
        task := if usable then .polling captureUs (now + clockTimTpWaitTimeoutUs) else .updating }

/-- One turn of the loop of `wait_for_gnss_sample`, with the submission if a sample is found. -/
def MonitorSystem.poll (config : Kconfig) (s : MonitorSystem F) (captureUs deadlineUs now : Nat)
    (lock : Bool) : MonitorSystem F :=
  if now < deadlineUs then
    match pollGnssSample s.lastTimTp (gnssGetStatus s.gnss now) with
    | .retry => s
    | .failed => { s with task := .updating }
    | .sample sample =>
        let (err, clock) := submitSample config s.clock lock {
          ppsCaptureUs := captureUs
          utcSeconds := sample.utcSeconds
          timingQuantizationErrorNs := sample.quantizationErrorNs
          leapIndicator := sample.leapIndicator }
        { s with
          clock := clock
          lastTimTp := if err = .ok then some (sample.week, sample.towMs) else s.lastTimTp
          task := .updating }
  else { s with task := .updating }

def MonitorSystem.apply (config : Kconfig) (receiver : Receiver) (s : MonitorSystem F) :
    MonitorEvent → Option (MonitorSystem F)
  | .edge => some { s with
      edges := s.edges + 1
      sent := false
      pps := ppsGpioIsr s.pps (receiver.captureUs s.edges) }
  | .send =>
      if s.sent then none else some { s with sent := true, uart := s.uart ++ [s.edges] }
  | .receive now =>
      match s.uart with
      | [] => none
      | record :: rest => some { s with
          uart := rest
          received := some record
          gnss := handleUbxTimTp s.gnss (receiver.timTp record) now }
  | .lose =>
      match s.uart with
      | [] => none
      | _ :: rest => some { s with uart := rest }
  | .flags flags => some { s with gnss := s.gnss.setFlags flags }
  | .staleness now => some { s with gnss := gnssUpdateStaleness s.gnss now }
  | .waitForCapture now read =>
      match s.task with
      | .waiting => some (s.waitForCapture now read)
      | _ => none
  | .poll now lock =>
      match s.task with
      | .polling captureUs deadlineUs => some (s.poll config captureUs deadlineUs now lock)
      | _ => none
  | .updateReference now lock read =>
      match s.task with
      | .updating => some { s with
          clock := updateReferenceState s.clock (some (gnssGetStatus s.gnss now))
            (some (ppsGetStatus s.pps (if read then some now else none))) lock
          task := .enforcing }
      | _ => none
  | .enforce now lock read =>
      match s.task with
      | .enforcing => some { s with
          clock := enforceHoldoverPolicy config s.clock lock (if read then some now else none)
          task := .waiting }
      | _ => none

def monitorStep (config : Kconfig) (receiver : Receiver) (s : MonitorSystem F)
    (event : MonitorEvent) : Option (MonitorSystem F) :=
  if s.nowUs ≤ event.now receiver s then
    ({ s with nowUs := event.now receiver s } : MonitorSystem F).apply config receiver event
  else none

end NtsTimeServer.Model
