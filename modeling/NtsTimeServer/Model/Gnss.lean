import NtsTimeServer.Model.Clock

/-!
# The timing-pulse part of the GNSS service

What `gnss_service.c` does with UBX-TIM-TP records, and the conversion of a record to UTC in
`clock_discipline.c`. The validity flags that NAV-PVT and NAV-TIMELS set are inputs.
-/

namespace NtsTimeServer.Model

def gpsEpochUnixSeconds : Int := 315964800
def gpsWeekSeconds : Int := 604800
def gpsWeekMilliseconds : Nat := 604800000
def appGnssTimeoutSeconds : Nat := 5
def clockTimTpMaxAgeUs : Int := 1500000

structure TimTp where
  week : Nat
  towMs : Nat
  qErrPs : Int
  deriving DecidableEq, Repr

structure GnssFlags where
  utcValid : Bool
  utcFromUbxPvt : Bool
  gnssFixValid : Bool
  gnssTimeFullyResolved : Bool
  leapIndicator : LeapIndicator
  leapInformationValid : Bool
  currentLeapSeconds : Int
  deriving DecidableEq, Repr

/-- `s_status` and `s_last_tim_tp_rx_us`. -/
structure GnssService where
  status : GnssStatus
  lastTimTpRxUs : Nat
  deriving DecidableEq

def gnssInit : GnssService where
  status := {
    utcValid := false
    utcFromUbxPvt := false
    gnssFixValid := false
    gnssTimeFullyResolved := false
    leapIndicator := .unknown
    leapInformationValid := false
    currentLeapSeconds := 0
    timingPulseValid := false
    timingWeek := 0
    timingTowMs := 0
    timingQuantizationErrorNs := 0
    timingPulseAgeUs := -1 }
  lastTimTpRxUs := 0

def handleUbxTimTp (gnss : GnssService) (record : TimTp) (nowUs : Nat) : GnssService where
  status := { gnss.status with
    timingPulseValid := true
    timingWeek := record.week
    timingTowMs := record.towMs
    timingQuantizationErrorNs := record.qErrPs
    timingPulseAgeUs := 0 }
  lastTimTpRxUs := nowUs

def GnssService.setFlags (gnss : GnssService) (flags : GnssFlags) : GnssService :=
  { gnss with
    status := { gnss.status with
      utcValid := flags.utcValid
      utcFromUbxPvt := flags.utcFromUbxPvt
      gnssFixValid := flags.gnssFixValid
      gnssTimeFullyResolved := flags.gnssTimeFullyResolved
      leapIndicator := flags.leapIndicator
      leapInformationValid := flags.leapInformationValid
      currentLeapSeconds := flags.currentLeapSeconds } }

def GnssService.timTpAgeUs (gnss : GnssService) (nowUs : Nat) : Int :=
  if gnss.status.timingPulseValid ∧ gnss.lastTimTpRxUs > 0
  then max 0 ((nowUs : Int) - gnss.lastTimTpRxUs) else gnss.status.timingPulseAgeUs

def gnssUpdateStaleness (gnss : GnssService) (nowUs : Nat) : GnssService :=
  let timingAgeUs := gnss.timTpAgeUs nowUs
  { gnss with
    status := { gnss.status with
      timingPulseAgeUs := timingAgeUs
      timingPulseValid := gnss.status.timingPulseValid &&
        !(decide (gnss.lastTimTpRxUs > 0) &&
          decide (timingAgeUs > appGnssTimeoutSeconds * 1000000)) } }

def gnssGetStatus (gnss : GnssService) (nowUs : Nat) : GnssStatus :=
  { gnss.status with timingPulseAgeUs := gnss.timTpAgeUs nowUs }

/-! ## From a record to a sample -/

structure ClockGnssSample where
  week : Nat
  towMs : Nat
  utcSeconds : Int
  quantizationErrorNs : Int
  leapIndicator : LeapIndicator
  deriving DecidableEq

/-- `tim_tp_is_new`: the last accepted record is `s_last_tim_tp_week` and `s_last_tim_tp_tow_ms`. -/
def timTpIsNew (lastTimTp : Option (Nat × Nat)) (status : GnssStatus) : Bool :=
  status.timingPulseValid && decide (lastTimTp ≠ some (status.timingWeek, status.timingTowMs))

def timTpToUtc (status : GnssStatus) : Option Int :=
  if ¬status.timingPulseValid ∨ ¬status.leapInformationValid ∨ status.currentLeapSeconds < 0 ∨
      status.currentLeapSeconds > 64 ∨ status.timingTowMs ≥ gpsWeekMilliseconds then none
  else
    let gpsSeconds := gpsEpochUnixSeconds + status.timingWeek * gpsWeekSeconds +
      (status.timingTowMs / 1000 : Nat)
    some (gpsSeconds - status.currentLeapSeconds)

inductive GnssPoll
  | retry
  | failed
  | sample (sample : ClockGnssSample)
  deriving DecidableEq

def pollGnssSample (lastTimTp : Option (Nat × Nat)) (status : GnssStatus) : GnssPoll :=
  if ¬status.utcValid ∨ ¬status.utcFromUbxPvt ∨ ¬status.gnssFixValid ∨
      ¬status.gnssTimeFullyResolved ∨ ¬status.leapInformationValid ∨ ¬status.timingPulseValid ∨
      status.timingPulseAgeUs < 0 ∨ status.timingPulseAgeUs > clockTimTpMaxAgeUs ∨
      ¬timTpIsNew lastTimTp status then .retry
  else match timTpToUtc status with
    | none => .failed
    | some utcSeconds =>
        let qerrNs := status.timingQuantizationErrorNs.tdiv 1000
        if |qerrNs| > appClockMaxTimingQerrNs then .failed
        else .sample {
          week := status.timingWeek
          towMs := status.timingTowMs
          utcSeconds := utcSeconds
          quantizationErrorNs := qerrNs
          leapIndicator := status.leapIndicator }

end NtsTimeServer.Model
