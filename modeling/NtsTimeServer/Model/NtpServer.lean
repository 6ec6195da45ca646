import NtsTimeServer.Model.NtpAuth
import NtsTimeServer.Model.NtpPacket
import NtsTimeServer.Model.RateLimit
import NtsTimeServer.Model.RxQueue

/-!
# The NTP server

`ntp_server.c`: what one turn of the loop of `ntp_server_task` does with a datagram. Other tasks run
between any two of its reads, so each read of the clock, the receiver and the keyring finds a state
of its own. The counters of `s_status` and the timing statistics are left out.
-/

namespace NtsTimeServer.Model
open Lib

variable {F : Type} [Double F]

structure ResponseBuffer where
  bytes : Bytes
  length : bytes.length = ntsNtpMaxPacketSize

/-- One read of the clock: the context it finds, whether it gets the lock, and the counter. -/
structure ClockReading (F : Type) where
  clock : ClockContext F
  lock : Bool
  monotonicUs : Option Nat

/-- What one turn of the loop reads, in the order of the reads. -/
structure RequestReadings (F : Type) where
  map : MapReadings
  rateNowUs : Int
  kodClock : ClockReading F
  verifyStore : Option Keyring
  verifyEnv : CookieEnv
  softwareClock : ClockReading F
  statusClock : ClockReading F
  gnss : Option GnssStatus
  referenceClock : ClockReading F
  transmitClock : ClockReading F
  protectStore : Option Keyring
  protectEnvs : Nat → CookieEnv
  protectNonce : CookieNonce
  /-- what earlier requests left -/
  responseBuffer : ResponseBuffer

def serverTimestampToNs (timestamp : NtpTimestamp) : Nat :=
  timestamp.seconds * 1000000000 + (timestamp.fraction * 1000000000 + 0x80000000) / 2 ^ 32

def leapFromGnss : Option GnssStatus → Nat
  | none => ntpLiUnsynced
  | some status =>
      match status.leapIndicator with
      | .addSecond => ntpLiAddSecond
      | .deleteSecond => ntpLiDeleteSecond
      | .noWarning => ntpLiNoWarning
      | .unknown => ntpLiUnsynced

structure ServerQuality where
  stratum : Nat
  leap : Nat
  refid : Nat
  dispersion : Nat
  deriving DecidableEq, Repr

def getServerQuality (reading : ClockReading F) (gnss : Option GnssStatus) : Option ServerQuality :=
  match getStatus reading.clock reading.lock reading.monotonicUs with
  | none => none
  | some status =>
      if status.state = .synchronized ∧ status.solutionValid then
        if leapFromGnss gnss = ntpLiUnsynced then none
        else some ⟨ntpStratumPrimary, leapFromGnss gnss, ntpPacketRefidFromText ['G', 'P', 'S', ' '],
          status.rootDispersion1616⟩
      else if status.state = .holdover ∧ status.solutionValid then
        some ⟨ntpStratumSecondary, ntpLiNoWarning, ntpPacketRefidFromText ['H', 'O', 'L', 'D'],
          status.rootDispersion1616⟩
      else none

/-! ## Responses -/

def getCurrentNtpTimestamp (reading : ClockReading F) : Option NtpTimestamp :=
  getNtpTimestamp reading.clock reading.lock reading.monotonicUs

def getReferenceNtpTimestamp (reading : ClockReading F) : Option NtpTimestamp :=
  (getReferenceTimestamp reading.clock reading.lock reading.monotonicUs).map Prod.fst

def validClientRequest (request : NtpPacketFields) : Bool :=
  request.mode == ntpModeClient && decide (1 ≤ request.version) &&
    decide (request.version ≤ ntpVersion4)

def buildRateKod (request : NtpPacketFields) (response : Bytes) (reading : ClockReading F) : Bytes :=
  let now := (getCurrentNtpTimestamp reading).getD ⟨0, 0⟩
  ntpPacketBuild response {
    leapIndicator := ntpLiUnsynced
    version := request.version
    mode := ntpModeServer
    stratum := ntpStratumKod
    precision := -20
    rootDelay := 0
    rootDispersion := 0
    referenceId := ntpPacketRefidFromText ['R', 'A', 'T', 'E']
    referenceTimestamp := now
    originTimestamp := request.transmitTimestamp
    receiveTimestamp := now
    transmitTimestamp := now }

def buildServerResponse (request : NtpPacketFields) (receiveTimestamp : NtpTimestamp)
    (readings : RequestReadings F) : Option Bytes :=
  match getServerQuality readings.statusClock readings.gnss,
      getReferenceNtpTimestamp readings.referenceClock,
      getCurrentNtpTimestamp readings.transmitClock with
  | some quality, some referenceTimestamp, some transmitTimestamp =>
      some (ntpPacketBuild readings.responseBuffer.bytes {
        leapIndicator := quality.leap
        version := request.version
        mode := ntpModeServer
        stratum := quality.stratum
        precision := -20
        rootDelay := 0
        rootDispersion := quality.dispersion
        referenceId := quality.refid
        referenceTimestamp := referenceTimestamp
        originTimestamp := request.transmitTimestamp
        receiveTimestamp := receiveTimestamp
        transmitTimestamp := transmitTimestamp })
  | _, _, _ => none

/-! ## The loop -/

structure NtpServer where
  rxQueue : RxQueue
  clients : List NtpRateClient
  /-- the payloads handed to `sendto`, oldest first -/
  sent : List Bytes
  /-- set by an access outside a buffer -/
  faulted : Bool

def NtpServer.sendto (server : NtpServer) (payload : Bytes) : NtpServer :=
  { server with sent := server.sent ++ [payload] }

/-- From the software receive timestamp to the unprotected response in `s_response_buffer`. -/
def prepareResponse (request : NtpPacketFields) (hwRxTimestamp : Option NtpRxTimestamp)
    (readings : RequestReadings F) : Option Bytes :=
  match getCurrentNtpTimestamp readings.softwareClock, hwRxTimestamp with
  | some _, some hwRxTimestamp =>
      buildServerResponse request ⟨hwRxTimestamp.seconds, hwRxTimestamp.fraction⟩ readings
  | _, _ => none

/-- What follows the verification; `ntsContext` is `none` for a plain request. -/
def NtpServer.respond (server : NtpServer) (aead : Aead) (request : NtpPacketFields)
    (hwRxTimestamp : Option NtpRxTimestamp) (ntsContext : Option NtsNtpAuthContext)
    (readings : RequestReadings F) : NtpServer :=
  match prepareResponse request hwRxTimestamp readings, ntsContext with
  | none, _ => server
  | some response, none => server.sendto (response.take ntpPacketSize)
  | some response, some ntsContext =>
      match (ntsNtpAuthProtectResponse aead readings.protectEnvs readings.protectNonce ntsContext
        response ntpPacketSize ntsNtpMaxPacketSize).run.run readings.protectStore with
      | (.ok (packet, responseLength), _) => server.sendto (packet.take responseLength)
      | (.error (.error _), _) => server
      | (.error .fault, _) => { server with faulted := true }

/-- One turn of the loop, for a datagram from `clientIpv4` and `clientPort`. -/
def NtpServer.handle (server : NtpServer) (aead : Aead) (datagram : Bytes)
    (clientIpv4 clientPort : Nat) (readings : RequestReadings F) : NtpServer :=
  let (hwRxTimestamp, rxQueue) :=
    ethServiceTakeNtpRxTimestamp server.rxQueue clientIpv4 clientPort readings.map
  let server := { server with rxQueue := rxQueue }
  match ntpPacketParse datagram with
  | none => server
  | some request =>
      if ¬validClientRequest request then server
      else
        let ntsRequest := ntsNtpAuthRequestPresent datagram
        if ntsRequest ∧ request.version ≠ ntpVersion4 then server
        else
          let (allowed, sendKod, clients) :=
            ntpRateLimitAllow server.clients clientIpv4 readings.rateNowUs
          let server := { server with clients := clients }
          if ¬allowed then
            if sendKod ∧ ¬ntsRequest then
              server.sendto ((buildRateKod request readings.responseBuffer.bytes
                readings.kodClock).take ntpPacketSize)
            else server
          else if ntsRequest then
            match (ntsNtpAuthVerifyRequest aead readings.verifyStore readings.verifyEnv datagram).1 with
            | .error _ => server
            | .ok ntsContext => server.respond aead request hwRxTimestamp (some ntsContext) readings
          else server.respond aead request hwRxTimestamp none readings

end NtsTimeServer.Model
