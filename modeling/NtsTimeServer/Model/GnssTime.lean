import NtsTimeServer.Model.Gnss
import NtsTimeServer.Model.GnssStream

/-!
# The UTC part of the GNSS service

What `gnss_service.c` makes of UBX-NAV-PVT, UBX-NAV-TIMELS and UBX-TIM-TP payloads and of NMEA lines,
and its watchdog. What is reported to `app_state.c` is left out.
-/

namespace NtsTimeServer.Model
open Lib

def asciiComma : UInt8 := 0x2C
def asciiAsterisk : UInt8 := 0x2A
def asciiMinus : UInt8 := 0x2D
def asciiPlus : UInt8 := 0x2B

def daysFromCivil (year : Int) (month day : Nat) : Int :=
  let year := year - if month ≤ 2 then 1 else 0
  let era := (if year ≥ 0 then year else year - 399).tdiv 400
  let yoe := (year - era * 400).toNat
  let shiftedMonth := if month > 2 then month - 3 else month + 9
  let doy := (153 * shiftedMonth + 2) / 5 + day - 1
  let doe := yoe * 365 + yoe / 4 - yoe / 100 + doy
  era * 146097 + doe - 719468

def datetimeToEpoch (year month day hour minute second : Int) : Option Int :=
  if year < 2000 ∨ year > 2100 ∨ month < 1 ∨ month > 12 ∨ day < 1 ∨ day > 31 ∨ hour < 0 ∨
      hour > 23 ∨ minute < 0 ∨ minute > 59 ∨ second < 0 ∨ second > 60 then none
  else
    let second := if second = 60 then 59 else second
    some (daysFromCivil year month.toNat day.toNat * 86400 + hour * 3600 + minute * 60 + second)

/-! ## NMEA -/

def isDigit (byte : UInt8) : Bool := 0x30 ≤ byte && byte ≤ 0x39

/-- `isxdigit` and the value that `strtoul` gives the digit. -/
def hexValue (byte : UInt8) : Option Nat :=
  if isDigit byte then some (byte.toNat - 0x30)
  else if 0x41 ≤ byte ∧ byte ≤ 0x46 then some (byte.toNat - 0x37)
  else if 0x61 ≤ byte ∧ byte ≤ 0x66 then some (byte.toNat - 0x57)
  else none

/-- The line is a C string, without its terminator. -/
def nmeaChecksumValid (line : Bytes) : Bool :=
  match line with
  | [] => false
  | first :: text =>
      if first ≠ dollar then false
      else match (text.dropWhile (· ≠ asciiAsterisk)).tail with
        | high :: low :: _ =>
            match hexValue high, hexValue low with
            | some high, some low =>
                ((text.takeWhile (· ≠ asciiAsterisk)).foldl (· ^^^ ·) 0).toNat == high * 16 + low
            | _, _ => false
        | _ => false

def parseTwoDigits (text : Bytes) : Option Int :=
  match text with
  | high :: low :: _ =>
      if isDigit high && isDigit low then some ((high.toNat - 0x30) * 10 + (low.toNat - 0x30) : Nat)
      else none
  | _ => none

def isSpace (byte : UInt8) : Bool := byte == 0x20 || (0x09 ≤ byte && byte ≤ 0x0D)

def atoi (text : Bytes) : Int :=
  let digits (text : Bytes) : Int :=
    ((text.takeWhile isDigit).foldl (fun value byte => value * 10 + (byte.toNat - 0x30)) 0 : Nat)
  match text.dropWhile isSpace with
  | [] => 0
  | sign :: rest =>
      if sign = asciiMinus then -digits rest
      else if sign = asciiPlus then digits rest
      else digits (sign :: rest)

/-- The tokens of `strtok_r` with the delimiter `,`, which joins successive delimiters. -/
def commaTokens (text : Bytes) : List Bytes :=
  (text.splitOn asciiComma).filter fun token => !token.isEmpty

def zdaText : Bytes := [0x5A, 0x44, 0x41]

def parseZdaEpoch (line : Bytes) : Option Int :=
  if line.length = 0 ∨ line.length ≥ gnssLineMaxLength then none
  else match commaTokens (line.takeWhile (· ≠ asciiAsterisk)) with
    | message :: utcText :: dayText :: monthText :: yearText :: _ =>
        if message.length < 3 ∨ message.drop (message.length - 3) ≠ zdaText then none
        else if utcText.length < 6 then none
        else do
          let hour ← parseTwoDigits utcText
          let minute ← parseTwoDigits (utcText.drop 2)
          let second ← parseTwoDigits (utcText.drop 4)
          datetimeToEpoch (atoi yearText) (atoi monthText) (atoi dayText) hour minute second
    | _ => none

/-! ## The status -/

/-- The parts of `s_status` that UTC, the fix and the messages are about, and the receive times. -/
structure GnssTime where
  gnss : GnssService
  utcSeconds : Int
  utcAgeUs : Int
  fixType : Nat
  satellitesUsed : Nat
  pendingLeapChange : Int
  secondsToLeapEvent : Int
  timingTowSubMs : Int
  timingPulseFlags : Nat
  invalidMessages : Nat
  validZdaMessages : Nat
  ubxNavPvtMessages : Nat
  ubxNavTimelsMessages : Nat
  ubxTimTpMessages : Nat
  lastUtcRxUs : Nat
  lastPvtRxUs : Nat
  deriving DecidableEq

def gnssTimeInit : GnssTime where
  gnss := { gnssInit with status := { gnssInit.status with timingPulseAgeUs := 0 } }
  utcSeconds := 0
  utcAgeUs := 0
  fixType := 0
  satellitesUsed := 0
  pendingLeapChange := 0
  secondsToLeapEvent := 0
  timingTowSubMs := 0
  timingPulseFlags := 0
  invalidMessages := 0
  validZdaMessages := 0
  ubxNavPvtMessages := 0
  ubxNavTimelsMessages := 0
  ubxTimTpMessages := 0
  lastUtcRxUs := 0
  lastPvtRxUs := 0

def appGnssTimeoutUs : Nat := appGnssTimeoutSeconds * 1000000

def GnssTime.setStatus (time : GnssTime) (status : GnssStatus) : GnssTime :=
  { time with gnss := { time.gnss with status := status } }

def processNmeaLine (time : GnssTime) (line : Bytes) (nowUs : Nat) : GnssTime :=
  if ¬nmeaChecksumValid line then { time with invalidMessages := u32 (time.invalidMessages + 1) }
  else match parseZdaEpoch line with
    | none => time
    | some epoch =>
        let time := { time with validZdaMessages := u32 (time.validZdaMessages + 1) }
        let status := time.gnss.status
        if ¬status.utcFromUbxPvt ∨ time.lastPvtRxUs = 0 ∨
            nowUs - time.lastPvtRxUs > appGnssTimeoutUs then
          { time.setStatus { status with
              utcValid := true
              utcFromUbxPvt := false
              leapIndicator := .unknown } with
            utcSeconds := epoch
            utcAgeUs := 0
            lastUtcRxUs := nowUs }
        else time

def readLe16 (bytes : Bytes) (offset : Nat) : Nat := byteAt bytes offset + byteAt bytes (offset + 1) * 256

def i8 (n : Nat) : Int := if n < 128 then n else n - 256

def readLeI32 (bytes : Bytes) (offset : Nat) : Int :=
  ((readLe32 bytes offset : Int) + 2 ^ 31) % 2 ^ 32 - 2 ^ 31

def navPvtFixValid (payload : Bytes) : Bool :=
  (byteAt payload 21).testBit 0 && decide (byteAt payload 20 ≥ 2)

def navPvtFullyResolved (payload : Bytes) : Bool := (byteAt payload 11).testBit 2

def navPvtEpoch (payload : Bytes) : Option Int :=
  if (byteAt payload 11).testBit 0 && (byteAt payload 11).testBit 1 && navPvtFullyResolved payload &&
      navPvtFixValid payload then
    datetimeToEpoch (readLe16 payload 4) (byteAt payload 6) (byteAt payload 7) (byteAt payload 8)
      (byteAt payload 9) (byteAt payload 10)
  else none

def handleUbxNavPvt (time : GnssTime) (payload : Bytes) (nowUs : Nat) : GnssTime :=
  if payload.length < 92 then time
  else
    let time := { time.setStatus { time.gnss.status with
        gnssFixValid := navPvtFixValid payload
        gnssTimeFullyResolved := navPvtFullyResolved payload } with
      ubxNavPvtMessages := u32 (time.ubxNavPvtMessages + 1)
      fixType := byteAt payload 20
      satellitesUsed := byteAt payload 23 }
    match navPvtEpoch payload with
    | some epoch =>
        { time.setStatus { time.gnss.status with utcValid := true, utcFromUbxPvt := true } with
          utcSeconds := epoch
          utcAgeUs := 0
          lastPvtRxUs := nowUs
          lastUtcRxUs := nowUs }
    | none =>
        if time.gnss.status.utcFromUbxPvt then time.setStatus { time.gnss.status with utcValid := false }
        else time

def handleUbxNavTimels (time : GnssTime) (payload : Bytes) : GnssTime :=
  if payload.length < 24 then time
  else
    let currentLeapSeconds := i8 (byteAt payload 9)
    let leapChange := i8 (byteAt payload 11)
    let secondsToEvent := readLeI32 payload 12
    let currentLeapValid := (byteAt payload 20).testBit 0
    let eventTimeValid := (byteAt payload 20).testBit 1
    let boundedCurrentLeapFallback := 0 ≤ currentLeapSeconds ∧ currentLeapSeconds ≤ 64 ∧
      leapChange = 0 ∧ secondsToEvent > 86400
    let leapInformationUsable := currentLeapValid || decide boundedCurrentLeapFallback
    let leapIndicator :=
      if ¬leapInformationUsable then LeapIndicator.unknown
      else if eventTimeValid ∧ secondsToEvent > 0 ∧ leapChange > 0 then .addSecond
      else if eventTimeValid ∧ secondsToEvent > 0 ∧ leapChange < 0 then .deleteSecond
      else .noWarning
    { time.setStatus { time.gnss.status with
        leapInformationValid := leapInformationUsable
        currentLeapSeconds := currentLeapSeconds
        leapIndicator := leapIndicator } with
      ubxNavTimelsMessages := u32 (time.ubxNavTimelsMessages + 1)
      pendingLeapChange := leapChange
      secondsToLeapEvent := secondsToEvent }

/-- `handle_ubx_tim_tp` from its payload on. -/
def handleUbxTimTpPayload (time : GnssTime) (payload : Bytes) (nowUs : Nat) : GnssTime :=
  if payload.length < 16 then time
  else
    { time with
      gnss := handleUbxTimTp time.gnss
        ⟨readLe16 payload 12, readLe32 payload 0, readLeI32 payload 8⟩ nowUs
      ubxTimTpMessages := u32 (time.ubxTimTpMessages + 1)
      timingTowSubMs := readLeI32 payload 4
      timingPulseFlags := byteAt payload 14 }

/-- The UTC half of `gnss_update_staleness`, and the half that the timing pulse has. -/
def updateStaleness (time : GnssTime) (nowUs : Nat) : GnssTime :=
  let utcAgeUs := max 0 ((nowUs : Int) - time.lastUtcRxUs)
  let aged :=
    if time.gnss.status.utcValid ∧ time.lastUtcRxUs > 0 then
      let time := { time with utcAgeUs := utcAgeUs }
      if utcAgeUs > appGnssTimeoutUs then
        time.setStatus { time.gnss.status with utcValid := false, utcFromUbxPvt := false }
      else time
    else time
  { aged with gnss := gnssUpdateStaleness aged.gnss nowUs }

/-! ## The steps -/

inductive GnssEvent
  | nmeaLine (line : Bytes) (nowUs : Nat)
  | navPvt (payload : Bytes) (nowUs : Nat)
  | navTimels (payload : Bytes) (nowUs : Nat)
  | timTp (payload : Bytes) (nowUs : Nat)
  | staleness (nowUs : Nat)
  deriving DecidableEq

def GnssEvent.nowUs : GnssEvent → Nat
  | nmeaLine _ nowUs | navPvt _ nowUs | navTimels _ nowUs | timTp _ nowUs | staleness nowUs => nowUs

def GnssTime.step (time : GnssTime) : GnssEvent → GnssTime
  | .nmeaLine line nowUs => processNmeaLine time line nowUs
  | .navPvt payload nowUs => handleUbxNavPvt time payload nowUs
  | .navTimels payload _ => handleUbxNavTimels time payload
  | .timTp payload nowUs => handleUbxTimTpPayload time payload nowUs
  | .staleness nowUs => updateStaleness time nowUs

end NtsTimeServer.Model
