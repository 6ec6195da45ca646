import NtsTimeServer.Lib.CString
import NtsTimeServer.Model.Ubx

/-!
# What the receiver sends

UBX frames and NMEA lines come over one UART. `process_received_byte` of `gnss_service.c` decides for
each byte which of the two parsers sees it.
-/

namespace NtsTimeServer.Model
open Lib

def gnssLineMaxLength : Nat := 160

def dollar : UInt8 := 0x24
def carriageReturn : UInt8 := 0x0D
def lineFeed : UInt8 := 0x0A

structure GnssReceiver where
  ubxParser : UbxParser
  nmeaLine : Bytes
  nmeaLength : Nat
  deriving DecidableEq

/-- What a byte leads to: an output of the UBX parser, the argument of a call of
`process_nmea_line`, or an overlong line, which `s_status` counts. -/
inductive GnssOutput
  | ubx (output : UbxOutput)
  | nmeaLine (line : Bytes)
  | overlongLine
  deriving DecidableEq, Repr

def gnssReceiverInit : GnssReceiver := ⟨ubxParserReset, List.replicate gnssLineMaxLength 0, 0⟩

/-- `s_nmea_line[s_nmea_length] = byte`; `none` outside the buffer. -/
def GnssReceiver.put (receiver : GnssReceiver) (byte : UInt8) : Option GnssReceiver :=
  if receiver.nmeaLength < receiver.nmeaLine.length then
    some { receiver with nmeaLine := receiver.nmeaLine.set receiver.nmeaLength byte }
  else none

def GnssReceiver.push (receiver : GnssReceiver) (byte : UInt8) : Option GnssReceiver :=
  (receiver.put byte).map fun receiver => { receiver with nmeaLength := receiver.nmeaLength + 1 }

/-- `process_received_byte`; `none` for a store outside a buffer. -/
def processReceivedByte (receiver : GnssReceiver) (byte : UInt8) :
    Option (GnssReceiver × Option GnssOutput) :=
  if receiver.ubxParser.state ≠ .waitSync1 ∨ byte = ubxSync1 then
    (ubxParserConsume receiver.ubxParser byte).map fun (ubxParser, output) =>
      ({ receiver with nmeaLength := 0, ubxParser := ubxParser }, output.map .ubx)
  else if byte = dollar then
    ({ receiver with nmeaLength := 0 }.push dollar).map (·, none)
  else if receiver.nmeaLength = 0 then some (receiver, none)
  else if byte = carriageReturn then some (receiver, none)
  else if byte = lineFeed then
    (receiver.put 0).map fun receiver =>
      ({ receiver with nmeaLength := 0 },
        if receiver.nmeaLength > 0 then some (.nmeaLine (cString receiver.nmeaLine)) else none)
  else if receiver.nmeaLength < gnssLineMaxLength - 1 then (receiver.push byte).map (·, none)
  else some ({ receiver with nmeaLength := 0 }, some .overlongLine)

end NtsTimeServer.Model
