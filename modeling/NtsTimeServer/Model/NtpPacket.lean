import NtsTimeServer.Model.Clock
import NtsTimeServer.Lib.Bytes

/-!
# NTP packets

`ntp_packet.c` and `ntp_types.h`.
-/

namespace NtsTimeServer.Model
open Lib

def ntpPacketSize : Nat := 48

def ntpLiNoWarning : Nat := 0
def ntpLiAddSecond : Nat := 1
def ntpLiDeleteSecond : Nat := 2
def ntpLiUnsynced : Nat := 3

def ntpVersion4 : Nat := 4

def ntpModeClient : Nat := 3
def ntpModeServer : Nat := 4

def ntpStratumKod : Nat := 0
def ntpStratumPrimary : Nat := 1
def ntpStratumSecondary : Nat := 2

structure NtpPacketFields where
  leapIndicator : Nat
  version : Nat
  mode : Nat
  stratum : Nat
  precision : Int
  rootDelay : Nat
  rootDispersion : Nat
  referenceId : Nat
  referenceTimestamp : NtpTimestamp
  originTimestamp : NtpTimestamp
  receiveTimestamp : NtpTimestamp
  transmitTimestamp : NtpTimestamp
  deriving DecidableEq, Repr

def readTimestamp (data : Bytes) (offset : Nat) : NtpTimestamp :=
  ⟨readBe32 data offset, readBe32 data (offset + 4)⟩

def timestampBytes (timestamp : NtpTimestamp) : Bytes :=
  beBytes 4 timestamp.seconds ++ beBytes 4 timestamp.fraction

def int8 (byte : Nat) : Int := if byte < 128 then byte else (byte : Int) - 256

def ntpPacketParse (buffer : Bytes) : Option NtpPacketFields :=
  if buffer.length < ntpPacketSize then none
  else
    let firstOctet := byteAt buffer 0
    some {
      leapIndicator := firstOctet / 64 % 4
      version := firstOctet / 8 % 8
      mode := firstOctet % 8
      stratum := byteAt buffer 1
      precision := int8 (byteAt buffer 3)
      rootDelay := readBe32 buffer 4
      rootDispersion := readBe32 buffer 8
      referenceId := readBe32 buffer 12
      referenceTimestamp := readTimestamp buffer 16
      originTimestamp := readTimestamp buffer 24
      receiveTimestamp := readTimestamp buffer 32
      transmitTimestamp := readTimestamp buffer 40 }

/-- The 48 bytes of a packet; the poll exponent is always 6. -/
def ntpPacketBytes (packet : NtpPacketFields) : Bytes :=
  [UInt8.ofNat (packet.leapIndicator % 4 * 64 + packet.version % 8 * 8 + packet.mode % 8),
    UInt8.ofNat packet.stratum, 6, UInt8.ofNat (packet.precision % 256).toNat] ++
  (beBytes 4 packet.rootDelay ++ (beBytes 4 packet.rootDispersion ++ (beBytes 4 packet.referenceId ++
    (timestampBytes packet.referenceTimestamp ++ (timestampBytes packet.originTimestamp ++
      (timestampBytes packet.receiveTimestamp ++ timestampBytes packet.transmitTimestamp))))))

def ntpPacketBuild (outBuffer : Bytes) (packet : NtpPacketFields) : Bytes :=
  writeAt outBuffer 0 (ntpPacketBytes packet)

def ntpPacketRefidFromText (text : List Char) : Nat :=
  beValue (text.map fun letter => UInt8.ofNat letter.toNat)

end NtsTimeServer.Model
