import NtsTimeServer.Lib.OnesComplement
import NtsTimeServer.Model.Clock
import NtsTimeServer.Model.EthFrame

/-!
# Late transmit stamps

`eth_service.c` on the transmit side: an NTP response in a frame that is about to be sent gets a new
transmit timestamp, and its UDP checksum is updated for the four words that change.
-/

namespace NtsTimeServer.Model
open Lib

def ethNtpTxCompensationNs : Nat := 98941

def ethFrameIsIpv4UdpNtpResponse (buffer : Bytes) : Bool :=
  match ethFrameUdpOffset buffer with
  | none => false
  | some udpOffset => readBe16 buffer udpOffset == ntpUdpPort

structure LateStampCtx where
  udpOffset : Nat
  ntpOffset : Nat
  udpChecksum : Nat
  oldXmtWords : List Nat
  deriving DecidableEq, Repr

/-- The checks on the IPv4 datagram at `l3Offset` and the fields they leave in the context. -/
def prepareDatagram (buffer : Bytes) (l3Offset : Nat) : Option LateStampCtx :=
  let ipHeaderLen := ipHeaderLen buffer l3Offset
  if ipHeaderLen < 20 ∨ buffer.length < l3Offset + ipHeaderLen + 8 then none
  -- neither a fragment nor the first of several
  else if readBe16 buffer (l3Offset + 6) % 0x4000 ≠ 0 then none
  else
    let ipTotalLength := readBe16 buffer (l3Offset + 2)
    let udpOffset := l3Offset + ipHeaderLen
    let udpLength := readBe16 buffer (udpOffset + 4)
    if udpLength ≠ 56 ∨ ipTotalLength ≠ ipHeaderLen + udpLength ∨
        buffer.length < udpOffset + udpLength then none
    else
      let ntpOffset := udpOffset + 8
      let mode := byteAt buffer ntpOffset % 8
      let stratum := byteAt buffer (ntpOffset + 1)
      let udpChecksum := readBe16 buffer (udpOffset + 6)
      if mode ≠ 4 ∨ stratum = 0 then none
      else if udpChecksum = 0 then none
      else some {
        udpOffset := udpOffset
        ntpOffset := ntpOffset
        udpChecksum := udpChecksum
        oldXmtWords := [readBe16 buffer (ntpOffset + 40), readBe16 buffer (ntpOffset + 42),
          readBe16 buffer (ntpOffset + 44), readBe16 buffer (ntpOffset + 46)] }

def ethFramePrepareNtpLateStamp (buffer : Bytes) : Option LateStampCtx :=
  if ¬ethFrameIsIpv4UdpNtpResponse buffer then none
  else match ethSkipVlanTags buffer 2 (readBe16 buffer 12) 14 with
    | none => none
    | some (etherType, l3Offset) =>
        if etherType ≠ ethertypeIpv4 ∨ buffer.length < l3Offset + 20 then none
        else prepareDatagram buffer l3Offset

def ethFrameGetNtpResponseXmt (buffer : Bytes) : Option NtpTimestamp :=
  if ¬ethFrameIsIpv4UdpNtpResponse buffer then none
  else
    let l3Offset := ethL3Offset buffer 2 (readBe16 buffer 12) 14
    let ntpOffset := l3Offset + ipHeaderLen buffer l3Offset + 8
    if buffer.length < ntpOffset + 48 then none
    else some ⟨readBe32 buffer (ntpOffset + 40), readBe32 buffer (ntpOffset + 44)⟩

def checksumReplaceWord (checksum oldWord newWord : Nat) : Nat :=
  let sum := (0xFFFF - checksum) + (0xFFFF - oldWord) + newWord
  0xFFFF - foldCarries sum

def newXmtWords (timestamp : NtpTimestamp) : List Nat :=
  [u16 (timestamp.seconds / 65536), u16 timestamp.seconds,
    u16 (timestamp.fraction / 65536), u16 timestamp.fraction]

/-- The checksum after the loop over the four words, with 0 replaced. -/
def lateStampChecksum (ctx : LateStampCtx) (timestamp : NtpTimestamp) : Nat :=
  let checksum := (ctx.oldXmtWords.zip (newXmtWords timestamp)).foldl
    (fun checksum word => checksumReplaceWord checksum word.1 word.2) ctx.udpChecksum
  if checksum = 0 then 0xFFFF else checksum

def ethFrameApplyNtpLateStamp (buffer : Bytes) (ctx : LateStampCtx) (timestamp : NtpTimestamp) :
    Bytes :=
  let buffer := writeAt buffer (ctx.ntpOffset + 40) (beBytes 4 timestamp.seconds)
  let buffer := writeAt buffer (ctx.ntpOffset + 44) (beBytes 4 timestamp.fraction)
  writeAt buffer (ctx.udpOffset + 6) (beBytes 2 (lateStampChecksum ctx timestamp))

def predictedTxTimestamp (timestamp : NtpTimestamp) : NtpTimestamp :=
  let fractionDelta := (ethNtpTxCompensationNs * 2 ^ 32 + 500000000) / 1000000000
  let fractionSum := timestamp.fraction + fractionDelta
  { seconds := u32 (timestamp.seconds + fractionSum / 2 ^ 32)
    fraction := u32 fractionSum }

/-- `eth_ntp_tx_probe_transmit`: the frame it hands to the MAC. `clock` is what
`clock_discipline_get_ntp_timestamp` returns there. -/
def ethNtpTxProbeTransmit (buffer : Bytes) (clock : Option NtpTimestamp) : Bytes :=
  if ¬ethFrameIsIpv4UdpNtpResponse buffer then buffer
  else match ethFramePrepareNtpLateStamp buffer, clock with
    | some ctx, some timestamp =>
        ethFrameApplyNtpLateStamp buffer ctx (predictedTxTimestamp timestamp)
    | _, _ => buffer

end NtsTimeServer.Model
