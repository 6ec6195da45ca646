import NtsTimeServer.Lib.Memory
import NtsTimeServer.Model.LateStamp

/-!
# The walks over a frame with their accesses

The functions of `eth_service.c` that walk from the Ethernet header to the NTP packet, with every access
to the frame checked: a walk that succeeds returns the offsets it has used besides its results, one that
returns `false` ends in an error, and an access outside the frame is a fault.
-/

namespace NtsTimeServer.Model
open Lib

abbrev FrameWalk := Except (Halt Unit)

def refuse {α : Type} : FrameWalk α := .error (.error ())

structure FrameOffsets where
  l3Offset : Nat
  udpOffset : Nat
  deriving DecidableEq, Repr

def walkVlanTags (buffer : Bytes) : Nat → Nat → Nat → FrameWalk (Nat × Nat)
  | 0, etherType, l3Offset => return (etherType, l3Offset)
  | tags + 1, etherType, l3Offset =>
      if isVlanTag etherType then
        if buffer.length < l3Offset + 4 then refuse
        else do
          let etherType ← loadBe 2 buffer (l3Offset + 2)
          walkVlanTags buffer tags etherType (l3Offset + 4)
      else return (etherType, l3Offset)

def walkVlanTagsUnchecked (buffer : Bytes) : Nat → Nat → Nat → FrameWalk Nat
  | 0, _, l3Offset => return l3Offset
  | tags + 1, etherType, l3Offset =>
      if isVlanTag etherType then do
        let etherType ← loadBe 2 buffer (l3Offset + 2)
        walkVlanTagsUnchecked buffer tags etherType (l3Offset + 4)
      else return l3Offset

def walkUdpHeader (buffer : Bytes) : FrameWalk FrameOffsets :=
  if buffer.length < 14 then refuse
  else do
    let etherType ← loadBe 2 buffer 12
    let (etherType, l3Offset) ← walkVlanTags buffer 2 etherType 14
    if etherType ≠ ethertypeIpv4 ∨ buffer.length < l3Offset + 20 then refuse
    else do
      let versionIhl ← loadByte buffer l3Offset
      if versionIhl / 16 ≠ 4 then refuse
      else
        let ipHeaderLen := versionIhl % 16 * 4
        if ipHeaderLen < 20 ∨ buffer.length < l3Offset + ipHeaderLen + 8 then refuse
        else do
          let protocol ← loadByte buffer (l3Offset + 9)
          if protocol ≠ ipProtocolUdp then refuse
          else do
            let fragment ← loadBe 2 buffer (l3Offset + 6)
            if fragment % 0x2000 ≠ 0 then refuse
            else return ⟨l3Offset, l3Offset + ipHeaderLen⟩

def walkIsIpv4UdpNtp (buffer : Bytes) : FrameWalk FrameOffsets := do
  let offsets ← walkUdpHeader buffer
  let destinationPort ← loadBe 2 buffer (offsets.udpOffset + 2)
  if destinationPort ≠ ntpUdpPort then refuse else return offsets

def walkIsIpv4UdpNtpResponse (buffer : Bytes) : FrameWalk FrameOffsets := do
  let offsets ← walkUdpHeader buffer
  let sourcePort ← loadBe 2 buffer offsets.udpOffset
  if sourcePort ≠ ntpUdpPort then refuse else return offsets

def walkGetNtpClient (buffer : Bytes) : FrameWalk (FrameOffsets × Nat × Nat) := do
  let _ ← walkIsIpv4UdpNtp buffer
  let etherType ← loadBe 2 buffer 12
  let l3Offset ← walkVlanTagsUnchecked buffer 2 etherType 14
  let versionIhl ← loadByte buffer l3Offset
  let udpOffset := l3Offset + versionIhl % 16 * 4
  let outIpv4 ← memcpy (List.replicate 4 0) 0 (buffer.drop (l3Offset + 12)) 4
  let outPort ← loadBe 2 buffer udpOffset
  return (⟨l3Offset, udpOffset⟩, readLe32 outIpv4 0, outPort)

def walkGetNtpResponseXmt (buffer : Bytes) : FrameWalk (FrameOffsets × NtpTimestamp) := do
  let _ ← walkIsIpv4UdpNtpResponse buffer
  let etherType ← loadBe 2 buffer 12
  let l3Offset ← walkVlanTagsUnchecked buffer 2 etherType 14
  let versionIhl ← loadByte buffer l3Offset
  let udpOffset := l3Offset + versionIhl % 16 * 4
  let ntpOffset := udpOffset + 8
  if buffer.length < ntpOffset + 48 then refuse
  else do
    let seconds ← loadBe 4 buffer (ntpOffset + 40)
    let fraction ← loadBe 4 buffer (ntpOffset + 44)
    return (⟨l3Offset, udpOffset⟩, ⟨seconds, fraction⟩)

/-- The checks of `eth_frame_prepare_ntp_late_stamp` on the datagram. -/
def walkPrepareDatagram (buffer : Bytes) (l3Offset : Nat) : FrameWalk (FrameOffsets × LateStampCtx) := do
  let versionIhl ← loadByte buffer l3Offset
  let ipHeaderLen := versionIhl % 16 * 4
  if ipHeaderLen < 20 ∨ buffer.length < l3Offset + ipHeaderLen + 8 then refuse
  else do
    let fragment ← loadBe 2 buffer (l3Offset + 6)
    if fragment % 0x4000 ≠ 0 then refuse
    else do
      let ipTotalLength ← loadBe 2 buffer (l3Offset + 2)
      let udpOffset := l3Offset + ipHeaderLen
      let udpLength ← loadBe 2 buffer (udpOffset + 4)
      if udpLength ≠ 56 ∨ ipTotalLength ≠ ipHeaderLen + udpLength ∨
          buffer.length < udpOffset + udpLength then refuse
      else do
        let ntpOffset := udpOffset + 8
        let mode ← loadByte buffer ntpOffset
        let stratum ← loadByte buffer (ntpOffset + 1)
        if mode % 8 ≠ 4 ∨ stratum = 0 then refuse
        else do
          let udpChecksum ← loadBe 2 buffer (udpOffset + 6)
          if udpChecksum = 0 then refuse
          else do
            let oldXmtWords ← [40, 42, 44, 46].mapM fun i => loadBe 2 buffer (ntpOffset + i)
            return (⟨l3Offset, udpOffset⟩, ⟨udpOffset, ntpOffset, udpChecksum, oldXmtWords⟩)

def walkPrepareNtpLateStamp (buffer : Bytes) : FrameWalk (FrameOffsets × LateStampCtx) := do
  let _ ← walkIsIpv4UdpNtpResponse buffer
  let etherType ← loadBe 2 buffer 12
  let (etherType, l3Offset) ← walkVlanTags buffer 2 etherType 14
  if etherType ≠ ethertypeIpv4 ∨ buffer.length < l3Offset + 20 then refuse
  else walkPrepareDatagram buffer l3Offset

def walkApplyNtpLateStamp (buffer : Bytes) (ctx : LateStampCtx) (timestamp : NtpTimestamp) :
    FrameWalk Bytes := do
  let buffer ← memcpy buffer (ctx.ntpOffset + 40) (beBytes 4 timestamp.seconds) 4
  let buffer ← memcpy buffer (ctx.ntpOffset + 44) (beBytes 4 timestamp.fraction) 4
  memcpy buffer (ctx.udpOffset + 6) (beBytes 2 (lateStampChecksum ctx timestamp)) 2

end NtsTimeServer.Model
