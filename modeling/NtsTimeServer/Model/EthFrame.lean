import NtsTimeServer.Lib.Bytes

/-!
# Ethernet frames

The walk of `eth_service.c` from the Ethernet header to the UDP header of an NTP request.
-/

namespace NtsTimeServer.Model
open Lib

def ethertypeIpv4 : Nat := 0x0800
def ethertypeVlan : Nat := 0x8100
def ethertypeQinq : Nat := 0x88A8
def ipProtocolUdp : Nat := 17
def ntpUdpPort : Nat := 123

def isVlanTag (etherType : Nat) : Bool := etherType == ethertypeVlan || etherType == ethertypeQinq

/-- The loop over VLAN tags with its length check: the type and the offset after the tags. -/
def ethSkipVlanTags (buffer : Bytes) : Nat → Nat → Nat → Option (Nat × Nat)
  | 0, etherType, l3Offset => some (etherType, l3Offset)
  | tags + 1, etherType, l3Offset =>
      if isVlanTag etherType then
        if buffer.length < l3Offset + 4 then none
        else ethSkipVlanTags buffer tags (readBe16 buffer (l3Offset + 2)) (l3Offset + 4)
      else some (etherType, l3Offset)

/-- The loop over VLAN tags in a frame that is known to be long enough. -/
def ethL3Offset (buffer : Bytes) : Nat → Nat → Nat → Nat
  | 0, _, l3Offset => l3Offset
  | tags + 1, etherType, l3Offset =>
      if isVlanTag etherType then
        ethL3Offset buffer tags (readBe16 buffer (l3Offset + 2)) (l3Offset + 4)
      else l3Offset

def ipHeaderLen (buffer : Bytes) (l3Offset : Nat) : Nat := byteAt buffer l3Offset % 16 * 4

/-- The checks shared by requests and responses; the offset of the UDP header if they pass. -/
def ethFrameUdpOffset (buffer : Bytes) : Option Nat :=
  if buffer.length < 14 then none
  else match ethSkipVlanTags buffer 2 (readBe16 buffer 12) 14 with
    | none => none
    | some (etherType, l3Offset) =>
        if etherType ≠ ethertypeIpv4 ∨ buffer.length < l3Offset + 20 then none
        else if byteAt buffer l3Offset / 16 ≠ 4 then none
        else
          let ipHeaderLen := ipHeaderLen buffer l3Offset
          if ipHeaderLen < 20 ∨ buffer.length < l3Offset + ipHeaderLen + 8 then none
          else if byteAt buffer (l3Offset + 9) ≠ ipProtocolUdp then none
          -- a later fragment has no UDP header
          else if readBe16 buffer (l3Offset + 6) % 0x2000 ≠ 0 then none
          else some (l3Offset + ipHeaderLen)

def ethFrameIsIpv4UdpNtp (buffer : Bytes) : Bool :=
  match ethFrameUdpOffset buffer with
  | none => false
  | some udpOffset => readBe16 buffer (udpOffset + 2) == ntpUdpPort

/-- `eth_frame_get_ntp_client`: the address as in `sin_addr.s_addr`, the port in host order. -/
def ethFrameGetNtpClient (buffer : Bytes) : Option (Nat × Nat) :=
  if ¬ethFrameIsIpv4UdpNtp buffer then none
  else
    let l3Offset := ethL3Offset buffer 2 (readBe16 buffer 12) 14
    some (readLe32 buffer (l3Offset + 12), readBe16 buffer (l3Offset + ipHeaderLen buffer l3Offset))

end NtsTimeServer.Model
