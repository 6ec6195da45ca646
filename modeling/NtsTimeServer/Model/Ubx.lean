import NtsTimeServer.Lib.Bytes
import NtsTimeServer.Model.Types

/-!
# UBX frames

The byte machine of `gnss_service.c` that finds UBX frames in what the receiver sends, and
`ubx_write_frame`. A frame that is dispatched is put out; so are the two kinds of error that
`s_status` counts.
-/

namespace NtsTimeServer.Model
open Lib

def ubxSync1 : UInt8 := 0xB5
def ubxSync2 : UInt8 := 0x62
def ubxMonVerMaxPayloadLength : Nat := 512

inductive UbxParseState
  | waitSync1 | waitSync2 | waitClass | waitId | waitLength1 | waitLength2 | waitPayload | waitCkA
  | waitCkB
  deriving DecidableEq, Repr

structure UbxParser where
  state : UbxParseState
  messageClass : UInt8
  messageId : UInt8
  payloadLength : Nat
  payloadIndex : Nat
  ckA : UInt8
  ckB : UInt8
  receivedCkA : UInt8
  receivedCkB : UInt8
  payload : Bytes
  deriving DecidableEq

structure UbxFrame where
  messageClass : UInt8
  messageId : UInt8
  payload : Bytes
  deriving DecidableEq, Repr

inductive UbxOutput
  | dispatched (frame : UbxFrame)
  | invalidLength
  | invalidChecksum
  deriving DecidableEq, Repr

def ubxParserReset : UbxParser where
  state := .waitSync1
  messageClass := 0
  messageId := 0
  payloadLength := 0
  payloadIndex := 0
  ckA := 0
  ckB := 0
  receivedCkA := 0
  receivedCkB := 0
  payload := List.replicate ubxMonVerMaxPayloadLength 0

def UbxParser.checksumAdd (parser : UbxParser) (byte : UInt8) : UbxParser :=
  { parser with ckA := parser.ckA + byte, ckB := parser.ckB + (parser.ckA + byte) }

def UbxParser.store (parser : UbxParser) (byte : UInt8) : UbxParser :=
  { parser with
    payload := parser.payload.set parser.payloadIndex byte
    payloadIndex := u16 (parser.payloadIndex + 1) }

/-- `ubx_parser_consume`; `none` for a store outside `payload`. -/
def ubxParserConsume (parser : UbxParser) (byte : UInt8) : Option (UbxParser × Option UbxOutput) :=
  match parser.state with
  | .waitSync1 =>
      some (if byte = ubxSync1 then { parser with state := .waitSync2 } else parser, none)
  | .waitSync2 =>
      some ({ parser with state :=
        if byte = ubxSync2 then .waitClass
        else if byte = ubxSync1 then .waitSync2
        else .waitSync1 }, none)
  | .waitClass =>
      some ({ { parser with messageClass := byte }.checksumAdd byte with state := .waitId }, none)
  | .waitId =>
      some ({ { parser with messageId := byte }.checksumAdd byte with state := .waitLength1 }, none)
  | .waitLength1 =>
      some ({ { parser with payloadLength := byte.toNat }.checksumAdd byte with
        state := .waitLength2 }, none)
  | .waitLength2 =>
      let payloadLength := parser.payloadLength ||| byte.toNat <<< 8
      let parser := { parser with payloadLength := payloadLength }.checksumAdd byte
      if payloadLength > ubxMonVerMaxPayloadLength then some (ubxParserReset, some .invalidLength)
      else some ({ parser with
        payloadIndex := 0
        state := if payloadLength = 0 then .waitCkA else .waitPayload }, none)
  | .waitPayload =>
      if parser.payloadIndex < parser.payload.length then
        let parser := (parser.store byte).checksumAdd byte
        some (if parser.payloadIndex ≥ parser.payloadLength then { parser with state := .waitCkA }
          else parser, none)
      else none
  | .waitCkA => some ({ parser with receivedCkA := byte, state := .waitCkB }, none)
  | .waitCkB =>
      some (ubxParserReset, some (
        if parser.receivedCkA = parser.ckA ∧ byte = parser.ckB then
          .dispatched ⟨parser.messageClass, parser.messageId,
            parser.payload.take parser.payloadLength⟩
        else .invalidChecksum))

/-! ## Writing -/

def ubxChecksum (bytes : Bytes) : UInt8 × UInt8 :=
  bytes.foldl (fun (ckA, ckB) byte => (ckA + byte, ckB + (ckA + byte))) (0, 0)

def ubxHeader (messageClass messageId : UInt8) (payloadLength : Nat) : Bytes :=
  [ubxSync1, ubxSync2, messageClass, messageId, UInt8.ofNat (payloadLength &&& 0xFF),
    UInt8.ofNat (payloadLength >>> 8 &&& 0xFF)]

/-- How the calls into the UART driver end: whether each `uart_write_bytes` takes all its bytes. -/
structure UartOutcome where
  header : Bool
  payload : Bool
  checksum : Bool
  txDone : EspErr
  deriving DecidableEq

/-- The result of `ubx_write_frame` and the bytes that its complete writes sent. -/
def ubxWriteFrame (messageClass messageId : UInt8) (payload : Bytes) (uart : UartOutcome) :
    EspErr × Bytes :=
  let header := ubxHeader messageClass messageId payload.length
  let (ckA, ckB) := ubxChecksum (header.drop 2 ++ payload)
  if ¬uart.header then (.fail, [])
  else if payload.length > 0 ∧ ¬uart.payload then (.fail, header)
  else if ¬uart.checksum then (.fail, header ++ payload)
  else (uart.txDone, header ++ payload ++ [ckA, ckB])

end NtsTimeServer.Model
