import Mathlib

/-!
# Packet framing

Frames are a fixed big-endian header and a payload of the declared length.
`encodeFrame` writes one frame, `decodeFrame` takes one from the front of a
buffer, and `decodeBatch` repeats it up to a budget of frames. A payload view
is modelled by the bytes it shows.
-/

set_option autoImplicit false

namespace MiniTrantor.Net.Framing

def kDefaultPacketMagic : UInt16 := 0x5046

def kFrameHeaderSize : Nat := 2 + 4 + 4 + 2 + 4

def kDefaultMaxPayloadSize : Nat := 64 * 1024

def kDefaultMaxFramesPerBatch : Nat := 16

structure PacketHeader where
  magic : UInt16 := kDefaultPacketMagic
  payloadLen : UInt32 := 0
  msgId : UInt32 := 0
  flags : UInt16 := 0
  seq : UInt32 := 0
  deriving DecidableEq, Repr

inductive PacketDecodeState where
  | kComplete
  | kNeedMore
  | kInvalid
  | kOverLimit
  deriving DecidableEq, Repr

structure Packet where
  header : PacketHeader := {}
  payload : List UInt8 := []
  deriving DecidableEq, Repr

def appendUint16 (out : List UInt8) (value : UInt16) : List UInt8 :=
  out ++ [((value >>> 8) &&& 0xFF).toUInt8, (value &&& 0xFF).toUInt8]

def appendUint32 (out : List UInt8) (value : UInt32) : List UInt8 :=
  out ++ [((value >>> 24) &&& 0xFF).toUInt8, ((value >>> 16) &&& 0xFF).toUInt8,
    ((value >>> 8) &&& 0xFF).toUInt8, (value &&& 0xFF).toUInt8]

def readUint16 (data : List UInt8) : UInt16 :=
  ((data.getD 0 0).toUInt16 <<< 8) ||| (data.getD 1 0).toUInt16

def readUint32 (data : List UInt8) : UInt32 :=
  ((data.getD 0 0).toUInt32 <<< 24) ||| ((data.getD 1 0).toUInt32 <<< 16) |||
    ((data.getD 2 0).toUInt32 <<< 8) ||| (data.getD 3 0).toUInt32

def parseHeader (data : List UInt8) : PacketHeader where
  magic := readUint16 data
  payloadLen := readUint32 (data.drop 2)
  msgId := readUint32 (data.drop 6)
  flags := readUint16 (data.drop 10)
  seq := readUint32 (data.drop 12)

/-- The length field is the payload size truncated to 32 bits, whatever the
header says. -/
def encodeFrame (header : PacketHeader) (payload : List UInt8)
    (maxPayload : Nat := kDefaultMaxPayloadSize) : List UInt8 :=
  if payload.length > maxPayload then []
  else
    let normalized := { header with payloadLen := UInt32.ofNat payload.length }
    let frame := appendUint16 [] normalized.magic
    let frame := appendUint32 frame normalized.payloadLen
    let frame := appendUint32 frame normalized.msgId
    let frame := appendUint16 frame normalized.flags
    let frame := appendUint32 frame normalized.seq
    frame ++ payload

/-- What `decodeFrame` returns and leaves in its output parameters; the packet
is written only with a complete frame. -/
structure Decoded where
  state : PacketDecodeState
  packet : Option Packet := none
  consumed : Nat := 0
  deriving DecidableEq, Repr

def decodeFrame (data : List UInt8) (maxPayload : Nat := kDefaultMaxPayloadSize)
    (expectedMagic : UInt16 := kDefaultPacketMagic) : Decoded :=
  if data.length < kFrameHeaderSize then { state := .kNeedMore }
  else
    let header := parseHeader data
    if header.magic ≠ expectedMagic then { state := .kInvalid }
    else if header.payloadLen.toNat > maxPayload then { state := .kOverLimit }
    else
      let totalLen := kFrameHeaderSize + header.payloadLen.toNat
      if data.length < totalLen then { state := .kNeedMore }
      else
        { state := .kComplete
          packet := some { header, payload := (data.drop kFrameHeaderSize).take header.payloadLen.toNat }
          consumed := totalLen }

structure PacketFramer where
  expectedMagic : UInt16 := kDefaultPacketMagic
  maxPayload : Nat := kDefaultMaxPayloadSize
  deriving DecidableEq, Repr

/-- The result of a batch, with the packets written to the caller's array. -/
structure PacketBatchResult where
  status : PacketDecodeState := .kNeedMore
  consumed : Nat := 0
  packets : List Packet := []
  hitLimit : Bool := false
  deriving DecidableEq, Repr

namespace PacketFramer

def encode (framer : PacketFramer) (msgId : UInt32) (flags : UInt16) (seq : UInt32)
    (payload : List UInt8) : List UInt8 :=
  encodeFrame { magic := framer.expectedMagic, payloadLen := 0, msgId, flags, seq } payload
    framer.maxPayload

def decode (framer : PacketFramer) (data : List UInt8) : Decoded :=
  decodeFrame data framer.maxPayload framer.expectedMagic

/-- What follows the loop of `decodeBatch`. -/
def finishBatch (data : List UInt8) (frameBudget offset : Nat) (packets : List Packet) :
    PacketBatchResult :=
  if offset < data.length then
    { status := .kNeedMore, consumed := offset, packets, hitLimit := packets.length == frameBudget }
  else { status := .kComplete, consumed := offset, packets }

/-- The loop of `decodeBatch`, with the frames it may still decode. -/
def batchLoop (framer : PacketFramer) (data : List UInt8) (frameBudget : Nat) :
    Nat → Nat → List Packet → PacketBatchResult
  | 0, offset, packets => finishBatch data frameBudget offset packets
  | remaining + 1, offset, packets =>
      if offset < data.length then
        match framer.decode (data.drop offset) with
        | { state := .kComplete, packet := some packet, consumed } =>
            batchLoop framer data frameBudget remaining (offset + consumed) (packets ++ [packet])
        | { state, .. } => { status := state, consumed := offset, packets }
      else finishBatch data frameBudget offset packets

def decodeBatch (framer : PacketFramer) (data : List UInt8) (maxPackets : Nat)
    (maxFramesPerBatch : Nat := kDefaultMaxFramesPerBatch) : PacketBatchResult :=
  if maxPackets = 0 then
    { status := if data.length = 0 then .kComplete else .kNeedMore, hitLimit := data.length > 0 }
  else
    let frameBudget :=
      if maxFramesPerBatch = 0 then maxPackets else min maxPackets maxFramesPerBatch
    batchLoop framer data frameBudget frameBudget 0 []

end PacketFramer

end MiniTrantor.Net.Framing
