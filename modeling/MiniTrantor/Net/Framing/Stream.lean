import MiniTrantor.Incremental
import MiniTrantor.Net.Framing.Wire

/-!
# Reading a stream of frames

`decodeFrame` is an incremental decoder, and `decodeBatch` reads the frames at
the front of its input up to the budget. A reader that collects chunks and
calls `decodeBatch` until it reports no limit finds the same frames, counts
the same bytes and ends with the same status as one call on the whole stream.
-/

set_option autoImplicit false

namespace MiniTrantor.Net.Framing

open Incremental

/-! ## One frame -/

/-- The four ways `decodeFrame` ends, with what it has checked. -/
inductive Decodes (framer : PacketFramer) (data : List UInt8) : Decoded → Prop where
  | shortHeader : data.length < kFrameHeaderSize → Decodes framer data { state := .kNeedMore }
  | invalid : kFrameHeaderSize ≤ data.length → (parseHeader data).magic ≠ framer.expectedMagic →
      Decodes framer data { state := .kInvalid }
  | overLimit : kFrameHeaderSize ≤ data.length → (parseHeader data).magic = framer.expectedMagic →
      framer.maxPayload < (parseHeader data).payloadLen.toNat →
      Decodes framer data { state := .kOverLimit }
  | shortPayload : kFrameHeaderSize ≤ data.length →
      data.length < kFrameHeaderSize + (parseHeader data).payloadLen.toNat →
      Decodes framer data { state := .kNeedMore }
  | complete : (parseHeader data).magic = framer.expectedMagic →
      (parseHeader data).payloadLen.toNat ≤ framer.maxPayload →
      kFrameHeaderSize + (parseHeader data).payloadLen.toNat ≤ data.length →
      Decodes framer data
        { state := .kComplete
          packet := some
            { header := parseHeader data
              payload := (data.drop kFrameHeaderSize).take (parseHeader data).payloadLen.toNat }
          consumed := kFrameHeaderSize + (parseHeader data).payloadLen.toNat }

theorem decode_cases (framer : PacketFramer) (data : List UInt8) :
    Decodes framer data (framer.decode data) := by
  rw [PacketFramer.decode, decodeFrame]
  split
  case isTrue short => exact .shortHeader short
  case isFalse long =>
    have long := Nat.le_of_not_lt long
    simp only
    split
    case isTrue wrong => exact .invalid long wrong
    case isFalse right =>
      have right := not_not.mp right
      split
      case isTrue large => exact .overLimit long right large
      case isFalse fits =>
        split
        case isTrue short => exact .shortPayload long short
        case isFalse whole => exact .complete right (Nat.le_of_not_lt fits) (Nat.le_of_not_lt whole)

/-- The verdict of `decodeFrame`, with the bytes it consumes. -/
def verdict (decoded : Decoded) : Verdict Packet PacketDecodeState :=
  match decoded with
  | { state := .kComplete, packet := some packet, consumed } => .complete packet consumed
  | { state := .kNeedMore, .. } => .needMore
  | { state, .. } => .fault state

theorem decode_append_invalid {framer : PacketFramer} {data : List UInt8}
    (long : kFrameHeaderSize ≤ data.length)
    (wrong : (parseHeader data).magic ≠ framer.expectedMagic) (more : List UInt8) :
    framer.decode (data ++ more) = { state := .kInvalid } := by
  rw [← parseHeader_append long more] at wrong
  rw [PacketFramer.decode, decodeFrame, if_neg (by rw [List.length_append]; omega)]
  simp only [if_pos wrong]

theorem decode_append_overLimit {framer : PacketFramer} {data : List UInt8}
    (long : kFrameHeaderSize ≤ data.length)
    (right : (parseHeader data).magic = framer.expectedMagic)
    (large : framer.maxPayload < (parseHeader data).payloadLen.toNat) (more : List UInt8) :
    framer.decode (data ++ more) = { state := .kOverLimit } := by
  rw [← parseHeader_append long more] at right large
  rw [PacketFramer.decode, decodeFrame, if_neg (by rw [List.length_append]; omega)]
  simp only [if_neg (not_not.mpr right), if_pos large]

theorem decode_append_complete {framer : PacketFramer} {data : List UInt8}
    (right : (parseHeader data).magic = framer.expectedMagic)
    (fits : (parseHeader data).payloadLen.toNat ≤ framer.maxPayload)
    (whole : kFrameHeaderSize + (parseHeader data).payloadLen.toNat ≤ data.length)
    (more : List UInt8) : framer.decode (data ++ more) = framer.decode data := by
  have long : kFrameHeaderSize ≤ data.length := by omega
  have header := parseHeader_append long more
  have body : ((data ++ more).drop kFrameHeaderSize).take (parseHeader data).payloadLen.toNat =
      (data.drop kFrameHeaderSize).take (parseHeader data).payloadLen.toNat := by
    rw [List.drop_append_of_le_length long, List.take_append_of_le_length]
    rw [List.length_drop]
    omega
  simp only [PacketFramer.decode, decodeFrame, header, List.length_append]
  simp only [if_neg (not_not.mpr right), if_neg (Nat.not_lt.mpr fits), if_neg (Nat.not_lt.mpr whole),
    if_neg (Nat.not_lt.mpr long), body]
  rw [if_neg (by omega), if_neg (by omega)]

def decoder (framer : PacketFramer) : Decoder UInt8 Packet PacketDecodeState where
  decode := fun data => verdict (framer.decode data)
  consumes := by
    intro data frame consumed decoded
    have ways := decode_cases framer data
    generalize framer.decode data = result at decoded ways
    cases ways with
    | complete _ _ whole =>
        cases decoded
        exact ⟨by simp [kFrameHeaderSize], whole⟩
    | shortHeader | invalid | overLimit | shortPayload => cases decoded
  complete_stable := by
    intro data frame consumed decoded more
    have ways := decode_cases framer data
    generalize same : framer.decode data = result at decoded ways
    cases ways with
    | complete right fits whole =>
        rw [decode_append_complete right fits whole more, same]
        exact decoded
    | shortHeader | invalid | overLimit | shortPayload => cases decoded
  fault_stable := by
    intro data fault decoded more
    have ways := decode_cases framer data
    generalize framer.decode data = result at decoded ways
    cases ways with
    | invalid long wrong => rw [decode_append_invalid long wrong more]; exact decoded
    | overLimit long right large => rw [decode_append_overLimit long right large more]; exact decoded
    | shortHeader | shortPayload | complete => cases decoded

/-! ## One batch -/

def ending : PacketDecodeState → Ending PacketDecodeState
  | .kComplete => .drained
  | .kNeedMore => .needMore
  | state => .fault state

/-- A batch reads the frames at the front of the data. It reports the limit
only with the budget used up and bytes left; else it has read all there is. -/
structure Batched (framer : PacketFramer) (data : List UInt8) (frameBudget : Nat)
    (result : PacketBatchResult) : Prop where
  advances : Advances (decoder framer) data result.packets result.consumed
  limited : result.hitLimit = true → result.packets.length = frameBudget ∧ result.status = .kNeedMore
  ended : result.hitLimit = false →
    Stops (decoder framer) (data.drop result.consumed) (ending result.status)

theorem Batched.of_stops {framer : PacketFramer} {data : List UInt8} {frameBudget : Nat}
    {result : PacketBatchResult} (unlimited : result.hitLimit = false)
    (advances : Advances (decoder framer) data result.packets result.consumed)
    (stops : Stops (decoder framer) (data.drop result.consumed) (ending result.status)) :
    Batched framer data frameBudget result where
  advances := advances
  limited := fun limited => absurd (limited.symm.trans unlimited) (by simp)
  ended := fun _ => stops

theorem finishBatch_batched {framer : PacketFramer} {data : List UInt8} {frameBudget offset : Nat}
    {packets : List Packet} (advances : Advances (decoder framer) data packets offset)
    (spent : offset < data.length → packets.length = frameBudget) :
    Batched framer data frameBudget (PacketFramer.finishBatch data frameBudget offset packets) := by
  rw [PacketFramer.finishBatch]
  split
  case isTrue left =>
    refine ⟨advances, fun _ => ⟨spent left, rfl⟩, fun unlimited => ?_⟩
    simp [spent left] at unlimited
  case isFalse all =>
    refine .of_stops rfl advances ?_
    rw [List.drop_eq_nil_of_le (Nat.le_of_not_lt all)]
    exact .drained

theorem batchLoop_batched {framer : PacketFramer} {data : List UInt8} {frameBudget : Nat}
    (remaining : Nat) {offset : Nat} {packets : List Packet}
    (advances : Advances (decoder framer) data packets offset)
    (budget : packets.length + remaining = frameBudget) :
    Batched framer data frameBudget
      (framer.batchLoop data frameBudget remaining offset packets) := by
  induction remaining generalizing offset packets with
  | zero => exact finishBatch_batched advances fun _ => budget
  | succ remaining ih =>
      rw [PacketFramer.batchLoop]
      split
      case isFalse all => exact finishBatch_batched advances fun left => absurd left all
      case isTrue left =>
        have nonempty : data.drop offset ≠ [] := by
          intro empty
          have := List.drop_eq_nil_iff.mp empty
          omega
        have ways := decode_cases framer (data.drop offset)
        generalize same : framer.decode (data.drop offset) = decoded at ways
        have decoding : (decoder framer).decode (data.drop offset) = verdict decoded := by
          rw [← same]
          rfl
        cases ways with
        | complete _ _ _ =>
            have one := advances.trans (.step decoding (.refl _))
            exact ih one (by rw [List.length_append, ← budget]; simp; omega)
        | shortHeader | shortPayload =>
            exact .of_stops rfl advances (.needMore nonempty decoding)
        | invalid | overLimit =>
            exact .of_stops rfl advances (.fault nonempty decoding)

/-- The number of frames a call may decode. -/
def frameBudget (maxPackets maxFramesPerBatch : Nat) : Nat :=
  if maxFramesPerBatch = 0 then maxPackets else min maxPackets maxFramesPerBatch

theorem decodeBatch_batched (framer : PacketFramer) (data : List UInt8) {maxPackets : Nat}
    (room : 1 ≤ maxPackets) (maxFramesPerBatch : Nat) :
    Batched framer data (frameBudget maxPackets maxFramesPerBatch)
      (framer.decodeBatch data maxPackets maxFramesPerBatch) := by
  rw [PacketFramer.decodeBatch, if_neg (by omega)]
  exact batchLoop_batched _ (.refl _) (by rw [frameBudget]; simp)

theorem frameBudget_pos {maxPackets : Nat} (room : 1 ≤ maxPackets) (maxFramesPerBatch : Nat) :
    1 ≤ frameBudget maxPackets maxFramesPerBatch := by
  rw [frameBudget]
  split <;> omega

/-- With room for one frame per byte the whole input is read. -/
theorem decodeBatch_unlimited (framer : PacketFramer) {data : List UInt8} {maxPackets : Nat}
    (room : data.length < maxPackets) :
    let result := framer.decodeBatch data maxPackets 0
    Reading (decoder framer) data result.packets result.consumed (ending result.status) := by
  have batched := decodeBatch_batched framer data (show 1 ≤ maxPackets by omega) 0
  refine ⟨batched.advances, batched.ended ?_⟩
  by_contra limited
  have full := (batched.limited (by simpa using limited)).1
  have few := Nat.le_trans batched.advances.frames_le batched.advances.bounded
  rw [full, frameBudget, if_pos rfl] at few
  omega

end MiniTrantor.Net.Framing
