import MiniTrantor.Net.Framing.Stream

/-!
# The grammar of frames

`decodeFrame` accepts the frames of one grammar, written here over the bytes
and without the functions of the code, and `encodeFrame` is its inverse. The
encoder keeps the lower half of a size that does not fit the length field, and
what it writes then is another frame.
-/

set_option autoImplicit false

namespace MiniTrantor.Net.Framing

/-- The number that the bytes stand for, the first byte the highest. -/
def bigEndian (bytes : List UInt8) : Nat :=
  bytes.foldl (fun value byte => value * 256 + byte.toNat) 0

/-- The length that a header declares. -/
def declared (data : List UInt8) : Nat := bigEndian ((data.drop 2).take 4)

/-- A frame stands at the front of the data. -/
structure Framed (data : List UInt8) (maxPayload : Nat) (expectedMagic : UInt16) : Prop where
  header : 16 ≤ data.length
  magic : bigEndian (data.take 2) = expectedMagic.toNat
  limit : declared data ≤ maxPayload
  payload : 16 + declared data ≤ data.length

theorem bigEndian_magic {data : List UInt8} (long : 16 ≤ data.length) :
    bigEndian (data.take 2) = (parseHeader data).magic.toNat := by
  rcases data with _ | ⟨high, _ | ⟨low, rest⟩⟩
  · simp at long
  · simp at long
  · rw [parseHeader, readUint16_toNat]
    simp [bigEndian]

theorem declared_eq {data : List UInt8} (long : 16 ≤ data.length) :
    declared data = (parseHeader data).payloadLen.toNat := by
  have enough : 4 ≤ (data.drop 2).length := by
    rw [List.length_drop]
    omega
  rw [declared, parseHeader, readUint32_toNat]
  generalize data.drop 2 = bytes at enough
  rcases bytes with _ | ⟨a, _ | ⟨b, _ | ⟨c, _ | ⟨d, rest⟩⟩⟩⟩
  · simp at enough
  · simp at enough
  · simp at enough
  · simp at enough
  · simp only [bigEndian, List.take_succ_cons, List.take_zero, List.foldl_cons, List.foldl_nil,
      List.getD_cons_zero, List.getD_cons_succ]
    omega

/-- The grammar in terms of the header that the code reads. -/
theorem framed_iff {data : List UInt8} {maxPayload : Nat} {expectedMagic : UInt16} :
    Framed data maxPayload expectedMagic ↔ kFrameHeaderSize ≤ data.length ∧
      (parseHeader data).magic = expectedMagic ∧
      (parseHeader data).payloadLen.toNat ≤ maxPayload ∧
      kFrameHeaderSize + (parseHeader data).payloadLen.toNat ≤ data.length := by
  constructor
  · intro framed
    have long := framed.header
    refine ⟨long, ?_, ?_, ?_⟩
    · exact UInt16.toNat_inj.mp ((bigEndian_magic long).symm.trans framed.magic)
    · exact declared_eq long ▸ framed.limit
    · exact declared_eq long ▸ framed.payload
  · rintro ⟨long, magic, limit, payload⟩
    exact ⟨long, by rw [bigEndian_magic long, magic], by rwa [declared_eq long],
      by rwa [declared_eq long]⟩

/-! ## Decoding -/

variable {data : List UInt8} {maxPayload : Nat} {expectedMagic : UInt16}

theorem decodeFrame_framed (framed : Framed data maxPayload expectedMagic) :
    decodeFrame data maxPayload expectedMagic =
      { state := .kComplete
        packet := some
          { header := parseHeader data
            payload := (data.drop kFrameHeaderSize).take (declared data) }
        consumed := 16 + declared data } := by
  have same := declared_eq framed.header
  obtain ⟨long, magic, limit, payload⟩ := framed_iff.mp framed
  rw [decodeFrame, if_neg (Nat.not_lt.mpr long)]
  simp only [magic, ne_eq, not_true_eq_false, ↓reduceIte]
  rw [if_neg (Nat.not_lt.mpr limit), if_neg (Nat.not_lt.mpr payload), same]
  rfl

/-- Data that does not start with a frame is refused with a reason of its own. -/
inductive Refuses (data : List UInt8) (maxPayload : Nat) (expectedMagic : UInt16) :
    PacketDecodeState → Prop where
  | shortHeader : data.length < 16 → Refuses data maxPayload expectedMagic .kNeedMore
  | invalid : 16 ≤ data.length → (parseHeader data).magic ≠ expectedMagic →
      Refuses data maxPayload expectedMagic .kInvalid
  | overLimit : 16 ≤ data.length → (parseHeader data).magic = expectedMagic →
      maxPayload < (parseHeader data).payloadLen.toNat →
      Refuses data maxPayload expectedMagic .kOverLimit
  | shortPayload : 16 ≤ data.length → (parseHeader data).magic = expectedMagic →
      (parseHeader data).payloadLen.toNat ≤ maxPayload →
      data.length < 16 + (parseHeader data).payloadLen.toNat →
      Refuses data maxPayload expectedMagic .kNeedMore

theorem decodeFrame_refuses (broken : ¬Framed data maxPayload expectedMagic) :
    ∃ state, decodeFrame data maxPayload expectedMagic = { state } ∧
      Refuses data maxPayload expectedMagic state := by
  rw [decodeFrame]
  split
  case isTrue short => exact ⟨_, rfl, .shortHeader short⟩
  case isFalse long =>
    have long := Nat.le_of_not_lt long
    simp only
    split
    case isTrue wrong => exact ⟨_, rfl, .invalid long wrong⟩
    case isFalse right =>
      have right := not_not.mp right
      split
      case isTrue large => exact ⟨_, rfl, .overLimit long right large⟩
      case isFalse fits =>
        have fits := Nat.le_of_not_lt fits
        split
        case isTrue short => exact ⟨_, rfl, .shortPayload long right fits short⟩
        case isFalse whole =>
          exact absurd (framed_iff.mpr ⟨long, right, fits, Nat.le_of_not_lt whole⟩) broken

/-- The missing bytes of a payload complete the frame, whatever they are. -/
theorem Refuses.completes (refuses : Refuses data maxPayload expectedMagic .kNeedMore)
    (long : 16 ≤ data.length) : ∃ more, Framed (data ++ more) maxPayload expectedMagic := by
  cases refuses with
  | shortHeader short => omega
  | shortPayload _ magic limit short =>
      have header := fun more => parseHeader_append long more
      refine ⟨List.replicate (16 + (parseHeader data).payloadLen.toNat - data.length) 0,
        framed_iff.mpr ⟨?_, ?_, ?_, ?_⟩⟩
      · exact Nat.le_trans long (by rw [List.length_append]; omega)
      · rw [header, magic]
      · rw [header]
        exact limit
      · rw [header, List.length_append, List.length_replicate, kFrameHeaderSize]
        omega

/-- A verdict that does not ask for more bytes is not changed by them. -/
theorem decodeFrame_append (settled : (decodeFrame data maxPayload expectedMagic).state ≠ .kNeedMore)
    (more : List UInt8) :
    decodeFrame (data ++ more) maxPayload expectedMagic =
      decodeFrame data maxPayload expectedMagic := by
  by_cases framed : Framed data maxPayload expectedMagic
  case pos =>
    obtain ⟨long, magic, limit, payload⟩ := framed_iff.mp framed
    exact @decode_append_complete { expectedMagic, maxPayload } data magic limit payload more
  case neg =>
    obtain ⟨state, decoded, refuses⟩ := decodeFrame_refuses framed
    rw [decoded] at settled ⊢
    cases refuses with
    | shortHeader | shortPayload => exact absurd rfl settled
    | invalid long wrong =>
        exact @decode_append_invalid { expectedMagic, maxPayload } data long wrong more
    | overLimit long right large =>
        exact @decode_append_overLimit { expectedMagic, maxPayload } data long right large more

theorem encodeFrame_decoded (framed : Framed data maxPayload expectedMagic) :
    encodeFrame (parseHeader data) ((data.drop kFrameHeaderSize).take (declared data)) maxPayload =
      data.take (16 + declared data) := by
  have size : ((data.drop kFrameHeaderSize).take (declared data)).length = declared data := by
    have whole := framed.payload
    rw [List.length_take, List.length_drop, kFrameHeaderSize]
    omega
  have header : { parseHeader data with payloadLen := UInt32.ofNat (declared data) } =
      parseHeader data := by
    rw [declared_eq framed.header, UInt32.ofNat_toNat]
  rw [encodeFrame_eq (by rw [size]; exact framed.limit), size, header,
    wireHeader_parseHeader framed.header]
  exact List.take_add.symm

/-- What a decoder is to do with data of any kind. -/
structure Canonical (data : List UInt8) (maxPayload : Nat) (expectedMagic : UInt16)
    (decoded : Decoded) : Prop where
  accepts : decoded.state = .kComplete ↔ Framed data maxPayload expectedMagic
  inverse : decoded.state = .kComplete → ∃ packet, decoded.packet = some packet ∧
    decoded.consumed = 16 + declared data ∧
    encodeFrame packet.header packet.payload maxPayload = data.take (16 + declared data)
  untouched : decoded.state ≠ .kComplete → decoded.consumed = 0 ∧ decoded.packet = none
  completable : decoded.state = .kNeedMore → 16 ≤ data.length →
    ∃ more, (decodeFrame (data ++ more) maxPayload expectedMagic).state = .kComplete
  stable : decoded.state ≠ .kNeedMore →
    ∀ more, decodeFrame (data ++ more) maxPayload expectedMagic = decoded

theorem decoding_canonical (data : List UInt8) (maxPayload : Nat) (expectedMagic : UInt16) :
    Canonical data maxPayload expectedMagic (decodeFrame data maxPayload expectedMagic) := by
  have stable := @decodeFrame_append data maxPayload expectedMagic
  by_cases framed : Framed data maxPayload expectedMagic
  case pos =>
    rw [decodeFrame_framed framed] at stable ⊢
    exact ⟨iff_of_true rfl framed, fun _ => ⟨_, rfl, rfl, encodeFrame_decoded framed⟩,
      fun other => absurd rfl other, by simp, stable⟩
  case neg =>
    obtain ⟨state, decoded, refuses⟩ := decodeFrame_refuses framed
    rw [decoded] at stable ⊢
    have incomplete : state ≠ .kComplete := by
      cases refuses <;> simp
    refine ⟨iff_of_false incomplete framed, fun complete => absurd complete incomplete,
      fun _ => ⟨rfl, rfl⟩, ?_, stable⟩
    intro short long
    have short : state = .kNeedMore := short
    subst short
    obtain ⟨more, completed⟩ := refuses.completes long
    exact ⟨more, by rw [decodeFrame_framed completed]⟩

/-! ## Encoding -/

/-- A frame is refused, or is decoded to the payload and to the end. -/
def Delimited (header : PacketHeader) (payload : List UInt8) (maxPayload : Nat) : Prop :=
  let frame := encodeFrame header payload maxPayload
  let decoded := decodeFrame frame maxPayload header.magic
  frame = [] ∨ decoded.state = .kComplete ∧ decoded.consumed = frame.length ∧
    decoded.packet.map Packet.payload = some payload

/-- A payload that is not refused decodes to as many of its bytes as the length
field says, which is its size modulo 2^32. -/
theorem decodeFrame_encoded (header : PacketHeader) {payload : List UInt8} {maxPayload : Nat}
    (fits : payload.length ≤ maxPayload) :
    decodeFrame (encodeFrame header payload maxPayload) maxPayload header.magic =
      { state := .kComplete
        packet := some
          { header := { header with payloadLen := UInt32.ofNat payload.length }
            payload := payload.take (payload.length % 2 ^ 32) }
        consumed := kFrameHeaderSize + payload.length % 2 ^ 32 } := by
  have field : (UInt32.ofNat payload.length).toNat = payload.length % 2 ^ 32 := rfl
  have within : payload.length % 2 ^ 32 ≤ payload.length := Nat.mod_le _ _
  have kept : (payload.take (payload.length % 2 ^ 32)).length = payload.length % 2 ^ 32 := by
    rw [List.length_take]
    omega
  have parts : encodeFrame header payload maxPayload =
      wireHeader { header with payloadLen := UInt32.ofNat payload.length } ++
        payload.take (payload.length % 2 ^ 32) ++ payload.drop (payload.length % 2 ^ 32) := by
    rw [encodeFrame_eq fits, List.append_assoc, List.take_append_drop]
  have decoded := @decodeFrame_wire { header with payloadLen := UInt32.ofNat payload.length }
    (payload.take (payload.length % 2 ^ 32)) maxPayload (by dsimp only; omega)
    (by dsimp only; rw [kept, field]) (payload.drop (payload.length % 2 ^ 32))
  rw [← parts, kept] at decoded
  exact decoded

theorem encodeFrame_nonempty (header : PacketHeader) {payload : List UInt8} {maxPayload : Nat}
    (fits : payload.length ≤ maxPayload) :
    (encodeFrame header payload maxPayload).length = 16 + payload.length := by
  rw [encodeFrame_eq fits, List.length_append, wireHeader_length, kFrameHeaderSize]

/-- A size that does not fit the length field leaves bytes behind the frame. -/
theorem not_delimited (header : PacketHeader) {payload : List UInt8} {maxPayload : Nat}
    (large : 2 ^ 32 ≤ payload.length) (fits : payload.length ≤ maxPayload) :
    ¬Delimited header payload maxPayload := by
  have size := encodeFrame_nonempty header fits
  rintro (empty | ⟨_, consumed, _⟩)
  · rw [empty] at size
    simp at size
    omega
  · rw [decodeFrame_encoded header fits, size, kFrameHeaderSize] at consumed
    have below : payload.length % 2 ^ 32 < 2 ^ 32 := Nat.mod_lt _ (by decide)
    dsimp only at consumed
    omega

/-- The encoder delimits a frame exactly if the size of the payload fits the
length field or is over the limit. -/
theorem encoding_delimited (header : PacketHeader) (payload : List UInt8) (maxPayload : Nat) :
    Delimited header payload maxPayload ↔
      payload.length < 2 ^ 32 ∨ maxPayload < payload.length := by
  constructor
  · intro delimited
    by_contra other
    obtain ⟨large, fits⟩ := not_or.mp other
    exact not_delimited header (Nat.le_of_not_lt large) (Nat.le_of_not_lt fits) delimited
  · rintro (small | large)
    · by_cases fits : payload.length ≤ maxPayload
      case pos =>
        refine .inr ?_
        rw [decodeFrame_encoded header fits, encodeFrame_nonempty header fits,
          Nat.mod_eq_of_lt small]
        exact ⟨rfl, rfl, by simp⟩
      case neg => exact .inl (if_pos (Nat.lt_of_not_le fits))
    · exact .inl (if_pos large)

/-- A payload of 2^32 bytes is written behind a header that declares none. -/
theorem encoding_truncated :
    ¬Delimited {} (List.replicate (2 ^ 32) 0) (2 ^ 32) := by
  refine not_delimited {} ?_ ?_
  · rw [List.length_replicate]
  · rw [List.length_replicate]

end MiniTrantor.Net.Framing
