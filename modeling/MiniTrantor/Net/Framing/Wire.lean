import MiniTrantor.Net.Framing.PacketFramer

/-!
# The wire format

What the header fields are in terms of the bytes, and that the fields written
by `encodeFrame` are the fields read back by `decodeFrame`.
-/

set_option autoImplicit false

namespace MiniTrantor.Net.Framing

/-! ## Big-endian integers -/

private theorem shifted_byte16 (byte : UInt8) :
    (byte.toUInt16 <<< 8).toNat = byte.toNat <<< 8 := by
  have bound := byte.toNat_lt
  rw [UInt16.toNat_shiftLeft, UInt8.toNat_toUInt16]
  apply Nat.mod_eq_of_lt
  simp only [UInt16.reduceToNat, Nat.reduceMod, Nat.shiftLeft_eq]
  omega

private theorem shifted_byte32 (byte : UInt8) (shift : UInt32) (small : shift.toNat ≤ 24) :
    (byte.toUInt32 <<< shift).toNat = byte.toNat <<< shift.toNat := by
  have bound := byte.toNat_lt
  rw [UInt32.toNat_shiftLeft, UInt8.toNat_toUInt32, Nat.mod_eq_of_lt (by omega : shift.toNat < 32)]
  apply Nat.mod_eq_of_lt
  rw [Nat.shiftLeft_eq]
  calc byte.toNat * 2 ^ shift.toNat ≤ byte.toNat * 2 ^ 24 :=
        Nat.mul_le_mul_left _ (Nat.pow_le_pow_right (by decide) small)
    _ < 2 ^ 32 := by omega

theorem readUint16_toNat (data : List UInt8) :
    (readUint16 data).toNat = (data.getD 0 0).toNat * 2 ^ 8 + (data.getD 1 0).toNat := by
  have low := (data.getD 1 0).toNat_lt
  rw [readUint16, UInt16.toNat_or, shifted_byte16, UInt8.toNat_toUInt16,
    ← Nat.shiftLeft_add_eq_or_of_lt low, Nat.shiftLeft_eq]

theorem readUint32_toNat (data : List UInt8) :
    (readUint32 data).toNat = (data.getD 0 0).toNat * 2 ^ 24 + (data.getD 1 0).toNat * 2 ^ 16 +
      (data.getD 2 0).toNat * 2 ^ 8 + (data.getD 3 0).toNat := by
  have second := (data.getD 1 0).toNat_lt
  have third := (data.getD 2 0).toNat_lt
  have fourth := (data.getD 3 0).toNat_lt
  rw [readUint32, UInt32.toNat_or, UInt32.toNat_or, UInt32.toNat_or, UInt8.toNat_toUInt32,
    shifted_byte32 _ 24 (by decide), shifted_byte32 _ 16 (by decide),
    shifted_byte32 _ 8 (by decide)]
  generalize (data.getD 0 0).toNat = a, (data.getD 1 0).toNat = b, (data.getD 2 0).toNat = c,
    (data.getD 3 0).toNat = d at *
  -- the bytes occupy disjoint bits, so each `|||` is a sum
  have lowest : c <<< 8 ||| d = c * 2 ^ 8 + d := by
    rw [← Nat.shiftLeft_add_eq_or_of_lt fourth, Nat.shiftLeft_eq]
  have middle : b <<< 16 ||| (c * 2 ^ 8 + d) = b * 2 ^ 16 + (c * 2 ^ 8 + d) := by
    rw [← Nat.shiftLeft_add_eq_or_of_lt (by omega), Nat.shiftLeft_eq]
  have highest : a <<< 24 ||| (b * 2 ^ 16 + (c * 2 ^ 8 + d)) =
      a * 2 ^ 24 + (b * 2 ^ 16 + (c * 2 ^ 8 + d)) := by
    rw [← Nat.shiftLeft_add_eq_or_of_lt (by omega), Nat.shiftLeft_eq]
  simp only [UInt32.reduceToNat]
  rw [Nat.or_assoc, Nat.or_assoc, lowest, middle, highest]
  omega

private theorem byte_of_uint16 (value shift : UInt16) (small : shift.toNat < 16) :
    ((value >>> shift) &&& 0xFF).toUInt8.toNat = value.toNat / 2 ^ shift.toNat % 2 ^ 8 := by
  rw [UInt16.toNat_toUInt8, UInt16.toNat_and, UInt16.toNat_shiftRight, Nat.mod_eq_of_lt small,
    Nat.shiftRight_eq_div_pow]
  have mask : (0xFF : UInt16).toNat = 2 ^ 8 - 1 := rfl
  rw [mask, Nat.and_two_pow_sub_one_eq_mod, Nat.mod_mod]

private theorem byte_of_uint32 (value shift : UInt32) (small : shift.toNat < 32) :
    ((value >>> shift) &&& 0xFF).toUInt8.toNat = value.toNat / 2 ^ shift.toNat % 2 ^ 8 := by
  rw [UInt32.toNat_toUInt8, UInt32.toNat_and, UInt32.toNat_shiftRight, Nat.mod_eq_of_lt small,
    Nat.shiftRight_eq_div_pow]
  have mask : (0xFF : UInt32).toNat = 2 ^ 8 - 1 := rfl
  rw [mask, Nat.and_two_pow_sub_one_eq_mod, Nat.mod_mod]

theorem readUint16_append (value : UInt16) (rest : List UInt8) :
    readUint16 (appendUint16 [] value ++ rest) = value := by
  apply UInt16.toNat_inj.mp
  have high := byte_of_uint16 value 8 (by decide)
  have low := byte_of_uint16 value 0 (by decide)
  have bound := value.toNat_lt
  rw [readUint16_toNat]
  simp only [UInt16.reduceToNat, UInt16.shiftRight_zero, appendUint16, List.nil_append,
    List.cons_append, List.getD_cons_zero, List.getD_cons_succ] at high low ⊢
  omega

theorem readUint32_append (value : UInt32) (rest : List UInt8) :
    readUint32 (appendUint32 [] value ++ rest) = value := by
  apply UInt32.toNat_inj.mp
  have first := byte_of_uint32 value 24 (by decide)
  have second := byte_of_uint32 value 16 (by decide)
  have third := byte_of_uint32 value 8 (by decide)
  have fourth := byte_of_uint32 value 0 (by decide)
  have bound := value.toNat_lt
  rw [readUint32_toNat]
  simp only [UInt32.reduceToNat, UInt32.shiftRight_zero, appendUint32, List.nil_append,
    List.cons_append, List.getD_cons_zero, List.getD_cons_succ] at first second third fourth ⊢
  omega

/-- Two bytes read as a field are the bytes that the field is written as. -/
theorem appendUint16_read {data : List UInt8} (long : 2 ≤ data.length) :
    appendUint16 [] (readUint16 data) = data.take 2 := by
  obtain ⟨high, low, rest, rfl⟩ : ∃ high low rest, data = high :: low :: rest := by
    rcases data with _ | ⟨high, _ | ⟨low, rest⟩⟩
    · simp at long
    · simp at long
    · exact ⟨high, low, rest, rfl⟩
  have value := readUint16_toNat (high :: low :: rest)
  have first := byte_of_uint16 (readUint16 (high :: low :: rest)) 8 (by decide)
  have second := byte_of_uint16 (readUint16 (high :: low :: rest)) 0 (by decide)
  have highBound := high.toNat_lt
  have lowBound := low.toNat_lt
  simp only [List.getD_cons_zero, List.getD_cons_succ] at value
  simp only [UInt16.reduceToNat, UInt16.shiftRight_zero, value] at first second
  simp only [appendUint16, List.nil_append, List.take_succ_cons, List.take_zero, List.cons.injEq,
    and_true]
  constructor
  · apply UInt8.toNat_inj.mp
    omega
  · apply UInt8.toNat_inj.mp
    omega

theorem appendUint32_read {data : List UInt8} (long : 4 ≤ data.length) :
    appendUint32 [] (readUint32 data) = data.take 4 := by
  obtain ⟨a, b, c, d, rest, rfl⟩ : ∃ a b c d rest, data = a :: b :: c :: d :: rest := by
    rcases data with _ | ⟨a, _ | ⟨b, _ | ⟨c, _ | ⟨d, rest⟩⟩⟩⟩
    · simp at long
    · simp at long
    · simp at long
    · simp at long
    · exact ⟨a, b, c, d, rest, rfl⟩
  have value := readUint32_toNat (a :: b :: c :: d :: rest)
  have first := byte_of_uint32 (readUint32 (a :: b :: c :: d :: rest)) 24 (by decide)
  have second := byte_of_uint32 (readUint32 (a :: b :: c :: d :: rest)) 16 (by decide)
  have third := byte_of_uint32 (readUint32 (a :: b :: c :: d :: rest)) 8 (by decide)
  have fourth := byte_of_uint32 (readUint32 (a :: b :: c :: d :: rest)) 0 (by decide)
  have bounds := And.intro a.toNat_lt (And.intro b.toNat_lt (And.intro c.toNat_lt d.toNat_lt))
  simp only [List.getD_cons_zero, List.getD_cons_succ] at value
  simp only [UInt32.reduceToNat, UInt32.shiftRight_zero, value] at first second third fourth
  simp only [appendUint32, List.nil_append, List.take_succ_cons, List.take_zero, List.cons.injEq,
    and_true]
  refine ⟨?_, ?_, ?_, ?_⟩
  all_goals
    apply UInt8.toNat_inj.mp
    omega

/-! ## Headers and frames -/

/-- The bytes of a header. -/
def wireHeader (header : PacketHeader) : List UInt8 :=
  appendUint16 [] header.magic ++ (appendUint32 [] header.payloadLen ++
    (appendUint32 [] header.msgId ++ (appendUint16 [] header.flags ++ appendUint32 [] header.seq)))

@[simp] theorem wireHeader_length (header : PacketHeader) :
    (wireHeader header).length = kFrameHeaderSize := rfl

theorem parseHeader_wireHeader (header : PacketHeader) (rest : List UInt8) :
    parseHeader (wireHeader header ++ rest) = header := by
  obtain ⟨magic, payloadLen, msgId, flags, seq⟩ := header
  simp only [parseHeader, wireHeader, List.append_assoc, PacketHeader.mk.injEq]
  refine ⟨readUint16_append _ _, ?_, ?_, ?_, ?_⟩
  · exact readUint32_append payloadLen _
  · exact readUint32_append msgId _
  · exact readUint16_append flags _
  · exact readUint32_append seq _

/-- Headers are read from the first sixteen bytes only. -/
theorem parseHeader_append {data : List UInt8} (long : kFrameHeaderSize ≤ data.length)
    (more : List UInt8) : parseHeader (data ++ more) = parseHeader data := by
  have field : ∀ index, index < 16 → (data ++ more)[index]? = data[index]? := by
    intro index inside
    exact List.getElem?_append_left (Nat.lt_of_lt_of_le inside long)
  simp only [parseHeader, readUint16, readUint32, List.getD_eq_getElem?_getD, List.getElem?_drop,
    Nat.reduceAdd]
  simp only [field, Nat.reduceLT]

/-- Sixteen bytes read as a header are the bytes that the header is written as. -/
theorem wireHeader_parseHeader {data : List UInt8} (long : kFrameHeaderSize ≤ data.length) :
    wireHeader (parseHeader data) = data.take kFrameHeaderSize := by
  have size : kFrameHeaderSize = 2 + (4 + (4 + (2 + 4))) := rfl
  rw [size] at long ⊢
  rw [wireHeader, parseHeader, appendUint16_read (by omega),
    appendUint32_read (by rw [List.length_drop]; omega),
    appendUint32_read (by rw [List.length_drop]; omega),
    appendUint16_read (by rw [List.length_drop]; omega),
    appendUint32_read (by rw [List.length_drop]; omega)]
  simp only [List.take_add, List.drop_drop]

theorem encodeFrame_eq {header : PacketHeader} {payload : List UInt8} {maxPayload : Nat}
    (fits : payload.length ≤ maxPayload) :
    encodeFrame header payload maxPayload =
      wireHeader { header with payloadLen := UInt32.ofNat payload.length } ++ payload := by
  rw [encodeFrame, if_neg (Nat.not_lt.mpr fits)]
  simp [wireHeader, appendUint16, appendUint32]

theorem decodeFrame_wire {header : PacketHeader} {payload : List UInt8} {maxPayload : Nat}
    (fits : header.payloadLen.toNat ≤ maxPayload) (declared : header.payloadLen.toNat = payload.length)
    (rest : List UInt8) :
    decodeFrame (wireHeader header ++ payload ++ rest) maxPayload header.magic =
      { state := .kComplete
        packet := some { header, payload }
        consumed := kFrameHeaderSize + payload.length } := by
  have long : ¬(wireHeader header ++ payload ++ rest).length < kFrameHeaderSize := by
    simp [List.length_append]
  have complete : ¬(wireHeader header ++ payload ++ rest).length <
      kFrameHeaderSize + payload.length := by
    simp only [List.length_append, wireHeader_length]
    omega
  have body : ((wireHeader header ++ payload ++ rest).drop kFrameHeaderSize).take payload.length =
      payload := by
    rw [List.append_assoc, ← wireHeader_length header, List.drop_left, List.take_left]
  rw [decodeFrame, if_neg long]
  rw [List.append_assoc] at complete body ⊢
  simp only [parseHeader_wireHeader, ne_eq, not_true_eq_false, ↓reduceIte, declared,
    if_neg complete, body]
  rw [if_neg (by omega)]

end MiniTrantor.Net.Framing
