import MiniTrantor.Net.Framing.Stream

/-!
# A reader of chunks

The reader appends each chunk to the bytes it has not consumed and calls
`decodeBatch` until a call reports no limit. It stops for good at the first
input that is rejected.
-/

set_option autoImplicit false

namespace MiniTrantor.Net.Framing

open Incremental

/-- The limits of one call, which has room for at least one packet. -/
structure Budget where
  maxPackets : Nat
  maxFramesPerBatch : Nat := kDefaultMaxFramesPerBatch
  room : 1 ≤ maxPackets

structure Reader where
  unread : List UInt8 := []
  packets : List Packet := []
  consumed : Nat := 0
  /-- The status of every call so far. -/
  statuses : List PacketDecodeState := []
  deriving DecidableEq, Repr

def PacketDecodeState.rejects : PacketDecodeState → Bool
  | .kInvalid | .kOverLimit => true
  | .kComplete | .kNeedMore => false

namespace Reader

def call (framer : PacketFramer) (budgets : Nat → Budget) (reader : Reader) : PacketBatchResult :=
  let budget := budgets reader.statuses.length
  framer.decodeBatch reader.unread budget.maxPackets budget.maxFramesPerBatch

def record (result : PacketBatchResult) (reader : Reader) : Reader where
  unread := reader.unread.drop result.consumed
  packets := reader.packets ++ result.packets
  consumed := reader.consumed + result.consumed
  statuses := reader.statuses ++ [result.status]

/-- The calls after one chunk; `none` if the fuel does not suffice for them. -/
def drain (framer : PacketFramer) (budgets : Nat → Budget) : Nat → Reader → Option Reader
  | 0, _ => none
  | fuel + 1, reader =>
      let result := reader.call framer budgets
      if result.hitLimit then drain framer budgets fuel (reader.record result)
      else some (reader.record result)

def rejected (reader : Reader) : Bool := reader.statuses.getLast?.any (·.rejects)

def feed (framer : PacketFramer) (budgets : Nat → Budget) (fuel : Nat) :
    List (List UInt8) → Reader → Option Reader
  | [], reader => some reader
  | chunk :: chunks, reader =>
      match drain framer budgets fuel { reader with unread := reader.unread ++ chunk } with
      | none => none
      | some reader => if reader.rejected then some reader else feed framer budgets fuel chunks reader

variable {framer : PacketFramer} {budgets : Nat → Budget}

/-- Between calls the reader holds the frames at the front of what it has seen
and the bytes after them. -/
structure Reads (framer : PacketFramer) (seen : List UInt8) (reader : Reader) : Prop where
  advances : Advances (decoder framer) seen reader.packets reader.consumed
  unread : reader.unread = seen.drop reader.consumed
  accepted : ∀ status ∈ reader.statuses, status.rejects = false

/-- The reader has read the whole stream, and its last status says how it ends. -/
def Ended (framer : PacketFramer) (stream : List UInt8) (reader : Reader) : Prop :=
  ∃ earlier status, reader.statuses = earlier ++ [status] ∧
    (∀ state ∈ earlier, state.rejects = false) ∧
    Reading (decoder framer) stream reader.packets reader.consumed (ending status)

/-- After its calls for a chunk the reader has read all it has seen. -/
structure Settled (framer : PacketFramer) (seen : List UInt8) (reader : Reader) : Prop where
  unread : reader.unread = seen.drop reader.consumed
  ended : Ended framer seen reader

theorem Reads.record {seen : List UInt8} {reader : Reader} (reads : Reads framer seen reader)
    {frameBudget : Nat} {result : PacketBatchResult}
    (batched : Batched framer reader.unread frameBudget result) (limited : result.hitLimit = true) :
    Reads framer seen (reader.record result) where
  advances := by
    refine reads.advances.trans ?_
    rw [← reads.unread]
    exact batched.advances
  unread := by
    rw [Reader.record, reads.unread, List.drop_drop]
  accepted := by
    intro status member
    rcases List.mem_append.mp member with old | new
    · exact reads.accepted status old
    · rw [List.mem_singleton.mp new, (batched.limited limited).2]
      rfl

theorem Reads.settle {seen : List UInt8} {reader : Reader} (reads : Reads framer seen reader)
    {frameBudget : Nat} {result : PacketBatchResult}
    (batched : Batched framer reader.unread frameBudget result) (unlimited : result.hitLimit = false) :
    Settled framer seen (reader.record result) where
  unread := by
    rw [Reader.record, reads.unread, List.drop_drop]
  ended := by
    refine ⟨reader.statuses, result.status, rfl, reads.accepted, .prepend reads.advances ?_⟩
    rw [← reads.unread]
    exact ⟨batched.advances, batched.ended unlimited⟩

/-- Each call that reports the limit consumes at least one byte, so the calls end. -/
theorem drain_settled (fuel : Nat) {seen : List UInt8} {reader : Reader}
    (reads : Reads framer seen reader) (enough : reader.unread.length < fuel) :
    ∃ after, drain framer budgets fuel reader = some after ∧ Settled framer seen after := by
  induction fuel generalizing reader with
  | zero => omega
  | succ fuel ih =>
      have batched : Batched framer reader.unread _ (reader.call framer budgets) :=
        decodeBatch_batched framer reader.unread (budgets reader.statuses.length).room _
      rw [drain]
      cases limit : (reader.call framer budgets).hitLimit with
      | false => exact ⟨_, rfl, reads.settle batched limit⟩
      | true =>
          refine ih (reads.record batched limit) ?_
          have full := (batched.limited limit).1
          have some := frameBudget_pos (budgets reader.statuses.length).room
            (budgets reader.statuses.length).maxFramesPerBatch
          have taken := batched.advances.frames_le
          have bounded := batched.advances.bounded
          rw [Reader.record, List.length_drop]
          omega

/-- A reader whose last status rejects nothing goes on. -/
theorem Settled.reads {seen : List UInt8} {reader : Reader} (settled : Settled framer seen reader)
    (going : reader.rejected = false) : Reads framer seen reader := by
  obtain ⟨earlier, status, statuses, accepted, reading⟩ := settled.ended
  refine ⟨reading.advances, settled.unread, ?_⟩
  rw [statuses]
  simp only [rejected, statuses, List.getLast?_concat, Option.any_some] at going
  intro state member
  rcases List.mem_append.mp member with old | new
  · exact accepted state old
  · rw [List.mem_singleton.mp new, going]

theorem Reads.append {seen : List UInt8} {reader : Reader} (reads : Reads framer seen reader)
    (chunk : List UInt8) :
    Reads framer (seen ++ chunk) { reader with unread := reader.unread ++ chunk } where
  advances := reads.advances.extend chunk
  unread := by
    rw [List.drop_append_of_le_length reads.advances.bounded, ← reads.unread]
  accepted := reads.accepted

theorem ending_of_rejects {status : PacketDecodeState} (rejects : status.rejects = true) :
    ending status = .fault status := by
  cases status with
  | kInvalid | kOverLimit => rfl
  | kComplete | kNeedMore => cases rejects

/-- A rejected stream needs no further chunk. -/
theorem Settled.append {seen : List UInt8} {reader : Reader} (settled : Settled framer seen reader)
    (stopped : reader.rejected = true) (more : List UInt8) :
    Ended framer (seen ++ more) reader := by
  obtain ⟨earlier, status, statuses, accepted, reading⟩ := settled.ended
  simp only [rejected, statuses, List.getLast?_concat, Option.any_some] at stopped
  rw [ending_of_rejects stopped] at reading
  refine ⟨earlier, status, statuses, accepted, ?_⟩
  rw [ending_of_rejects stopped]
  exact reading.fault_extend more

theorem feed_ended {fuel : Nat} {chunks : List (List UInt8)} (nonempty : chunks ≠ [])
    {seen : List UInt8} {reader : Reader} (reads : Reads framer seen reader)
    (enough : (seen ++ chunks.flatten).length < fuel) :
    ∃ after, feed framer budgets fuel chunks reader = some after ∧
      Ended framer (seen ++ chunks.flatten) after ∧
      (after.rejected = false → after.unread = (seen ++ chunks.flatten).drop after.consumed) := by
  induction chunks generalizing seen reader with
  | nil => exact absurd rfl nonempty
  | cons chunk chunks ih =>
      rw [List.flatten_cons, ← List.append_assoc] at enough ⊢
      have longer := reads.append chunk
      have room : (reader.unread ++ chunk).length < fuel := by
        have unread := congrArg List.length longer.unread
        rw [List.length_drop] at unread
        simp only [List.length_append] at unread enough ⊢
        omega
      obtain ⟨middle, drained, settled⟩ := @drain_settled framer budgets fuel _ _ longer room
      rw [feed, drained]
      simp only
      cases stopped : middle.rejected with
      | true =>
          refine ⟨middle, rfl, settled.append stopped _, fun going => ?_⟩
          rw [stopped] at going
          cases going
      | false =>
          cases chunks with
          | nil =>
              refine ⟨middle, rfl, ?_, fun _ => ?_⟩
              · simpa using settled.ended
              · simpa using settled.unread
          | cons next chunks => exact ih (by simp) (settled.reads stopped) enough

theorem initial_reads (framer : PacketFramer) : Reads framer [] {} where
  advances := .refl _
  unread := rfl
  accepted := by simp

end Reader

theorem ending_injective {first second : PacketDecodeState} (same : ending first = ending second) :
    first = second := by
  cases first <;> cases second <;> first | rfl | cases same

/-! ## Any input -/

/-- Chunks and budgets do not matter: whatever the bytes, the reader stops, and
with the frames, the count and the status of one call on the whole input. A
call consumes no more than it is given and reports the limit only with a frame. -/
theorem chunked_reading (framer : PacketFramer) (data : List UInt8) (chunks : List (List UInt8))
    (split : chunks.flatten = data) (budgets : Nat → Budget) (unlimited fuel : Nat)
    (room : data.length < unlimited) (enough : data.length < fuel) :
    (∃ reader, Reader.feed framer budgets fuel chunks {} = some reader ∧
      reader.packets = (framer.decodeBatch data unlimited 0).packets ∧
      reader.consumed = (framer.decodeBatch data unlimited 0).consumed ∧
      reader.statuses.getLast? =
        if chunks = [] then none else some (framer.decodeBatch data unlimited 0).status) ∧
    ∀ (input : List UInt8) (budget : Budget),
      let result := framer.decodeBatch input budget.maxPackets budget.maxFramesPerBatch
      result.consumed ≤ input.length ∧ (result.hitLimit = true → 0 < result.packets.length) := by
  have whole := decodeBatch_unlimited framer room
  refine ⟨?_, fun input budget => ?_⟩
  · by_cases none : chunks = []
    · subst none
      have nothing : Reading (decoder framer) data [] 0 .drained := by
        rw [← split]
        exact ⟨.refl _, .drained⟩
      obtain ⟨packets, consumed, _⟩ := nothing.unique whole
      exact ⟨{}, rfl, packets, consumed, by simp⟩
    · obtain ⟨reader, fed, ⟨earlier, status, statuses, _, reading⟩, _⟩ :=
        @Reader.feed_ended framer budgets fuel chunks none [] {} (Reader.initial_reads framer)
          (by simpa [split] using enough)
      rw [List.nil_append, split] at reading
      obtain ⟨packets, consumed, ended⟩ := reading.unique whole
      refine ⟨reader, fed, packets, consumed, ?_⟩
      rw [if_neg none, statuses, List.getLast?_concat, ending_injective ended]
  · have batched := decodeBatch_batched framer input budget.room budget.maxFramesPerBatch
    refine ⟨batched.advances.bounded, fun limited => ?_⟩
    rw [(batched.limited limited).1]
    exact frameBudget_pos budget.room budget.maxFramesPerBatch

/-- A frame cut inside its header, followed by one byte of another. -/
theorem chunked_reading_torn_header :
    ∃ reader, Reader.feed {} (fun _ => { maxPackets := 1, room := Nat.le_refl 1 }) 19
        [[0x50, 0x46, 0], [0, 0, 1, 0, 0, 0, 1, 0, 2, 0, 0, 0, 3, 7], [0x50]] {} = some reader ∧
      reader.packets.length = 1 ∧ reader.consumed = 17 ∧
      reader.statuses.getLast? = some .kNeedMore := by
  obtain ⟨reader, fed, packets, consumed, status⟩ := (chunked_reading {}
    [0x50, 0x46, 0, 0, 0, 1, 0, 0, 0, 1, 0, 2, 0, 0, 0, 3, 7, 0x50]
    [[0x50, 0x46, 0], [0, 0, 1, 0, 0, 0, 1, 0, 2, 0, 0, 0, 3, 7], [0x50]] rfl
    (fun _ => { maxPackets := 1, room := Nat.le_refl 1 }) 19 19 (by decide) (by decide)).1
  refine ⟨reader, fed, ?_, ?_, ?_⟩
  · rw [packets]
    decide
  · rw [consumed]
    decide
  · rw [status]
    decide

/-! ## Encoded messages -/

structure Message where
  msgId : UInt32
  flags : UInt16
  seq : UInt32
  payload : List UInt8
  deriving DecidableEq, Repr

namespace Message

def encode (framer : PacketFramer) (message : Message) : List UInt8 :=
  framer.encode message.msgId message.flags message.seq message.payload

/-- The packet a receiver of the message should see. -/
def packet (framer : PacketFramer) (message : Message) : Packet where
  header :=
    { magic := framer.expectedMagic
      payloadLen := UInt32.ofNat message.payload.length
      msgId := message.msgId
      flags := message.flags
      seq := message.seq }
  payload := message.payload

variable {framer : PacketFramer} {message : Message}

theorem decode_encode (fits : message.payload.length ≤ min framer.maxPayload (2 ^ 32 - 1))
    (rest : List UInt8) :
    (decoder framer).decode (message.encode framer ++ rest) =
      .complete (message.packet framer) (message.encode framer).length := by
  have payload : message.payload.length < UInt32.size := by
    rw [UInt32.size]
    omega
  have declared : (UInt32.ofNat message.payload.length).toNat = message.payload.length :=
    UInt32.toNat_ofNat_of_lt' payload
  have wire : message.encode framer =
      wireHeader (message.packet framer).header ++ message.payload :=
    encodeFrame_eq (by omega)
  have length : (message.encode framer).length = kFrameHeaderSize + message.payload.length := by
    rw [wire, List.length_append, wireHeader_length]
  have decoded := @decodeFrame_wire (message.packet framer).header message.payload framer.maxPayload
    (declared.le.trans (by omega)) declared rest
  rw [← wire] at decoded
  rw [length]
  exact congrArg verdict decoded

/-- The encoded messages are read back one by one, up to the last byte. -/
theorem stream_reading {messages : List Message}
    (fits : ∀ message ∈ messages, message.payload.length ≤ min framer.maxPayload (2 ^ 32 - 1)) :
    Reading (decoder framer) (messages.flatMap (encode framer)) (messages.map (packet framer))
      (messages.flatMap (encode framer)).length .drained := by
  induction messages with
  | nil => exact ⟨.refl _, .drained⟩
  | cons message messages ih =>
      have rest := ih fun other member => fits other (List.mem_cons_of_mem _ member)
      have one := decode_encode (fits message List.mem_cons_self) (messages.flatMap (encode framer))
      rw [List.flatMap_cons, List.map_cons, List.length_append]
      refine .prepend (.step one (.refl _)) ?_
      rw [Nat.add_zero, List.drop_left]
      exact rest

end Message

/-- Whatever the payloads, the cuts and the budgets, the reader of an encoded
stream obtains the messages in order and ends with nothing left. -/
theorem framing_round_trip (framer : PacketFramer) (messages : List Message)
    (fits : ∀ message ∈ messages, message.payload.length ≤ min framer.maxPayload (2 ^ 32 - 1))
    (chunks : List (List UInt8)) (split : chunks.flatten = messages.flatMap (Message.encode framer))
    (budgets : Nat → Budget) (fuel : Nat) (enough : chunks.flatten.length < fuel) :
    ∃ reader, Reader.feed framer budgets fuel chunks {} = some reader ∧
      reader.packets = messages.map (Message.packet framer) ∧ reader.unread = [] ∧
      (∀ status ∈ reader.statuses, status ≠ .kInvalid ∧ status ≠ .kOverLimit) ∧
      (chunks ≠ [] → reader.statuses.getLast? = some .kComplete) := by
  have whole := Message.stream_reading fits
  by_cases none : chunks = []
  · subst none
    have nothing : Reading (decoder framer) (messages.flatMap (Message.encode framer)) [] 0 .drained := by
      rw [← split]
      exact ⟨.refl _, .drained⟩
    exact ⟨{}, rfl, (nothing.unique whole).1, rfl, by simp, fun some => absurd rfl some⟩
  · obtain ⟨reader, fed, ⟨earlier, status, statuses, accepted, reading⟩, unread⟩ :=
      @Reader.feed_ended framer budgets fuel chunks none [] {} (Reader.initial_reads framer)
        (by simpa using enough)
    rw [List.nil_append, split] at reading unread
    obtain ⟨packets, consumed, ended⟩ := reading.unique whole
    have complete : status = .kComplete := @ending_injective status .kComplete ended
    subst complete
    have going : reader.rejected = false := by simp [Reader.rejected, statuses, PacketDecodeState.rejects]
    refine ⟨reader, fed, packets, ?_, ?_, fun _ => ?_⟩
    · rw [unread going, consumed, List.drop_length]
    · intro state member
      have calm : state.rejects = false := by
        rw [statuses] at member
        rcases List.mem_append.mp member with old | new
        · exact accepted state old
        · rw [List.mem_singleton.mp new]
          rfl
      constructor <;> intro rejected <;> rw [rejected] at calm <;> cases calm
    · rw [statuses, List.getLast?_concat]

/-- Two messages, the second with the magic number in its payload, cut in the
middle of each. -/
theorem framing_round_trip_two_messages :
    let messages : List Message := [⟨1, 0, 1, [7]⟩, ⟨2, 0, 2, [0x50, 0x46]⟩]
    let stream := messages.flatMap (Message.encode {})
    ∃ reader, Reader.feed {} (fun _ => { maxPackets := 1, room := Nat.le_refl 1 }) 36
        [stream.take 5, stream.drop 5] {} = some reader ∧
      reader.packets = messages.map (Message.packet {}) ∧ reader.unread = [] := by
  obtain ⟨reader, fed, packets, unread, _⟩ := framing_round_trip {}
    [⟨1, 0, 1, [7]⟩, ⟨2, 0, 2, [0x50, 0x46]⟩] (by decide)
    [(([⟨1, 0, 1, [7]⟩, ⟨2, 0, 2, [0x50, 0x46]⟩] : List Message).flatMap (Message.encode {})).take 5,
      (([⟨1, 0, 1, [7]⟩, ⟨2, 0, 2, [0x50, 0x46]⟩] : List Message).flatMap (Message.encode {})).drop 5]
    (by simp) (fun _ => { maxPackets := 1, room := Nat.le_refl 1 }) 36 (by decide)
  exact ⟨reader, fed, packets, unread⟩

end MiniTrantor.Net.Framing
