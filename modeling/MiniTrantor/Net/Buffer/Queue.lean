import MiniTrantor.Net.Buffer.Buffer

/-!
# A queue of bytes

The readable bytes of a buffer are those of a queue that is driven by the same operations.
-/

set_option autoImplicit false

namespace MiniTrantor.Net.ByteBuffer

variable {vector : Vector} {buffer next : Buffer} {len : Nat} {data : List Byte}

/-- The indices are in order and within the storage. -/
structure Bounds (vector : Vector) (buffer : Buffer) : Prop where
  prepended : kCheapPrepend ≤ buffer.readerIndex
  ordered : buffer.readerIndex ≤ buffer.writerIndex
  inside : buffer.writerIndex ≤ buffer.buffer.length
  limited : buffer.buffer.length ≤ vector.maxSize

theorem wrap_of_lt {value : Nat} (small : value < 2 ^ 64) : wrap value = value := by
  unfold wrap
  exact Nat.mod_eq_of_lt small

/-- A difference of sizes that is not negative. -/
theorem wrap_sub {large small : Nat} (ordered : small ≤ large) (bounded : large < 2 ^ 64) :
    wrap (large + 2 ^ 64 - small) = large - small := by
  unfold wrap
  omega

namespace Bounds

theorem start : Bounds vector {} where
  prepended := le_rfl
  ordered := le_rfl
  inside := by
    rw [List.length_replicate]
    exact Nat.le_add_right _ _
  limited := by
    rw [List.length_replicate]
    exact vector.fits

theorem small (bounds : Bounds vector buffer) : buffer.buffer.length < 2 ^ 63 :=
  bounds.limited.trans_lt vector.bounded

theorem readable (bounds : Bounds vector buffer) :
    buffer.readableBytes = buffer.writerIndex - buffer.readerIndex := by
  have inside := bounds.inside
  have small := bounds.small
  exact wrap_sub bounds.ordered (by omega)

theorem writable (bounds : Bounds vector buffer) :
    buffer.writableBytes = buffer.buffer.length - buffer.writerIndex := by
  have small := bounds.small
  exact wrap_sub bounds.inside (by omega)

theorem contents_length (bounds : Bounds vector buffer) :
    buffer.contents.length = buffer.writerIndex - buffer.readerIndex := by
  have inside := bounds.inside
  simp [Buffer.contents, inside]

theorem retrieveAll (bounds : Bounds vector buffer) : Bounds vector buffer.retrieveAll where
  prepended := le_rfl
  ordered := le_rfl
  inside := (bounds.prepended.trans bounds.ordered).trans bounds.inside
  limited := bounds.limited


end Bounds

namespace Buffer

theorem contents_retrieveAll : buffer.retrieveAll.contents = [] := by
  simp [contents, retrieveAll]

/-- Taking no less than what is readable empties the buffer. -/
theorem retrieve_spec (bounds : Bounds vector buffer) (len : Nat) :
    Bounds vector (buffer.retrieve len) ∧
      (buffer.retrieve len).contents = buffer.contents.drop len := by
  have small := bounds.small
  have inside := bounds.inside
  unfold retrieve
  rw [bounds.readable]
  split
  · rename_i less
    rw [wrap_of_lt (by omega)]
    refine ⟨⟨bounds.prepended.trans (Nat.le_add_right _ _), ?_, inside, bounds.limited⟩, ?_⟩
    · simp only
      omega
    · rw [contents, contents, List.drop_drop]
  · rename_i all
    refine ⟨bounds.retrieveAll, ?_⟩
    rw [contents_retrieveAll, List.drop_eq_nil_of_le]
    rw [bounds.contents_length]
    omega

/-- The string is taken from the front. -/
theorem retrieveAsString_spec (bounds : Bounds vector buffer) (len : Nat) :
    buffer.retrieveAsString len =
      .returned (buffer.retrieve len) (.string (buffer.contents.take len)) := by
  have ordered := bounds.ordered
  have inside := bounds.inside
  unfold retrieveAsString
  rw [bounds.readable]
  simp only
  rw [if_pos (by omega)]
  have same : buffer.retrieve (min len (buffer.writerIndex - buffer.readerIndex)) =
      buffer.retrieve len := by
    unfold retrieve
    rw [bounds.readable]
    by_cases less : len < buffer.writerIndex - buffer.readerIndex
    · rw [min_eq_left less.le]
    · rw [min_eq_right (not_lt.mp less), if_neg (lt_irrefl _), if_neg less]
  have string : (buffer.buffer.drop buffer.readerIndex).take
      (min len (buffer.writerIndex - buffer.readerIndex)) = buffer.contents.take len := by
    rw [contents, ← List.take_take, List.drop_take]
  rw [same, string]

/-- What making room for `len` bytes leads to. -/
def Roomy (vector : Vector) (buffer : Buffer) (len : Nat) (outcome : Outcome) : Prop :=
  outcome = .threw buffer ∨ ∃ next, outcome = .returned next .void ∧ Bounds vector next ∧
    next.contents = buffer.contents ∧ len ≤ next.writableBytes

theorem resize_spec (bounds : Bounds vector buffer) (len : Nat) :
    Roomy vector buffer len (buffer.resize vector (buffer.writerIndex + len)) := by
  unfold resize
  split
  · exact .inl rfl
  · rename_i fits
    have inside := bounds.inside
    have length : (buffer.buffer.take (buffer.writerIndex + len) ++
        List.replicate (buffer.writerIndex + len - buffer.buffer.length) (0 : Byte)).length =
        buffer.writerIndex + len := by
      rw [List.length_append, List.length_take, List.length_replicate]
      omega
    have grown : Bounds vector { buffer with
        buffer := buffer.buffer.take (buffer.writerIndex + len) ++
          List.replicate (buffer.writerIndex + len - buffer.buffer.length) 0 } :=
      ⟨bounds.prepended, bounds.ordered, by rw [length]; exact Nat.le_add_right _ _,
        by rw [length]; exact not_lt.mp fits⟩
    refine .inr ⟨_, rfl, grown, ?_, ?_⟩
    · rw [contents, contents, List.take_append_of_le_length, List.take_take, min_eq_left]
      · exact Nat.le_add_right _ _
      · simp only [List.length_take]
        omega
    · rw [grown.writable]
      simp only [length]
      omega

theorem compact_spec (bounds : Bounds vector buffer) :
    ∃ next, buffer.compact = .returned next .void ∧ Bounds vector next ∧
      next.contents = buffer.contents ∧
      next.writableBytes = buffer.buffer.length - kCheapPrepend - buffer.contents.length := by
  have prepended := bounds.prepended
  have ordered := bounds.ordered
  have inside := bounds.inside
  have small := bounds.small
  have readable := bounds.contents_length
  have front : (buffer.buffer.take kCheapPrepend ++ buffer.contents).length =
      kCheapPrepend + buffer.contents.length := by
    rw [List.length_append, List.length_take, min_eq_left (by omega)]
  have length : (buffer.buffer.take kCheapPrepend ++ buffer.contents ++
      buffer.buffer.drop (kCheapPrepend + buffer.contents.length)).length =
      buffer.buffer.length := by
    rw [List.length_append, front, List.length_drop]
    omega
  have index : wrap (kCheapPrepend + buffer.readableBytes) =
      kCheapPrepend + buffer.contents.length := by
    rw [bounds.readable, ← readable]
    exact wrap_of_lt (by omega)
  have compacted : Bounds vector
      { buffer := buffer.buffer.take kCheapPrepend ++ buffer.contents ++
          buffer.buffer.drop (kCheapPrepend + buffer.contents.length)
        readerIndex := kCheapPrepend
        writerIndex := kCheapPrepend + buffer.contents.length } :=
    ⟨le_rfl, Nat.le_add_right _ _, by simp only [length]; omega,
      by simp only [length]; exact bounds.limited⟩
  refine ⟨_, ?_, compacted, ?_, ?_⟩
  · simp only [compact]
    rw [if_pos ⟨prepended, ordered, inside⟩, index]
  · rw [contents]
    simp only
    rw [List.take_append_of_le_length (by rw [front]), List.take_of_length_le (by rw [front]),
      List.drop_left' (by rw [List.length_take]; omega)]
  · rw [compacted.writable]
    simp only [length]
    omega

/-- Without a sum that wraps, there is room afterwards, or nothing happened. -/
theorem makeSpace_spec (bounds : Bounds vector buffer) {len : Nat}
    (small : buffer.writerIndex + len < 2 ^ 64) :
    Roomy vector buffer len (buffer.makeSpace vector len) := by
  have ordered := bounds.ordered
  have inside := bounds.inside
  have short := bounds.small
  have prepended := bounds.prepended
  have free : wrap (wrap (buffer.writableBytes + buffer.prependableBytes) + 2 ^ 64 -
      kCheapPrepend) = buffer.writableBytes + buffer.prependableBytes - kCheapPrepend := by
    have sum : buffer.buffer.length - buffer.writerIndex + buffer.readerIndex < 2 ^ 64 := by omega
    rw [bounds.writable, prependableBytes, wrap_of_lt sum]
    exact wrap_sub (by omega) sum
  unfold makeSpace
  rw [free]
  split
  · rw [wrap_of_lt small]
    exact resize_spec bounds len
  · rename_i enough
    obtain ⟨next, compacted, kept, same, room⟩ := compact_spec bounds
    refine .inr ⟨next, compacted, kept, same, ?_⟩
    rw [room, bounds.contents_length]
    rw [bounds.writable, prependableBytes] at enough
    omega

theorem ensureWritableBytes_spec (bounds : Bounds vector buffer) {len : Nat}
    (small : buffer.writerIndex + len < 2 ^ 64) :
    Roomy vector buffer len (buffer.ensureWritableBytes vector len) := by
  unfold ensureWritableBytes
  split
  · exact makeSpace_spec bounds small
  · rename_i enough
    exact .inr ⟨buffer, rfl, bounds, rfl, not_lt.mp enough⟩

/-- Bytes that fit are added at the back once they are counted. -/
theorem write_spec (bounds : Bounds vector buffer) {data : List Byte}
    (fits : data.length ≤ buffer.writableBytes) :
    ∃ written, buffer.write data = some written ∧
      written.buffer.length = buffer.buffer.length ∧ written.writerIndex = buffer.writerIndex ∧
      Bounds vector (written.hasWritten data.length) ∧
      (written.hasWritten data.length).contents = buffer.contents ++ data := by
  have ordered := bounds.ordered
  have inside := bounds.inside
  have small := bounds.small
  rw [bounds.writable] at fits
  have front : (buffer.buffer.take buffer.writerIndex ++ data).length =
      buffer.writerIndex + data.length := by
    rw [List.length_append, List.length_take, min_eq_left inside]
  have length : (buffer.buffer.take buffer.writerIndex ++ data ++
      buffer.buffer.drop (buffer.writerIndex + data.length)).length = buffer.buffer.length := by
    rw [List.length_append, front, List.length_drop]
    omega
  unfold write
  rw [if_pos (by omega)]
  refine ⟨_, rfl, length, rfl, ?_, ?_⟩ <;> simp only [hasWritten] <;> rw [wrap_of_lt (by omega)]
  · exact ⟨bounds.prepended, ordered.trans (Nat.le_add_right _ _), by simp only [length]; omega,
      by simp only [length]; exact bounds.limited⟩
  · rw [contents]
    simp only
    rw [List.take_append_of_le_length (by rw [front]), List.take_of_length_le (by rw [front]),
      List.drop_append_of_le_length]
    · rfl
    · rw [List.length_take]
      omega

theorem advance_spec (bounds : Bounds vector buffer) {data : List Byte}
    (fits : data.length ≤ buffer.writableBytes) (output : Output) :
    ∃ next, buffer.advance data output = .returned next output ∧ Bounds vector next ∧
      next.contents = buffer.contents ++ data := by
  obtain ⟨written, wrote, _, _, kept, appended⟩ := write_spec bounds fits
  exact ⟨_, by rw [advance, wrote, Option.elim_some], kept, appended⟩

theorem append_spec (bounds : Bounds vector buffer) {data : List Byte}
    (small : buffer.writerIndex + data.length < 2 ^ 64) :
    buffer.append vector data = .threw buffer ∨
      ∃ next, buffer.append vector data = .returned next .void ∧ Bounds vector next ∧
        next.contents = buffer.contents ++ data := by
  unfold append
  obtain threw | ⟨middle, roomy, kept, same, room⟩ := ensureWritableBytes_spec bounds small
  · left
    rw [threw, Outcome.andThen_threw]
  · obtain ⟨next, written, bounded, appended⟩ := advance_spec kept room .void
    rw [roomy, Outcome.andThen_returned]
    exact .inr ⟨next, written, bounded, by rw [appended, same]⟩

/-- The bytes of the second segment are appended to a buffer that is full. They are lost if
there is no room for them. -/
theorem readFd_spec (bounds : Bounds vector buffer) {bytes : List Byte}
    (segments : bytes.length ≤ buffer.writableBytes + extraSize) :
    ∃ next, Bounds vector next ∧
      (buffer.readFd vector (.received bytes) = .returned next (.count bytes.length) ∧
        next.contents = buffer.contents ++ bytes ∨
      buffer.readFd vector (.received bytes) = .threw next ∧
        next.contents = buffer.contents ++ bytes.take buffer.writableBytes) := by
  simp only [readFd]
  split
  · rename_i fits
    obtain ⟨next, read, kept, appended⟩ := advance_spec bounds fits (.count bytes.length)
    exact ⟨next, kept, .inl ⟨read, appended⟩⟩
  · rename_i long
    have first : (bytes.take buffer.writableBytes).length = buffer.writableBytes := by
      rw [List.length_take]
      omega
    obtain ⟨filled, wrote, length, index, kept, appended⟩ := write_spec bounds first.le
    have full : { filled with writerIndex := filled.buffer.length } =
        filled.hasWritten (bytes.take buffer.writableBytes).length := by
      have inside := bounds.inside
      have small := bounds.small
      have all : buffer.writerIndex + buffer.writableBytes = filled.buffer.length := by
        rw [bounds.writable, length]
        omega
      rw [hasWritten, first, index, all, wrap_of_lt (by omega)]
    have rest : (bytes.drop buffer.writableBytes).length ≤ extraSize := by
      rw [List.length_drop]
      omega
    have small : (filled.hasWritten (bytes.take buffer.writableBytes).length).writerIndex +
        (bytes.drop buffer.writableBytes).length < 2 ^ 64 := by
      have inside := kept.inside
      have short := kept.small
      unfold extraSize at rest
      omega
    rw [wrote, Option.elim_some, full]
    obtain threw | ⟨next, returned, bounded, whole⟩ := append_spec kept small
    · refine ⟨_, kept, .inr ⟨?_, appended⟩⟩
      rw [threw, Outcome.andThen_threw]
    · refine ⟨next, bounded, .inl ⟨?_, ?_⟩⟩
      · rw [returned, Outcome.andThen_returned]
      · rw [whole, appended, List.append_assoc, List.take_append_drop]

end Buffer

namespace Operation

/-- What a queue of bytes does, and what is returned. -/
def queue (bytes : List Byte) : Operation → List Byte × Output
  | .append data | .hasWritten data => (bytes ++ data, .void)
  | .retrieve len => (bytes.drop len, .void)
  | .retrieveAsString len => (bytes.drop len, .string (bytes.take len))
  | .retrieveAll => ([], .void)
  | .retrieveAllAsString => ([], .string bytes)
  | .ensureWritableBytes _ => (bytes, .void)
  | .readFd .error => (bytes, .count (-1))
  | .readFd (.received data) => (bytes ++ data, .count data.length)

/-- What is left when the storage cannot grow: of what was read, the first segment. -/
def interrupted (writable : Nat) (bytes : List Byte) : Operation → List Byte
  | .readFd (.received data) => bytes ++ data.take writable
  | _ => bytes

/-- What else an operation leaves behind when it returns. -/
def Leaves (before after : Buffer) : Operation → Prop
  | .ensureWritableBytes len => len ≤ after.writableBytes
  | .readFd .error => after = before
  | _ => True

/-- An operation is that of the queue, or throws. Only a read throws with bytes added. -/
inductive Done (vector : Vector) (buffer : Buffer) (operation : Operation) : Prop where
  | returned (next : Buffer)
      (outcome : buffer.perform vector operation =
        .returned next (operation.queue buffer.contents).2)
      (bounds : Bounds vector next)
      (contents : next.contents = (operation.queue buffer.contents).1)
      (leaves : operation.Leaves buffer next)
  | threw (next : Buffer)
      (outcome : buffer.perform vector operation = .threw next)
      (bounds : Bounds vector next)
      (contents : next.contents = operation.interrupted buffer.writableBytes buffer.contents)
      (unchanged : (∀ bytes, operation ≠ .readFd (.received bytes)) → next = buffer)

theorem done (bounds : Bounds vector buffer) {operation : Operation}
    (permitted : buffer.Permitted operation) : operation.Done vector buffer := by
  cases operation with
  | append data =>
      obtain threw | ⟨next, returned, kept, contents⟩ :=
        @Buffer.append_spec _ _ bounds data (by simp only [Buffer.Permitted] at permitted; omega)
      · exact .threw buffer threw bounds rfl fun _ => rfl
      · exact .returned next returned kept contents trivial
  | retrieve len =>
      obtain ⟨kept, contents⟩ := Buffer.retrieve_spec bounds len
      exact .returned _ rfl kept contents trivial
  | retrieveAsString len =>
      obtain ⟨kept, contents⟩ := Buffer.retrieve_spec bounds len
      exact .returned _ (Buffer.retrieveAsString_spec bounds len) kept contents trivial
  | retrieveAll => exact .returned _ rfl bounds.retrieveAll Buffer.contents_retrieveAll trivial
  | retrieveAllAsString =>
      have all : buffer.contents.length = buffer.readableBytes := by
        rw [bounds.contents_length, bounds.readable]
      obtain ⟨kept, contents⟩ := Buffer.retrieve_spec bounds buffer.readableBytes
      refine .returned _ ?_ kept ?_ trivial
      · rw [Buffer.perform, Buffer.retrieveAllAsString, Buffer.retrieveAsString_spec bounds, queue,
          List.take_of_length_le all.le]
      · rw [contents, List.drop_eq_nil_of_le all.le, queue]
  | ensureWritableBytes len =>
      obtain threw | ⟨next, returned, kept, contents, room⟩ :=
        @Buffer.ensureWritableBytes_spec _ _ bounds len
          (by simp only [Buffer.Permitted] at permitted; omega)
      · exact .threw buffer threw bounds rfl fun _ => rfl
      · exact .returned next returned kept contents room
  | hasWritten data =>
      obtain ⟨next, returned, kept, contents⟩ := Buffer.advance_spec bounds permitted .void
      exact .returned next returned kept contents trivial
  | readFd result =>
      cases result with
      | error => exact .returned buffer rfl bounds rfl rfl
      | received bytes =>
          have segments : bytes.length ≤ buffer.writableBytes + extraSize := by
            simp only [Buffer.Permitted] at permitted
            split at permitted <;> omega
          obtain ⟨next, kept, ⟨returned, contents⟩ | ⟨threw, contents⟩⟩ :=
            Buffer.readFd_spec bounds segments
          · exact .returned next returned kept contents trivial
          · exact .threw next threw kept contents fun other => absurd rfl (other bytes)

end Operation

/-- A buffer and the queue that is driven by the same operations. -/
structure Driven where
  buffer : Buffer := {}
  queue : List Byte := []

namespace Driven

variable {state after : Driven}

def step (vector : Vector) (state : Driven) (operation : Operation) : Option Driven :=
  (state.buffer.perform vector operation).fold
    (fun buffer _ => some { buffer, queue := (operation.queue state.queue).1 })
    (fun buffer => some
      { buffer, queue := operation.interrupted state.buffer.writableBytes state.queue })
    none

/-- The buffer holds what is in the queue. -/
structure Holds (vector : Vector) (state : Driven) : Prop where
  bounds : Bounds vector state.buffer
  contents : state.buffer.contents = state.queue

theorem Holds.step (holds : Holds vector state) {operation : Operation}
    (permitted : state.buffer.Permitted operation)
    (ran : state.step vector operation = some after) : Holds vector after := by
  unfold Driven.step at ran
  cases Operation.done holds.bounds permitted with
  | returned next outcome bounds contents =>
      rw [outcome] at ran
      cases ran
      exact ⟨bounds, by rw [contents, holds.contents]⟩
  | threw next outcome bounds contents =>
      rw [outcome] at ran
      cases ran
      exact ⟨bounds, by rw [contents, holds.contents]⟩

theorem Holds.reach
    (reachable : Reach (Driven.step vector) (fun state => state.buffer.Permitted) {} state) :
    Holds vector state :=
  reachable.invariant ⟨.start, by simp [Buffer.contents]⟩
    fun _ _ _ holds permitted ran => holds.step permitted ran

/-- The indices stay in order, the readable bytes are those of the queue, and the next
operation is one of the queue. Making space changes no byte. -/
theorem buffer_refines_queue
    (reachable : Reach (Driven.step vector) (fun state => state.buffer.Permitted) {} state) :
    kCheapPrepend ≤ state.buffer.readerIndex ∧
    state.buffer.readerIndex ≤ state.buffer.writerIndex ∧
    state.buffer.writerIndex ≤ state.buffer.buffer.length ∧
    state.buffer.contents = state.queue ∧
    (∀ operation, state.buffer.Permitted operation → operation.Done vector state.buffer) ∧
    ∀ len, state.buffer.writerIndex + len ≤ 2 ^ 64 - 1 →
      Buffer.Roomy vector state.buffer len (state.buffer.makeSpace vector len) := by
  have holds := Holds.reach reachable
  refine ⟨holds.bounds.prepended, holds.bounds.ordered, holds.bounds.inside, holds.contents,
    fun operation permitted => Operation.done holds.bounds permitted, fun len small => ?_⟩
  exact Buffer.makeSpace_spec holds.bounds (by omega)

/-- The last append makes the storage grow. -/
theorem buffer_refines_queue_grown : ∃ state : Driven,
    run (checked (Driven.step largest) fun state => state.buffer.Permitted) {}
      [.append [1, 2, 3], .retrieve 1, .append (List.replicate 1024 7)] = some state ∧
    kCheapPrepend + kInitialSize < state.buffer.buffer.length ∧
    state.buffer.contents = [2, 3] ++ List.replicate 1024 7 := by
  have final : (run (checked (Driven.step largest) fun state => state.buffer.Permitted) {}
      [.append [1, 2, 3], .retrieve 1, .append (List.replicate 1024 7)]).map
        (fun state => (state.buffer.buffer.length, state.queue)) =
      some (1035, [2, 3] ++ List.replicate 1024 7) := by
    decide +kernel
  obtain ⟨state, ran, same⟩ := Option.map_eq_some_iff.mp final
  obtain ⟨grown, queue⟩ := Prod.mk.inj same
  refine ⟨state, ran, by rw [grown]; decide, ?_⟩
  rw [← queue]
  exact (buffer_refines_queue (Reach.start.checked ran)).2.2.2.1

end Driven

end MiniTrantor.Net.ByteBuffer
