import MiniTrantor.Net.Buffer.Queue

/-!
# Growth of a buffer

Space is made for any length whose sum with the writer index is a size. A sum that wraps is
less than the writer index, and the storage shrinks to it.
-/

set_option autoImplicit false

namespace MiniTrantor.Net.ByteBuffer

variable {vector : Vector} {buffer : Buffer} {len : Nat}

/-- There is room for `len` bytes behind the same bytes, or an exception and no change. -/
def Grown (buffer : Buffer) (len : Nat) (outcome : Outcome) : Prop :=
  outcome = .threw buffer ∨ ∃ next, outcome = .returned next .void ∧
    len ≤ next.writableBytes ∧ next.readerIndex ≤ next.writerIndex ∧
    next.writerIndex ≤ next.buffer.length ∧ next.contents = buffer.contents

theorem Bounds.reach (reachable : Reach (Buffer.step vector) Buffer.Permitted {} buffer) :
    Bounds vector buffer := by
  refine reachable.invariant .start fun state next operation bounds permitted ran => ?_
  unfold Buffer.step at ran
  cases Operation.done bounds permitted with
  | returned after outcome kept =>
      rw [outcome] at ran
      cases ran
      exact kept
  | threw after outcome kept =>
      rw [outcome] at ran
      cases ran
      exact kept

/-- The free space is a sum that does not wrap. -/
theorem Bounds.free (bounds : Bounds vector buffer) :
    buffer.writableBytes + buffer.prependableBytes < 2 ^ 64 ∧
      kCheapPrepend ≤ buffer.writableBytes + buffer.prependableBytes := by
  have prepended := bounds.prepended
  have ordered := bounds.ordered
  have inside := bounds.inside
  have small := bounds.small
  rw [bounds.writable, Buffer.prependableBytes]
  omega

/-- The storage ends before the writer index when the sum wraps. -/
theorem Buffer.ensureWritableBytes_wrapped (bounds : Bounds vector buffer) (size : len < 2 ^ 64)
    (wraps : 2 ^ 64 ≤ buffer.writerIndex + len) :
    ∃ next, buffer.ensureWritableBytes vector len = .returned next .void ∧
      next.buffer.length < next.writerIndex := by
  have inside := bounds.inside
  have ordered := bounds.ordered
  have limited := bounds.limited
  have small := bounds.small
  have prepended := bounds.prepended
  have sum : wrap (buffer.writerIndex + len) = buffer.writerIndex + len - 2 ^ 64 := by
    unfold wrap
    omega
  have free : wrap (wrap (buffer.writableBytes + buffer.prependableBytes) + 2 ^ 64 -
      kCheapPrepend) < len := by
    rw [wrap_of_lt bounds.free.1, wrap_sub bounds.free.2 bounds.free.1, bounds.writable,
      Buffer.prependableBytes]
    omega
  rw [Buffer.ensureWritableBytes, if_pos (by rw [bounds.writable]; omega), Buffer.makeSpace,
    if_pos free, Buffer.resize, sum, if_neg (by omega)]
  refine ⟨_, rfl, ?_⟩
  simp only [List.length_append, List.length_take, List.length_replicate]
  omega

/-- Growing is right for the lengths whose sum with the writer index does not wrap, and for
no others. The free space never wraps. -/
theorem growth_exact (reachable : Reach (Buffer.step vector) Buffer.Permitted {} buffer)
    (size : len < 2 ^ 64) :
    (Grown buffer len (buffer.ensureWritableBytes vector len) ↔
      buffer.writerIndex + len < 2 ^ 64) ∧
    buffer.writableBytes + buffer.prependableBytes < 2 ^ 64 ∧
    kCheapPrepend ≤ buffer.writableBytes + buffer.prependableBytes := by
  have bounds := Bounds.reach reachable
  refine ⟨⟨fun grown => ?_, fun small => ?_⟩, bounds.free⟩
  · by_contra wraps
    obtain ⟨next, returned, short⟩ :=
      Buffer.ensureWritableBytes_wrapped bounds size (not_lt.mp wraps)
    obtain threw | ⟨other, same, _, _, inside, _⟩ := grown
    · rw [returned] at threw
      cases threw
    · rw [returned] at same
      cases same
      exact absurd inside (not_le.mpr short)
  · obtain threw | ⟨next, returned, kept, contents, room⟩ :=
      Buffer.ensureWritableBytes_spec bounds small
    · exact .inl threw
    · exact .inr ⟨next, returned, room, kept.ordered, kept.inside, contents⟩

theorem growth_exact_fresh :
    Grown {} 4096 (Buffer.ensureWritableBytes largest {} 4096) :=
  (growth_exact .start (by decide)).1.mpr (by decide)

/-- Asking a new buffer for the largest size leaves a storage of seven bytes. -/
theorem growth_wraps : ¬ ∀ buffer, Reach (Buffer.step largest) Buffer.Permitted {} buffer →
    ∀ len, len < 2 ^ 64 → Grown buffer len (buffer.ensureWritableBytes largest len) := by
  intro always
  obtain ⟨next, returned, short⟩ := @Buffer.ensureWritableBytes_wrapped largest {} (2 ^ 64 - 1)
    .start (by decide) (by decide)
  obtain threw | ⟨other, same, _, _, inside, _⟩ := always {} .start (2 ^ 64 - 1) (by decide)
  · rw [returned] at threw
    cases threw
  · rw [returned] at same
    cases same
    exact absurd inside (not_le.mpr short)

end MiniTrantor.Net.ByteBuffer
