import MiniTrantor.Net.Connection.State

/-!
# Buffer

The output buffer of a connection, with where its bytes are in memory. A block
of memory has a number; a vector that grows beyond its capacity moves to a new
block. Only the readable bytes are kept, whatever stands before and after them.
-/

set_option autoImplicit false

namespace MiniTrantor.Net

/-- Memory that bytes are written from: the caller's own, or a block of a buffer. -/
inductive Address where
  | caller (pointer : Nat)
  | storage (block offset : Nat)
  deriving DecidableEq, Repr

namespace Buffer

def kCheapPrepend : Nat := 8
def kInitialSize : Nat := 1024

end Buffer

structure Buffer where
  block : Nat := 0
  size : Nat := Buffer.kCheapPrepend + Buffer.kInitialSize
  capacity : Nat := Buffer.kCheapPrepend + Buffer.kInitialSize
  readerIndex : Nat := Buffer.kCheapPrepend
  readable : Bytes := []
  prepend : Buffer.kCheapPrepend ≤ readerIndex := by exact Nat.le_refl _
  fits : readerIndex + readable.length ≤ size := by decide
  allocated : size ≤ capacity := by exact Nat.le_refl _
  deriving DecidableEq

namespace Buffer

def writerIndex (buffer : Buffer) : Nat := buffer.readerIndex + buffer.readable.length

def readableBytes (buffer : Buffer) : Nat := buffer.readable.length

def writableBytes (buffer : Buffer) : Nat := buffer.size - buffer.writerIndex

def prependableBytes (buffer : Buffer) : Nat := buffer.readerIndex

def peek (buffer : Buffer) : Address := .storage buffer.block buffer.readerIndex

def retrieveAll (buffer : Buffer) : Buffer :=
  { buffer with
    readerIndex := kCheapPrepend
    readable := []
    prepend := Nat.le_refl _
    fits := Nat.le_trans (Nat.le_add_right_of_le buffer.prepend) buffer.fits }

theorem retrieve_fits {buffer : Buffer} {len : Nat} (less : len < buffer.readableBytes) :
    buffer.readerIndex + len + (buffer.readable.drop len).length ≤ buffer.size := by
  have fits := buffer.fits
  unfold readableBytes at less
  rw [List.length_drop]
  omega

def retrieve (len : Nat) (buffer : Buffer) : Buffer :=
  if less : len < buffer.readableBytes then
    { buffer with
      readerIndex := buffer.readerIndex + len
      readable := buffer.readable.drop len
      prepend := Nat.le_add_right_of_le buffer.prepend
      fits := retrieve_fits less }
  else buffer.retrieveAll

/-- `resize` of the vector. One that does not fit its block is moved to a larger one. -/
def resize (size : Nat) (buffer : Buffer) (larger : buffer.writerIndex ≤ size) : Buffer :=
  if within : size ≤ buffer.capacity then
    { buffer with size, fits := larger, allocated := within }
  else
    { buffer with
      block := buffer.block + 1
      size
      capacity := max size (2 * buffer.size)
      fits := larger
      allocated := Nat.le_max_left .. }

/-- The readable bytes are moved to the front. -/
def compact (buffer : Buffer) : Buffer :=
  { buffer with
    readerIndex := kCheapPrepend
    prepend := Nat.le_refl _
    fits := Nat.le_trans (Nat.add_le_add_right buffer.prepend _) buffer.fits }

def makeSpace (len : Nat) (buffer : Buffer) : Buffer :=
  if buffer.writableBytes + buffer.prependableBytes - kCheapPrepend < len then
    buffer.resize (buffer.writerIndex + len) (Nat.le_add_right ..)
  else buffer.compact

def ensureWritableBytes (len : Nat) (buffer : Buffer) : Buffer :=
  if buffer.writableBytes < len then buffer.makeSpace len else buffer

@[simp] theorem resize_readable (size : Nat) (buffer : Buffer) (larger : buffer.writerIndex ≤ size) :
    (buffer.resize size larger).readable = buffer.readable := by
  unfold resize
  split <;> rfl

theorem resize_writerIndex (size : Nat) (buffer : Buffer) (larger : buffer.writerIndex ≤ size) :
    (buffer.resize size larger).writerIndex = buffer.writerIndex ∧
      (buffer.resize size larger).size = size := by
  unfold resize
  split <;> exact ⟨rfl, rfl⟩

@[simp] theorem ensureWritableBytes_readable (len : Nat) (buffer : Buffer) :
    (buffer.ensureWritableBytes len).readable = buffer.readable := by
  unfold ensureWritableBytes makeSpace
  split
  · split
    · exact resize_readable ..
    · rfl
  · rfl

/-- There is room for what is to be appended. -/
theorem ensureWritableBytes_room (len : Nat) (buffer : Buffer) :
    (buffer.ensureWritableBytes len).writerIndex + len ≤ (buffer.ensureWritableBytes len).size := by
  have fits := buffer.fits
  have prepend := buffer.prepend
  unfold ensureWritableBytes makeSpace
  split
  · split
    · obtain ⟨index, size⟩ := resize_writerIndex (buffer.writerIndex + len) buffer
        (Nat.le_add_right ..)
      rw [index, size]
    case isFalse room =>
      simp only [writerIndex, writableBytes, prependableBytes, compact] at room ⊢
      omega
  case isFalse room =>
    simp only [writerIndex, writableBytes] at room ⊢
    omega

theorem append_fits (data : Bytes) (buffer : Buffer) :
    (buffer.ensureWritableBytes data.length).readerIndex +
        ((buffer.ensureWritableBytes data.length).readable ++ data).length ≤
      (buffer.ensureWritableBytes data.length).size := by
  have room := buffer.ensureWritableBytes_room data.length
  rw [List.length_append]
  simpa only [writerIndex, Nat.add_assoc] using room

def append (data : Bytes) (buffer : Buffer) : Buffer :=
  let buffer' := buffer.ensureWritableBytes data.length
  { buffer' with readable := buffer'.readable ++ data, fits := append_fits data buffer }

@[simp] theorem append_readable (data : Bytes) (buffer : Buffer) :
    (buffer.append data).readable = buffer.readable ++ data := by
  simp [append]

/-- Appending leaves the readable bytes where they are: they fit in behind them, or
the vector grows within its block. -/
def stays (len : Nat) (buffer : Buffer) : Bool :=
  decide (len ≤ buffer.writableBytes) ||
    decide (buffer.writableBytes + buffer.prependableBytes - kCheapPrepend < len) &&
      decide (buffer.writerIndex + len ≤ buffer.capacity)

/-- Whether an append moves the bytes is decided by what was there before. -/
theorem append_peek_iff (data : Bytes) (buffer : Buffer) :
    (buffer.append data).peek = buffer.peek ↔ buffer.stays data.length = true := by
  have prepend := buffer.prepend
  simp only [append, peek, stays, ensureWritableBytes, makeSpace, resize, compact,
    Bool.or_eq_true, Bool.and_eq_true, decide_eq_true_eq, Address.storage.injEq]
  split
  case isFalse room => simp only [true_and, true_iff]; exact .inl (by omega)
  case isTrue full =>
    split
    case isTrue none =>
      split
      case isTrue within => simp only [true_and, true_iff]; exact .inr ⟨none, within⟩
      case isFalse beyond =>
        simp only [Nat.succ_ne_self, false_and, false_iff, not_or, not_and]
        exact ⟨by omega, fun _ => beyond⟩
    case isFalse room =>
      simp only [true_and, prependableBytes] at room ⊢
      constructor
      · intro same
        omega
      · rintro (fits | ⟨none, _⟩) <;> omega

@[simp] theorem retrieve_readable (len : Nat) (buffer : Buffer) :
    (buffer.retrieve len).readable = buffer.readable.drop len := by
  unfold retrieve
  split
  · rfl
  case isFalse all =>
    simp only [readableBytes, Nat.not_lt] at all
    exact (List.drop_eq_nil_of_le all).symm

end Buffer

end MiniTrantor.Net
