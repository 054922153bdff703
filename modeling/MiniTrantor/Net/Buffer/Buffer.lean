import MiniTrantor.Reachability

/-!
# Buffer

The bytes of a connection with its two indices. Indices and lengths are of `size_t`, so sums
and differences are taken modulo `2 ^ 64`. An access outside of the storage has no meaning.
Of `readFd` this is the branch with `readv`.
-/

set_option autoImplicit false

namespace MiniTrantor.Net.ByteBuffer

abbrev Byte := UInt8

/-- The value of a `size_t`. -/
def wrap (value : Nat) : Nat := value % 2 ^ 64

def kCheapPrepend : Nat := 8

def kInitialSize : Nat := 1024

/-- `sizeof(extraBuffer)` -/
def extraSize : Nat := 65536

/-- `std::vector::resize` throws above the largest size of a vector, which is a difference of
pointers. -/
structure Vector where
  maxSize : Nat
  fits : kCheapPrepend + kInitialSize ≤ maxSize
  bounded : maxSize < 2 ^ 63

/-- The largest size is that of a difference of pointers. -/
def largest : Vector where
  maxSize := 2 ^ 63 - 1
  fits := by decide
  bounded := by decide

structure Buffer where
  buffer : List Byte := List.replicate (kCheapPrepend + kInitialSize) 0
  readerIndex : Nat := kCheapPrepend
  writerIndex : Nat := kCheapPrepend
  deriving DecidableEq, Repr

inductive Output where
  | void
  | string (bytes : List Byte)
  | count (value : Int)
  deriving DecidableEq, Repr

/-- How a call ends. -/
inductive Outcome where
  | returned (buffer : Buffer) (output : Output)
  | threw (buffer : Buffer)
  | undefined
  deriving DecidableEq, Repr

namespace Outcome

def fold {Result : Type} (returned : Buffer → Output → Result) (threw : Buffer → Result)
    (undefined : Result) (outcome : Outcome) : Result :=
  match outcome with
  | .returned buffer output => returned buffer output
  | .threw buffer => threw buffer
  | .undefined => undefined

/-- An exception skips what follows. -/
def andThen (outcome : Outcome) (next : Buffer → Outcome) : Outcome :=
  outcome.fold (fun buffer _ => next buffer) .threw .undefined

/-- The buffer that is left, with or without an exception. -/
def left (outcome : Outcome) : Option Buffer :=
  outcome.fold (fun buffer _ => some buffer) some none

@[simp] theorem andThen_returned (buffer : Buffer) (output : Output) (next : Buffer → Outcome) :
    (returned buffer output).andThen next = next buffer := rfl

@[simp] theorem andThen_threw (buffer : Buffer) (next : Buffer → Outcome) :
    (threw buffer).andThen next = .threw buffer := rfl

@[simp] theorem left_returned (buffer : Buffer) (output : Output) :
    (returned buffer output).left = some buffer := rfl

@[simp] theorem left_threw (buffer : Buffer) : (threw buffer).left = some buffer := rfl

end Outcome

/-- What `readv` returns and, where it is no error, the bytes in the order of the vector. -/
inductive ReadResult where
  | error
  | received (bytes : List Byte)
  deriving DecidableEq, Repr

/-- What is done with a buffer. A caller of `hasWritten` wrote the bytes at `beginWrite()`. -/
inductive Operation where
  | append (data : List Byte)
  | retrieve (len : Nat)
  | retrieveAsString (len : Nat)
  | retrieveAll
  | retrieveAllAsString
  | ensureWritableBytes (len : Nat)
  | hasWritten (data : List Byte)
  | readFd (result : ReadResult)
  deriving DecidableEq, Repr

namespace Buffer

variable (vector : Vector) (buffer : Buffer)

def readableBytes : Nat := wrap (buffer.writerIndex + 2 ^ 64 - buffer.readerIndex)

def writableBytes : Nat := wrap (buffer.buffer.length + 2 ^ 64 - buffer.writerIndex)

def prependableBytes : Nat := buffer.readerIndex

/-- The bytes from `peek()` up to `beginWrite()`. -/
def contents : List Byte := (buffer.buffer.take buffer.writerIndex).drop buffer.readerIndex

def retrieveAll : Buffer :=
  { buffer with readerIndex := kCheapPrepend, writerIndex := kCheapPrepend }

def retrieve (len : Nat) : Buffer :=
  if len < buffer.readableBytes then
    { buffer with readerIndex := wrap (buffer.readerIndex + len) }
  else buffer.retrieveAll

def retrieveAsString (len : Nat) : Outcome :=
  let len := min len buffer.readableBytes
  if buffer.readerIndex + len ≤ buffer.buffer.length then
    .returned (buffer.retrieve len) (.string ((buffer.buffer.drop buffer.readerIndex).take len))
  else .undefined

def retrieveAllAsString : Outcome := buffer.retrieveAsString buffer.readableBytes

/-- `buffer_.resize(size)` -/
def resize (size : Nat) : Outcome :=
  if vector.maxSize < size then .threw buffer
  else
    .returned { buffer with
      buffer := buffer.buffer.take size ++ List.replicate (size - buffer.buffer.length) 0 } .void

/-- `std::copy` to the front, which needs the readable bytes to lie behind it. -/
def compact : Outcome :=
  let readable := buffer.readableBytes
  if kCheapPrepend ≤ buffer.readerIndex ∧ buffer.readerIndex ≤ buffer.writerIndex ∧
      buffer.writerIndex ≤ buffer.buffer.length then
    .returned
      { buffer := buffer.buffer.take kCheapPrepend ++ buffer.contents ++
          buffer.buffer.drop (kCheapPrepend + buffer.contents.length)
        readerIndex := kCheapPrepend
        writerIndex := wrap (kCheapPrepend + readable) } .void
  else .undefined

def makeSpace (len : Nat) : Outcome :=
  if wrap (wrap (buffer.writableBytes + buffer.prependableBytes) + 2 ^ 64 - kCheapPrepend) < len
  then buffer.resize vector (wrap (buffer.writerIndex + len))
  else buffer.compact

def ensureWritableBytes (len : Nat) : Outcome :=
  if buffer.writableBytes < len then buffer.makeSpace vector len else .returned buffer .void

/-- Bytes are copied to `beginWrite()`. -/
def write (data : List Byte) : Option Buffer :=
  if buffer.writerIndex + data.length ≤ buffer.buffer.length then
    some { buffer with
      buffer := buffer.buffer.take buffer.writerIndex ++ data ++
        buffer.buffer.drop (buffer.writerIndex + data.length) }
  else none

def hasWritten (len : Nat) : Buffer :=
  { buffer with writerIndex := wrap (buffer.writerIndex + len) }

/-- The bytes are written and counted. -/
def advance (data : List Byte) (output : Output) : Outcome :=
  (buffer.write data).elim .undefined fun buffer =>
    .returned (buffer.hasWritten data.length) output

def append (data : List Byte) : Outcome :=
  (buffer.ensureWritableBytes vector data.length).andThen fun buffer => buffer.advance data .void

/-- The bytes that did not fit are in the second segment. -/
def readFd : ReadResult → Outcome
  | .error => .returned buffer (.count (-1))
  | .received bytes =>
      let writable := buffer.writableBytes
      let count := Output.count bytes.length
      if bytes.length ≤ writable then buffer.advance bytes count
      else
        (buffer.write (bytes.take writable)).elim .undefined fun filled =>
          ({ filled with writerIndex := filled.buffer.length }.append vector
            (bytes.drop writable)).andThen fun buffer => .returned buffer count

def perform : Operation → Outcome
  | .append data => buffer.append vector data
  | .retrieve len => .returned (buffer.retrieve len) .void
  | .retrieveAsString len => buffer.retrieveAsString len
  | .retrieveAll => .returned buffer.retrieveAll .void
  | .retrieveAllAsString => buffer.retrieveAllAsString
  | .ensureWritableBytes len => buffer.ensureWritableBytes vector len
  | .hasWritten data => buffer.advance data .void
  | .readFd result => buffer.readFd vector result

/-- No more bytes are written than fit, and `readv` fills the segments that it is given. -/
def Permitted : Operation → Prop
  | .append data => buffer.writerIndex + data.length ≤ 2 ^ 64 - 1
  | .ensureWritableBytes len => buffer.writerIndex + len ≤ 2 ^ 64 - 1
  | .hasWritten data => data.length ≤ buffer.writableBytes
  | .readFd (.received bytes) =>
      bytes.length ≤ buffer.writableBytes + if buffer.writableBytes < extraSize then extraSize else 0
  | _ => True

instance (operation : Operation) : Decidable (buffer.Permitted operation) :=
  match operation with
  | .append _ | .ensureWritableBytes _ | .hasWritten _ | .readFd (.received _) =>
      inferInstanceAs (Decidable (_ ≤ _))
  | .retrieve _ | .retrieveAsString _ | .retrieveAll | .retrieveAllAsString | .readFd .error =>
      inferInstanceAs (Decidable True)

/-- A program goes on after an exception. -/
def step (operation : Operation) : Option Buffer := (buffer.perform vector operation).left

end Buffer

end MiniTrantor.Net.ByteBuffer
