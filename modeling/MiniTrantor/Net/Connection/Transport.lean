import MiniTrantor.Net.Connection.Loop

/-!
# ConnectionTransport, built with `MINI_ENABLE_TLS`
-/

set_option autoImplicit false

namespace MiniTrantor.Net

/-- `EAGAIN`, which is also `EWOULDBLOCK`. -/
def sockets.isWouldBlock (error : Nat) : Bool := error == 11

namespace ConnectionTransport

inductive Status where
  | kOk
  | kWouldBlock
  | kPeerClosed
  | kError
  deriving DecidableEq, Repr

/-- `ReadResult` and `WriteResult`. -/
structure Result where
  status : Status := .kWouldBlock
  bytes : Nat := 0
  savedErrno : Nat := 0
  deriving DecidableEq, Repr

structure HandshakeResult where
  completed : Bool := false
  failed : Bool := false
  savedErrno : Nat := 0
  deriving DecidableEq, Repr

variable (world : World)

def handshakePending (conn : Conn) : Bool :=
  conn.transport.ssl && conn.transport.tlsState == .kTlsHandshaking

def enableTls (conn : Conn) : Conn :=
  { conn with transport :=
      if world.sslNew then { ssl := true, tlsState := .kTlsHandshaking } else {} }

def advanceHandshake (conn : Conn) : HandshakeResult × Conn :=
  if handshakePending conn then
    match world.sslDoHandshake conn with
    | none =>
        let conn := { conn with transport := { conn.transport with tlsState := .kTlsEstablished } }
        ({ completed := true }, conn.updateChannel Channel.disableWriting)
    | some .wantRead =>
        ({}, if conn.channel.isReading then conn else conn.updateChannel Channel.enableReading)
    | some .wantWrite => ({}, conn.updateChannel Channel.enableWriting)
    | some .zeroReturn => ({ failed := true }, conn)
    | some (.fatal errno) => ({ failed := true, savedErrno := errno }, conn)
  else ({ completed := true }, conn)

def appendInput (data : Bytes) (conn : Conn) : Conn :=
  { conn with inputBuffer := conn.inputBuffer ++ data }.emit (.received data)

def sslReadIntoBuffer (conn : Conn) : Result × Conn :=
  let reads := world.sslRead conn
  let conn := reads.1.foldl (fun conn data => appendInput data conn) conn
  let totalRead := (reads.1.map List.length).sum
  let finish (conn : Conn) : Result × Conn :=
    if totalRead > 0 then ({ status := .kOk, bytes := totalRead }, conn) else ({}, conn)
  match reads.2 with
  | .wantRead => finish conn
  | .wantWrite => finish (conn.updateChannel Channel.enableWriting)
  | .zeroReturn => if totalRead > 0 then finish conn else ({ status := .kPeerClosed }, conn)
  | .fatal errno =>
      if totalRead > 0 then finish conn else ({ status := .kError, savedErrno := errno }, conn)

def readInto (conn : Conn) : Result × Conn :=
  if conn.transport.ssl then sslReadIntoBuffer world conn
  else
    match world.read conn with
    | .bytes [] => ({ status := .kPeerClosed }, conn)
    | .bytes data => ({ status := .kOk, bytes := data.length }, appendInput data conn)
    | .failed errno =>
        if sockets.isWouldBlock errno then ({}, conn)
        else ({ status := .kError, savedErrno := errno }, conn)

/-- `static_cast<int>` of a size. -/
def toInt (size : Nat) : Int := (BitVec.ofNat 32 size).toInt

def sslWriteRaw (data : Bytes) (conn : Conn) : Result × Conn :=
  match world.sslWrite conn data (toInt data.length) with
  | .ok count => ({ status := .kOk, bytes := count }, conn.emit (.wrote (data.take count)))
  | .error .wantWrite => ({}, conn)
  | .error .wantRead => ({}, conn.updateChannel Channel.enableReading)
  | .error .zeroReturn => ({ status := .kError }, conn)
  | .error (.fatal errno) => ({ status := .kError, savedErrno := errno }, conn)

def writeRaw (data : Bytes) (conn : Conn) : Result × Conn :=
  if conn.transport.ssl then sslWriteRaw world data conn
  else
    match world.write conn data with
    | .wrote count => ({ status := .kOk, bytes := count }, conn.emit (.wrote (data.take count)))
    | .failed errno =>
        if sockets.isWouldBlock errno then ({}, conn)
        else ({ status := .kError, savedErrno := errno }, conn)

/-- `Buffer::retrieve` on the output buffer of bytes the transport took. -/
def retrieveWritten (count : Nat) (conn : Conn) : Conn :=
  { conn with outputBuffer := conn.outputBuffer.drop count }.emit
    (.wrote (conn.outputBuffer.take count))

/-- The loop of `sslWriteFromBuffer`. Every iteration that goes on retrieves at
least one byte, so the buffer's length bounds the number of iterations. -/
def sslWriteLoop : Nat → Nat → Conn → Result × Conn
  | 0, totalWritten, conn =>
      if totalWritten > 0 then ({ status := .kOk, bytes := totalWritten }, conn) else ({}, conn)
  | fuel + 1, totalWritten, conn =>
      let finish (conn : Conn) : Result × Conn :=
        if totalWritten > 0 then ({ status := .kOk, bytes := totalWritten }, conn) else ({}, conn)
      if conn.outputBuffer.isEmpty then finish conn
      else
        match world.sslWrite conn conn.outputBuffer (toInt conn.outputBuffer.length) with
        | .ok count => sslWriteLoop fuel (totalWritten + count) (retrieveWritten count conn)
        | .error .wantWrite => finish conn
        | .error .wantRead => finish (conn.updateChannel Channel.enableReading)
        | .error .zeroReturn =>
            if totalWritten > 0 then finish conn else ({ status := .kError }, conn)
        | .error (.fatal errno) =>
            if totalWritten > 0 then finish conn
            else ({ status := .kError, savedErrno := errno }, conn)

def sslWriteFromBuffer (conn : Conn) : Result × Conn :=
  sslWriteLoop world conn.outputBuffer.length 0 conn

def writeFromBuffer (conn : Conn) : Result × Conn :=
  if conn.transport.ssl then sslWriteFromBuffer world conn
  else
    match world.write conn conn.outputBuffer with
    | .wrote 0 => ({ status := .kError }, conn)
    | .wrote count => ({ status := .kOk, bytes := count }, retrieveWritten count conn)
    | .failed errno =>
        if sockets.isWouldBlock errno then ({}, conn)
        else ({ status := .kError, savedErrno := errno }, conn)

/-- The TLS part of `shutdownWrite`. -/
def sslShutdown (transport : Transport) : Transport :=
  if transport.ssl && transport.tlsState == .kTlsEstablished then
    { transport with tlsState := .kTlsShuttingDown }
  else transport

def shutdownWrite (conn : Conn) : Conn :=
  { conn with transport := sslShutdown conn.transport }.emit (.shutdownWrite conn.pendingPayloads.length)

end ConnectionTransport

end MiniTrantor.Net
