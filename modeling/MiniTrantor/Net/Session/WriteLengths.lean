import MiniTrantor.Net.Session.WriteRetry

/-!
# Lengths given to SSL_write

The length is an `int`, and the size of a payload or of the buffer is cast to it.
A size between 1 and INT_MAX is kept. An empty payload is given to OpenSSL like
any other, which takes it for an error, and larger sizes keep their lower half.
-/

set_option autoImplicit false

namespace MiniTrantor.Net.Session

variable {before after session : Session}

/-- A length that `SSL_write` can be called with. -/
structure Proper (call : WriteCall) : Prop where
  positive : 1 ≤ call.length
  within : call.length ≤ maxInt
  available : call.length ≤ call.data.length

/-- The calls of `SSL_write` that were made in between. -/
def issued (before after : Session) : List WriteCall :=
  after.writeCalls.drop before.writeCalls.length

/-- What OpenSSL does with a length of 0. -/
def EmptyFails (calls : Calls) : Prop :=
  ∀ data, ∃ error, calls.sslWrite data 0 = .error error ∧ error ≠ .wantRead ∧ error ≠ .wantWrite

/-- The connection is open and its handshake is over. -/
structure Established (session : Session) : Prop where
  ssl : session.ssl = true
  tlsState : session.tlsState = .kTlsEstablished
  opened : session.state ≠ .kDisconnected

/-- The cast of a size to `int` keeps it proper. -/
def Fits (size : Nat) : Prop := 0 < size % 2 ^ 32 ∧ size % 2 ^ 32 < 2 ^ 31

theorem toInt_fits {size : Nat} (fits : Fits size) :
    ConnectionTransport.toInt size = (size % 2 ^ 32 : Nat) := by
  have cast : ConnectionTransport.toInt size = Int.bmod size (2 ^ 32) := BitVec.toInt_ofNat' ..
  obtain ⟨_, small⟩ := fits
  rw [cast]
  unfold Int.bmod
  dsimp only
  split <;> omega

theorem proper_iff (address : Address) (data : Bytes) (result : Except SslError Nat) :
    Proper (.mk address data (ConnectionTransport.toInt data.length) result) ↔
      Fits data.length := by
  constructor
  · have cast : ConnectionTransport.toInt data.length = Int.bmod data.length (2 ^ 32) :=
      BitVec.toInt_ofNat' ..
    rintro ⟨positive, within, _⟩
    rw [cast] at positive within
    unfold Int.bmod maxInt at *
    unfold Fits
    dsimp only at *
    split at positive <;> omega
  · intro fits
    rw [toInt_fits fits]
    obtain ⟨some, small⟩ := fits
    exact ⟨by dsimp only; omega, by dsimp only [maxInt]; omega, by dsimp only; omega⟩

theorem issued_append {calls : List WriteCall} (grown : after.writeCalls = before.writeCalls ++ calls) :
    issued before after = calls := by
  rw [issued, grown, List.drop_left]

theorem writeCalls_quiet (quiet : Quiet before after) : after.writeCalls = before.writeCalls := by
  rw [writeCalls, quiet.trace, writeCalls]

theorem writeCalls_handleClose (session : Session) :
    session.handleClose.writeCalls = session.writeCalls := by
  rcases session.handleClose_shape with same | closing
  · rw [same]
  · rw [writeCalls, closing.trace, writeCalls]

theorem writeCalls_bufferOutput (data : Bytes) (session : Session) :
    (session.bufferOutput data).writeCalls = session.writeCalls := by
  rw [writeCalls_quiet (bufferOutput_quiet data session)]
  rfl

/-! ## Sending -/

/-- The payload is written at once. -/
def Direct (session : Session) : Prop :=
  session.channel.isWriting = false ∧ session.outputBuffer.readable = []

theorem sendInLoop_direct (established : Established session) (direct : Direct session)
    (calls : Calls) (pointer : Nat) (data : Bytes) :
    ∃ result, result = (session.sslWrite calls (.caller pointer) data).1 ∧
      issued session (session.sendInLoop calls pointer data) =
        [.mk (.caller pointer) data (ConnectionTransport.toInt data.length) result] ∧
      (leftOf data result = none →
        (session.sendInLoop calls pointer data).state = .kDisconnected) := by
  have idle : (!session.channel.isWriting && session.outputBuffer.readableBytes = 0) = true := by
    simp [direct.1, Buffer.readableBytes, direct.2]
  rw [sendInLoop, if_neg established.opened, if_pos idle]
  cases raw : session.writeRaw calls pointer data with
  | mk left written =>
      obtain ⟨result, leaves, returned, quiet⟩ := writeRaw_ssl established.ssl raw
      have grown : written.writeCalls = session.writeCalls ++
          [.mk (.caller pointer) data (ConnectionTransport.toInt data.length) result] := by
        rw [writeCalls_quiet quiet, writeCalls_emit]
      refine ⟨result, returned, ?_, ?_⟩
      · apply issued_append
        rw [← grown]
        split
        · rename_i same
          cases same
          exact writeCalls_handleClose _
        · rename_i same
          cases same
          exact writeCalls_quiet (.finishPendingWrite _)
        · rename_i same
          cases same
          exact writeCalls_bufferOutput _ _
      · intro failed
        rw [failed] at leaves
        subst leaves
        dsimp only
        have opened : written.state ≠ .kDisconnected := by
          rcases quiet.state with same | ⟨_, disconnecting⟩
          · rw [same]
            exact established.opened
          · rw [disconnecting]
            decide
        rw [handleError, handleClose, if_neg opened]
        rfl

theorem sendInLoop_behind (calls : Calls) (pointer : Nat) (data : Bytes) (busy : ¬Direct session) :
    issued session (session.sendInLoop calls pointer data) = [] ∧
      (data = [] → session.sendInLoop calls pointer data = session) := by
  have sends := sendInLoop_sends calls pointer data session
  generalize session.sendInLoop calls pointer data = sent at sends ⊢
  cases sends with
  | nothing => exact ⟨issued_append (by simp), fun _ => rfl⟩
  | behind _ some =>
      refine ⟨issued_append ?_, fun none => absurd none some⟩
      rw [writeCalls_bufferOutput, List.append_nil]
  | failed idle empty | finished idle empty | rest idle empty =>
      exact absurd ⟨idle, empty⟩ busy

/-! ## Writing what is buffered -/

theorem issued_of_grown {calls : List WriteCall}
    (grown : before.writeCalls ++ calls <+: after.writeCalls) {call : WriteCall}
    (made : call ∈ calls) : call ∈ issued before after := by
  obtain ⟨rest, same⟩ := grown
  rw [issued, ← same, List.append_assoc, List.drop_left]
  exact List.mem_append_left rest made

theorem writeCalls_grows (grows : Grows before after) : before.writeCalls <+: after.writeCalls :=
  grows.trace.filterMap Event.writeCall

/-- A call from the buffer took some of its bytes. -/
def taken (count : Nat) (session : Session) : Session :=
  { session.emit (.sslWrite session.outputBuffer.peek session.outputBuffer.readable
      (ConnectionTransport.toInt session.outputBuffer.readable.length) (.ok count)) with
    outputBuffer := session.outputBuffer.retrieve count }

theorem taken_readable (count : Nat) (session : Session) :
    (taken count session).outputBuffer.readable = session.outputBuffer.readable.drop count :=
  Buffer.retrieve_readable ..

theorem taken_writeCalls (count : Nat) (session : Session) :
    (taken count session).writeCalls = session.writeCalls ++
      [.mk session.outputBuffer.peek session.outputBuffer.readable
        (ConnectionTransport.toInt session.outputBuffer.readable.length) (.ok count)] :=
  writeCalls_emit ..

/-- The bytes that the loop has not yet looked at bound every length that it casts. -/
theorem sslWriteLoop_proper (calls : Calls) (fuel totalWritten : Nat) (session : Session)
    (small : session.outputBuffer.readable.length < 2 ^ 31) :
    ∃ made, (sslWriteLoop calls fuel totalWritten session).2.writeCalls =
      session.writeCalls ++ made ∧ ∀ call ∈ made, Proper call := by
  induction fuel generalizing totalWritten session with
  | zero => exact ⟨[], (List.append_nil _).symm, by simp⟩
  | succ fuel ih =>
      rw [sslWriteLoop]
      split
      · exact ⟨[], (List.append_nil _).symm, by simp⟩
      case isFalse left =>
        have fits : Fits session.outputBuffer.readable.length := by
          unfold Buffer.readableBytes at left
          unfold Fits
          omega
        have first := fun result => (proper_iff session.outputBuffer.peek
          session.outputBuffer.readable result).mpr fits
        split
        all_goals
          rename_i returned
          have recorded := sslWrite_recorded returned
          subst recorded
        case h_1 count =>
          have shrunk : (taken count session).outputBuffer.readable.length < 2 ^ 31 := by
            rw [taken_readable, List.length_drop]
            omega
          obtain ⟨made, grown, proper⟩ := ih (totalWritten + count) _ shrunk
          refine ⟨_ :: made, grown.trans ?_, List.forall_mem_cons.mpr ⟨first (.ok count), proper⟩⟩
          rw [taken_writeCalls, List.append_assoc]
          rfl
        case h_2 => exact ⟨[_], writeCalls_emit .., by simpa using first _⟩
        case h_3 => exact ⟨[_], writeCalls_emit .., by simpa using first _⟩
        case h_4 => exact ⟨[_], writeCalls_emit .., by simpa using first _⟩

/-- The first call is given everything that is in the buffer. -/
theorem sslWriteLoop_head (calls : Calls) (fuel totalWritten : Nat)
    (some : session.outputBuffer.readable ≠ []) :
    (session.sslWrite calls session.outputBuffer.peek
      session.outputBuffer.readable).2.writeCalls <+:
        (sslWriteLoop calls (fuel + 1) totalWritten session).2.writeCalls := by
  have left : session.outputBuffer.readableBytes ≠ 0 := by
    simpa [Buffer.readableBytes] using some
  rw [sslWriteLoop, if_neg left]
  split
  case h_1 returned =>
    rw [returned]
    refine writeCalls_grows (Grows.trans ?_ (Grows.sslWriteLoop ..))
    exact .same rfl rfl
  case h_2 returned => rw [returned]
  case h_3 returned =>
    rw [returned]
    exact List.prefix_refl _
  case h_4 returned => rw [returned]

/-- A size whose cast is not proper shows in the first call. -/
theorem sslWriteLoop_misfit (calls : Calls) (fuel totalWritten : Nat)
    (some : session.outputBuffer.readable ≠ [])
    (misfit : ¬Fits session.outputBuffer.readable.length) :
    ∃ call, session.writeCalls ++ [call] <+:
      (sslWriteLoop calls (fuel + 1) totalWritten session).2.writeCalls ∧ ¬Proper call := by
  have head := sslWriteLoop_head calls fuel totalWritten some
  simp only [sslWrite, writeCalls_emit] at head
  exact ⟨_, head, fun proper => misfit ((proper_iff ..).mp proper)⟩

/-- A full round of 2^32 bytes is lost in the cast: the rest of the size is written, and
the next call is made with a length of 0. -/
theorem sslWriteLoop_large (fuel : Nat)
    (large : 2 ^ 31 ≤ session.outputBuffer.readable.length) :
    ∃ made, session.writeCalls ++ made <+: (sslWriteLoop {} (fuel + 2) 0 session).2.writeCalls ∧
      ∃ call ∈ made, ¬Proper call := by
  have some : session.outputBuffer.readable ≠ [] := by
    intro empty
    rw [empty, List.length_nil] at large
    omega
  by_cases fits : Fits session.outputBuffer.readable.length
  · have count : ConnectionTransport.toInt session.outputBuffer.readable.length =
        (session.outputBuffer.readable.length % 2 ^ 32 : Nat) := toInt_fits fits
    have returned : session.sslWrite {} session.outputBuffer.peek session.outputBuffer.readable =
        (.ok (session.outputBuffer.readable.length % 2 ^ 32), session.emit
          (.sslWrite session.outputBuffer.peek session.outputBuffer.readable
            (ConnectionTransport.toInt session.outputBuffer.readable.length)
            (.ok (session.outputBuffer.readable.length % 2 ^ 32)))) := by
      have positive : (0 : Int) < (session.outputBuffer.readable.length % 2 ^ 32 : Nat) := by
        have := fits.1
        omega
      simp only [sslWrite, count, if_pos positive, Int.toNat_natCast, Int.le_refl,
        fits.1, and_self, if_true]
    have left : session.outputBuffer.readableBytes ≠ 0 := by
      simpa [Buffer.readableBytes] using some
    rw [sslWriteLoop, if_neg left, returned]
    change ∃ made, session.writeCalls ++ made <+: (sslWriteLoop {} (fuel + 1) _
      (taken (session.outputBuffer.readable.length % 2 ^ 32) session)).2.writeCalls ∧ _
    have more : (taken (session.outputBuffer.readable.length % 2 ^ 32)
        session).outputBuffer.readable.length =
          session.outputBuffer.readable.length - session.outputBuffer.readable.length % 2 ^ 32 := by
      rw [taken_readable, List.length_drop]
    have whole : ¬Fits (taken (session.outputBuffer.readable.length % 2 ^ 32)
        session).outputBuffer.readable.length := by
      rw [more]
      unfold Fits
      omega
    have rest : (taken (session.outputBuffer.readable.length % 2 ^ 32)
        session).outputBuffer.readable ≠ [] := by
      intro none
      have small := fits.2
      rw [none, List.length_nil] at more
      omega
    obtain ⟨call, grown, improper⟩ := sslWriteLoop_misfit {} fuel
      (0 + session.outputBuffer.readable.length % 2 ^ 32) rest whole
    rw [taken_writeCalls, List.append_assoc] at grown
    exact ⟨_, grown, call, by simp, improper⟩
  · obtain ⟨call, grown, improper⟩ := sslWriteLoop_misfit {} (fuel + 1) 0 some fits
    exact ⟨_, grown, call, by simp, improper⟩

theorem handleWrite_writeCalls (established : Established session)
    (writing : session.channel.isWriting = true) (calls : Calls) :
    (session.handleWrite calls).writeCalls =
      (sslWriteLoop calls session.outputBuffer.readableBytes 0 session).2.writeCalls := by
  have settled : session.handshakePending = false := by
    simp [handshakePending, established.tlsState]
  rw [handleWrite, if_neg (by simp [settled]), if_neg (by simp [writing]), writeFromBuffer,
    if_pos established.ssl]
  generalize sslWriteLoop calls session.outputBuffer.readableBytes 0 session = drained
  obtain ⟨drain, written⟩ := drained
  cases drain with
  | failed => exact writeCalls_handleClose written
  | progress => exact writeCalls_quiet (.apply (by simp) written)
  | blocked => rfl

theorem handleWrite_idle (established : Established session)
    (waiting : session.channel.isWriting = false) (calls : Calls) :
    session.handleWrite calls = session := by
  have settled : session.handshakePending = false := by
    simp [handshakePending, established.tlsState]
  rw [handleWrite, if_neg (by simp [settled]), if_pos (by simp [waiting])]

/-! ## Both paths -/

/-- Which payloads, and which contents of the buffer, are written with proper lengths
whatever OpenSSL returns. -/
structure WriteLengths (session : Session) : Prop where
  sent : ∀ (pointer : Nat) (data : Bytes),
    (∀ calls, EmptyFails calls →
      (∀ call ∈ issued session (session.sendInLoop calls pointer data), Proper call) ∧
        (data = [] → (session.sendInLoop calls pointer data).state ≠ .kDisconnected)) ↔
      ¬Direct session ∨ Fits data.length
  drained : (∀ calls, EmptyFails calls →
    ∀ call ∈ issued session (session.handleWrite calls), Proper call) ↔
      session.channel.isWriting = false ∨ session.outputBuffer.readable.length < 2 ^ 31

theorem emptyFails_default : EmptyFails {} :=
  fun _ => ⟨.fatal 0, rfl, by decide, by decide⟩

theorem write_lengths (session : Session) (established : Established session) :
    WriteLengths session := by
  constructor
  · intro pointer data
    constructor
    · intro proper
      by_contra improper
      obtain ⟨direct, misfit⟩ := not_or.mp improper
      obtain ⟨result, _, made, _⟩ :=
        sendInLoop_direct established (not_not.mp direct) {} pointer data
      have all := (proper {} emptyFails_default).1
      rw [made, List.forall_mem_singleton, proper_iff] at all
      exact misfit all
    · intro fine calls _
      by_cases direct : Direct session
      · have fits : Fits data.length := fine.resolve_left (not_not.mpr direct)
        obtain ⟨result, _, made, _⟩ := sendInLoop_direct established direct calls pointer data
        constructor
        · rw [made, List.forall_mem_singleton, proper_iff]
          exact fits
        · intro none
          rw [none] at fits
          exact absurd fits.1 (by decide)
      · obtain ⟨made, unchanged⟩ := sendInLoop_behind calls pointer data direct
        constructor
        · rw [made]
          simp
        · intro none
          rw [unchanged none]
          exact established.opened
  · constructor
    · intro proper
      by_contra improper
      obtain ⟨writing, large⟩ := not_or.mp improper
      rw [Bool.not_eq_false] at writing
      rw [Nat.not_lt] at large
      obtain ⟨fuel, enough⟩ : ∃ fuel, session.outputBuffer.readableBytes = fuel + 2 :=
        ⟨session.outputBuffer.readableBytes - 2, by unfold Buffer.readableBytes; omega⟩
      obtain ⟨made, grown, call, found, bad⟩ := sslWriteLoop_large fuel large
      rw [← enough, ← handleWrite_writeCalls established writing] at grown
      exact bad (proper {} emptyFails_default call (issued_of_grown grown found))
    · intro fine calls _
      cases writing : session.channel.isWriting with
      | false =>
          rw [handleWrite_idle established writing, issued_append (List.append_nil _).symm]
          simp
      | true =>
          have small := fine.resolve_left (by simp [writing])
          obtain ⟨made, grown, proper⟩ := sslWriteLoop_proper calls
            session.outputBuffer.readableBytes 0 session small
          rw [issued_append ((handleWrite_writeCalls established writing calls).trans grown)]
          exact proper

/-- The handshake goes through, and the connection is announced. -/
def establishingRun : List Action := [.resume {}, .resume {}, .resume {}, .resume {}, .resume {}]

theorem write_lengths_established :
    ∃ session, run step (startedTls {} 0 0 3 true) establishingRun = some session ∧
      Established session ∧ WriteLengths session := by
  have final : ∃ session, run step (startedTls {} 0 0 3 true) establishingRun = some session ∧
      Established session := ⟨_, rfl, ⟨rfl, rfl, by decide⟩⟩
  obtain ⟨session, ran, established⟩ := final
  exact ⟨session, ran, established, write_lengths session established⟩

/-- `send("")` calls `SSL_write` with a length of 0, and closes the connection. -/
theorem write_lengths_empty :
    ∃ session, run step (startedTls {} 0 0 3 true) establishingRun = some session ∧
      Established session ∧ EmptyFails {} ∧
      (session.sendInLoop {} 0 []).state = .kDisconnected ∧
      ∃ call ∈ issued session (session.sendInLoop {} 0 []), ¬Proper call := by
  refine ⟨_, rfl, ⟨rfl, rfl, by decide⟩, emptyFails_default, rfl, _, .head _, fun proper => ?_⟩
  exact absurd proper.positive (by decide)

end MiniTrantor.Net.Session
