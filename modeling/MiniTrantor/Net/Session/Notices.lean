import MiniTrantor.Net.Session.FailClosed

/-!
# Notifications of a connection

The hook of connection events and the connection callback of the user are called
by one wrapper, which looks at the state anew for each of them. Both are told of
the connection and then of its end, unless the state changes while the first of
these is still on its way to one of them.
-/

set_option autoImplicit false

namespace MiniTrantor.Net.Session

variable {before after session next : Session}

/-- Who is notified. -/
inductive Place where
  | connectionEvent
  | connection
  deriving DecidableEq, Repr

namespace Place

def isSet (hooks : Hooks) : Place → Bool
  | .connectionEvent => hooks.connectionEvent
  | .connection => hooks.connection

/-- What is told at this place: whether the connection is connected. -/
def heard : Place → Event → Option Bool
  | .connectionEvent, .connectionEvent connected => some connected
  | .connection, .connectionCallback connected => some connected
  | _, _ => none

/-- The notification of the connection is on its way to the place. -/
def awaits (place : Place) : Frame → Bool
  | .applied .connectEstablished _ | .notify .connected => true
  | .connectionEvent .connected _ => place == .connection
  | _ => false

/-- The notification of its end is. -/
def leaves (place : Place) : Frame → Bool
  | .notify (.disconnected _) => true
  | .connectionEvent (.disconnected _) _ => place == .connection
  | _ => false

end Place

/-- What was told at a place, in order. -/
def observed (place : Place) (session : Session) : List Bool :=
  session.trace.filterMap place.heard

/-- While the notification of the connection is on its way to a place where something
is set, the connection is connected. -/
def Prompt (place : Place) (session : Session) : Prop :=
  place.isSet session.hooks = true → session.stack.any place.awaits = true →
    session.state = .kConnected

def awaiting (place : Place) (session : Session) : Nat := session.stack.countP place.awaits

/-- Notifications of the end: those on their way, and that of a connection still open. -/
def leaving (place : Place) (session : Session) : Nat :=
  session.stack.countP place.leaves + if session.state = .kDisconnected then 0 else 1

/-- What was told and what is still to be told make up one notification of each kind. -/
inductive Balance : List Bool → Nat → Nat → Prop where
  | announced : Balance [] 1 1
  | connected : Balance [true] 0 1
  | disconnected : Balance [true, false] 0 0

theorem Balance.isPrefix {told : List Bool} {awaiting leaving : Nat}
    (balance : Balance told awaiting leaving) : told <+: [true, false] := by
  cases balance with
  | announced => exact List.nil_prefix
  | connected => exact ⟨[false], rfl⟩
  | disconnected => exact List.prefix_refl _

theorem Balance.awaited {told : List Bool} {awaiting leaving : Nat}
    (balance : Balance told awaiting leaving) (positive : 0 < awaiting) :
    told = [] ∧ awaiting = 1 ∧ leaving = 1 := by
  cases balance with
  | announced => exact ⟨rfl, rfl, rfl⟩
  | connected | disconnected => cases positive

theorem Balance.left {told : List Bool} {awaiting leaving : Nat}
    (balance : Balance told awaiting leaving) (none : awaiting = 0) (positive : 0 < leaving) :
    told = [true] ∧ leaving = 1 := by
  cases balance with
  | announced => cases none
  | connected => exact ⟨rfl, rfl⟩
  | disconnected => cases positive

/-- The invariant of a plain connection at one place. -/
structure Told (place : Place) (session : Session) : Prop where
  plain : session.ssl = false
  unshaken : ∀ runs, .handshakeCompleted runs ∉ session.stack
  silent : place.isSet session.hooks = false → session.observed place = []
  balance : place.isSet session.hooks = true →
    Balance (session.observed place) (session.awaiting place) (session.leaving place)

variable {place : Place}

theorem countP_routine {frames : List Frame} {counted : Frame → Bool}
    (routine : ∀ frame ∈ frames, frame.isRoutine = true)
    (other : ∀ frame, frame.isRoutine = true → counted frame = false) :
    frames.countP counted = 0 := by
  rw [List.countP_eq_zero]
  intro frame member
  simp [other frame (routine frame member)]

theorem awaits_routine {frame : Frame} (routine : frame.isRoutine = true) :
    place.awaits frame = false := by
  cases frame with
  | applied function event =>
      cases function with
      | connectEstablished => cases routine
      | handleWrite | last => rfl
  | _ => cases routine

theorem leaves_routine {frame : Frame} (routine : frame.isRoutine = true) :
    place.leaves frame = false := by
  cases frame with
  | applied function event => rfl
  | _ => cases routine

/-- A frame is of one notification. -/
theorem awaits_leaves {frame : Frame} (awaits : place.awaits frame = true) :
    place.leaves frame = false := by
  cases frame with
  | notify notice | connectionEvent notice =>
      cases notice with
      | connected => rfl
      | disconnected => cases awaits
  | _ => rfl

namespace Told

theorem change (told : Told place before) (ssl : after.ssl = before.ssl)
    (hooks : after.hooks = before.hooks)
    (stack : ∀ runs, .handshakeCompleted runs ∈ after.stack → .handshakeCompleted runs ∈ before.stack)
    (observed : after.observed place = before.observed place)
    (awaiting : after.awaiting place = before.awaiting place)
    (leaving : after.leaving place = before.leaving place) : Told place after := by
  refine ⟨ssl.trans told.plain, fun runs member => told.unshaken runs (stack runs member), ?_, ?_⟩
  · rw [hooks, observed]
    exact told.silent
  · rw [hooks, observed, awaiting, leaving]
    exact told.balance

theorem same (told : Told place before) (ssl : after.ssl = before.ssl)
    (hooks : after.hooks = before.hooks) (stack : after.stack = before.stack)
    (observed : after.observed place = before.observed place)
    (state : after.state = before.state) : Told place after := by
  refine told.change ssl hooks ?_ observed ?_ ?_
  · rw [stack]
    exact fun _ member => member
  · rw [awaiting, awaiting, stack]
  · rw [leaving, leaving, stack, state]

theorem emit (told : Told place session) {event : Event} (other : place.heard event = none) :
    Told place (session.emit event) := by
  refine told.same rfl rfl rfl ?_ rfl
  simp [observed, Session.emit, List.filterMap_append, other]

theorem quiet (told : Told place before) (quiet : Quiet before after) : Told place after := by
  obtain ⟨frames, grown, routine⟩ := quiet.stack
  refine told.change quiet.ssl quiet.hooks ?_ ?_ ?_ ?_
  · intro runs member
    rw [grown] at member
    rcases List.mem_append.mp member with pushed | old
    · cases routine _ pushed
    · exact old
  · rw [observed, observed, quiet.trace]
  · rw [awaiting, awaiting, grown, List.countP_append,
      countP_routine routine (fun _ => awaits_routine), Nat.zero_add]
  · have opened : after.state = .kDisconnected ↔ before.state = .kDisconnected := by
      rcases quiet.state with same | ⟨connected, disconnecting⟩
      · rw [same]
      · simp [connected, disconnecting]
    rw [leaving, leaving, grown, List.countP_append,
      countP_routine routine (fun _ => leaves_routine), Nat.zero_add]
    simp only [opened]

/-- The notification of the end sets out. -/
theorem closing (told : Told place before) (closing : Closing before after) :
    Told place after := by
  obtain ⟨destroying, grown⟩ := closing.stack
  refine told.change closing.ssl closing.hooks ?_ ?_ ?_ ?_
  · intro runs member
    rw [grown] at member
    exact (List.mem_cons.mp member).resolve_left (by simp)
  · rw [observed, observed, closing.trace]
  · rw [awaiting, awaiting, grown]
    rfl
  · rw [leaving, leaving, grown, if_pos closing.closed, if_neg closing.opened,
      List.countP_cons_of_pos rfl]

theorem ending (told : Told place before) (ending : Ending before after) : Told place after := by
  refine told.same ending.ssl ending.hooks ending.stack ?_ ending.state
  rw [observed, observed, ending.trace, List.filterMap_append]
  cases place <;> simp [Place.heard]

theorem handleClose (told : Told place session) : Told place session.handleClose := by
  rcases session.handleClose_shape with same | closing
  · rw [same]
    exact told
  · exact told.closing closing

theorem forceCloseInLoop (told : Told place session) : Told place session.forceCloseInLoop := by
  rcases session.forceCloseInLoop_shape with same | closing
  · rw [same]
    exact told
  · exact told.closing closing

theorem connectDestroyed (told : Told place session) : Told place session.connectDestroyed := by
  rcases session.connectDestroyed_shape with ending | closing
  · exact told.ending ending
  · exact told.closing closing

/-- A frame that tells nothing. -/
theorem push (told : Told place session) {frame : Frame}
    (completed : ∀ runs, frame ≠ .handshakeCompleted runs) (awaits : place.awaits frame = false)
    (leaves : place.leaves frame = false) : Told place (session.push frame) := by
  refine told.change rfl rfl ?_ rfl ?_ ?_
  · exact fun runs member => (List.mem_cons.mp member).resolve_left
      fun same => completed runs same.symm
  · exact List.countP_cons_of_neg (by simp [awaits])
  · exact congrArg (· + _) (List.countP_cons_of_neg (by simp [leaves]))

theorem pop (told : Told place session) {frame : Frame} {rest : List Frame}
    (top : session.stack = frame :: rest) (awaits : place.awaits frame = false)
    (leaves : place.leaves frame = false) : Told place { session with stack := rest } := by
  refine told.change rfl rfl ?_ rfl ?_ ?_
  · exact fun runs member => top ▸ List.mem_cons_of_mem _ member
  · rw [awaiting, awaiting, top, List.countP_cons_of_neg (by simp [awaits])]
  · rw [leaving, leaving, top, List.countP_cons_of_neg (by simp [leaves])]

/-- One frame takes the place of another that is as far from the place. -/
theorem replace (told : Told place session) {frame other : Frame} {rest : List Frame}
    (top : session.stack = frame :: rest) (completed : ∀ runs, other ≠ .handshakeCompleted runs)
    (awaits : place.awaits other = place.awaits frame)
    (leaves : place.leaves other = place.leaves frame) :
    Told place { session with stack := other :: rest } := by
  refine told.change rfl rfl ?_ rfl ?_ ?_
  · intro runs member
    rw [top]
    exact List.mem_cons_of_mem _ ((List.mem_cons.mp member).resolve_left
      fun same => completed runs same.symm)
  · rw [awaiting, awaiting, top, List.countP_cons, List.countP_cons, awaits]
  · rw [leaving, leaving, top, List.countP_cons, List.countP_cons, leaves]

theorem bufferOutput (told : Told place session) (data : Bytes) :
    Told place (session.bufferOutput data) := by
  have held : Told place (session.buffered data) := told.same rfl rfl rfl rfl rfl
  exact held.quiet (bufferOutput_quiet data session)

theorem sendInLoop (told : Told place session) (calls : Calls) (pointer : Nat) (data : Bytes) :
    Told place (session.sendInLoop calls pointer data) := by
  have written : ∀ {left : Option Bytes} {written : Session},
      session.writeRaw calls pointer data = (left, written) → Told place written := by
    intro left written raw
    rw [writeRaw_plain told.plain raw]
    exact told.emit (by cases place <;> rfl)
  have sends := sendInLoop_sends calls pointer data session
  generalize session.sendInLoop calls pointer data = sent at sends ⊢
  cases sends with
  | nothing => exact told
  | behind => exact told.bufferOutput data
  | failed _ _ raw => exact (written raw).handleClose
  | finished _ _ raw => exact (written raw).quiet (.finishPendingWrite _)
  | rest _ _ raw _ => exact (written raw).bufferOutput _

theorem not_handshakePending (told : Told place session) : session.handshakePending = false := by
  simp [handshakePending, told.plain]

theorem handleRead (told : Told place session) (calls : Calls) :
    Told place (session.handleRead calls) := by
  rw [Session.handleRead, if_neg (by simp [told.not_handshakePending]),
    if_neg (by simp [told.plain])]
  split
  · exact told.handleClose
  · exact told.push (by simp) rfl rfl
  · split
    · exact told
    · exact told.handleClose

theorem writeFromBuffer (told : Told place session) (calls : Calls) :
    Told place (session.writeFromBuffer calls).2 := by
  have recorded : Told place (session.emit (.write session.outputBuffer.readable)) :=
    told.emit (by cases place <;> rfl)
  rw [Session.writeFromBuffer, if_neg (by simp [told.plain])]
  dsimp only
  split
  · exact recorded
  · exact recorded.same rfl rfl rfl rfl rfl
  · exact recorded

theorem handleWrite (told : Told place session) (calls : Calls) :
    Told place (session.handleWrite calls) := by
  rw [Session.handleWrite, if_neg (by simp [told.not_handshakePending])]
  split
  · exact told
  · have drained := told.writeFromBuffer calls
    split
    all_goals
      rename_i equation
      rw [equation] at drained
    · exact drained.handleClose
    · exact drained.quiet (.apply (by simp) _)
    · exact drained

/-- What is told when a notification reaches a place. -/
theorem arrive {frame : Frame} {rest : List Frame} (prompt : session.stack.any place.awaits = true →
      session.state = .kConnected) (top : session.stack = frame :: rest)
    (due : place.awaits frame = true ∨ place.leaves frame = true)
    (balance : Balance (session.observed place) (session.awaiting place) (session.leaving place)) :
    Balance (session.observed place ++ [decide (session.state = .kConnected)])
      (rest.countP place.awaits)
      (rest.countP place.leaves + if session.state = .kDisconnected then 0 else 1) := by
  have onTheWay : 0 < session.awaiting place → session.state = .kConnected := by
    intro some
    obtain ⟨frame, member, awaits⟩ := List.countP_pos_iff.mp some
    exact prompt (List.any_eq_true.mpr ⟨frame, member, awaits⟩)
  rcases due with awaits | leaves
  · have some : session.awaiting place = rest.countP place.awaits + 1 := by
      rw [awaiting, top, List.countP_cons_of_pos awaits]
    have connected := onTheWay (by omega)
    have opened : session.leaving place = rest.countP place.leaves + 1 := by
      rw [leaving, top, connected, List.countP_cons_of_neg (by simp [awaits_leaves awaits])]
      rfl
    obtain ⟨told, one, other⟩ := balance.awaited (by omega)
    have last : rest.countP place.awaits = 0 := by omega
    have last' : rest.countP place.leaves = 0 := by omega
    rw [told, last, last', connected]
    exact .connected
  · have some : session.leaving place = rest.countP place.leaves + 1 +
        if session.state = .kDisconnected then 0 else 1 := by
      rw [leaving, top, List.countP_cons_of_pos leaves]
    -- two notifications of the end are too many
    have none : session.awaiting place = 0 := by
      by_contra awaited
      have connected := onTheWay (by omega)
      obtain ⟨_, _, one⟩ := balance.awaited (by omega)
      rw [one, connected] at some
      simp at some
    obtain ⟨told, one⟩ := balance.left none (by omega)
    have closed : session.state = .kDisconnected := by
      by_contra opened
      rw [one, if_neg opened] at some
      omega
    rw [one, if_pos closed] at some
    have last : rest.countP place.leaves = 0 := by omega
    have last' : rest.countP place.awaits = 0 := by
      rw [awaiting, top, List.countP_cons] at none
      omega
    rw [told, last, last', closed]
    exact .disconnected

/-- The notification reaches the place. -/
theorem tell (told : Told place session) (prompt : Prompt place session) {frame other : Frame}
    {rest : List Frame} (top : session.stack = frame :: rest)
    (due : place.awaits frame = true ∨ place.leaves frame = true)
    (completed : ∀ runs, other ≠ .handshakeCompleted runs) (awaits : place.awaits other = false)
    (leaves : place.leaves other = false) {event : Event}
    (heard : place.heard event = some (decide (session.state = .kConnected))) :
    Told place ((if place.isSet session.hooks then { session with stack := rest }.emit event
      else { session with stack := rest }).push other) := by
  have unshaken : ∀ runs, .handshakeCompleted runs ∉ other :: rest := by
    intro runs member
    rcases List.mem_cons.mp member with same | old
    · exact completed runs same.symm
    · exact told.unshaken runs (top ▸ List.mem_cons_of_mem _ old)
  cases set : place.isSet session.hooks with
  | false =>
      refine ⟨told.plain, unshaken, fun _ => told.silent set, fun unset => ?_⟩
      cases set.symm.trans unset
  | true =>
      refine ⟨told.plain, unshaken, fun unset => ?_, fun _ => ?_⟩
      · cases set.symm.trans unset
      · have balance := arrive (prompt set) top due (told.balance set)
        have observed' : Session.observed place (({ session with stack := rest }.emit event).push
            other) = session.observed place ++ [decide (session.state = .kConnected)] := by
          simp [observed, Session.emit, Session.push, List.filterMap_append, heard]
        have awaiting' : Session.awaiting place (({ session with stack := rest }.emit event).push
            other) = rest.countP place.awaits := List.countP_cons_of_neg (by simp [awaits])
        have leaving' : (other :: rest).countP place.leaves = rest.countP place.leaves :=
          List.countP_cons_of_neg (by simp [leaves])
        rw [if_pos rfl, observed', awaiting', leaving]
        dsimp only [Session.push, Session.emit]
        rw [leaving']
        exact balance

/-- The rest of `handleWrite` pushes nothing. -/
theorem wrote (told : Told place session) : Told place session.wrote := by
  unfold Session.wrote
  split
  · have disabled : Told place (session.updateChannel Channel.disableWriting) :=
      told.same rfl rfl rfl rfl rfl
    exact disabled.quiet (.finishPendingWrite _)
  · exact told

theorem resume (told : Told place session) (prompt : Prompt place session) {calls : Calls}
    {frame : Frame} {rest : List Frame} (top : session.stack = frame :: rest) :
    Told place (frame.resume calls { session with stack := rest }) := by
  cases frame with
  | applied function event =>
      cases function with
      | last => exact told.pop top rfl rfl
      | handleWrite => exact (told.pop top rfl rfl).wrote
      | connectEstablished =>
          have plain : handshakePending { session with stack := rest } = false :=
            told.not_handshakePending
          have announced : Told place { session with stack := .notify .connected :: rest } :=
            told.replace top (by simp) rfl rfl
          simp only [Frame.resume, plain]
          exact announced.emit (by cases place <;> rfl)
  | handshakeFailed errno runs => exact (told.pop top rfl rfl).handleClose
  | handshakeCompleted runs => exact (told.unshaken runs (by simp [top])).elim
  | notify notice =>
      cases place with
      | connectionEvent =>
          have due : Place.awaits .connectionEvent (.notify notice) = true ∨
              Place.leaves .connectionEvent (.notify notice) = true := by
            cases notice with
            | connected => exact .inl rfl
            | disconnected => exact .inr rfl
          exact told.tell prompt top due (by simp) (by cases notice <;> rfl)
            (by cases notice <;> rfl) rfl
      | connection =>
          have moved : Told .connection { session with
              stack := .connectionEvent notice session.hooks.connectionEvent :: rest } :=
            told.replace top (by simp) (by cases notice <;> rfl) (by cases notice <;> rfl)
          simp only [Frame.resume, wrapper]
          split
          · exact moved.emit rfl
          · exact moved
  | connectionEvent notice runs =>
      cases place with
      | connectionEvent =>
          have moved : Told .connectionEvent { session with
              stack := .connectionCallback notice session.hooks.connection :: rest } :=
            told.replace top (by simp) (by cases notice <;> rfl) (by cases notice <;> rfl)
          simp only [Frame.resume, callUser]
          split
          · exact moved.emit rfl
          · exact moved
      | connection =>
          have due : Place.awaits .connection (.connectionEvent notice runs) = true ∨
              Place.leaves .connection (.connectionEvent notice runs) = true := by
            cases notice with
            | connected => exact .inl rfl
            | disconnected => exact .inr rfl
          exact told.tell prompt top due (by simp) rfl rfl rfl
  | connectionCallback notice runs =>
      have popped := told.pop top (by cases notice <;> rfl) (by cases notice <;> rfl)
      cases notice with
      | connected => exact popped
      | disconnected destroying =>
          cases destroying with
          | true => exact popped.ending (unregisterChannel_ending _)
          | false => exact popped.push (by simp) rfl rfl
  | close runs => exact told.pop top rfl rfl
  | message runs => exact told.pop top rfl rfl

theorem moves (told : Told place session) (prompt : Prompt place session) {action : Action}
    (moves : Moves session action next) : Told place next := by
  cases moves with
  | skip => exact told
  | send | asyncWrite => exact told.sendInLoop ..
  | shutdown => exact told.quiet (.shutdown session)
  | forceClose => exact told.forceCloseInLoop
  | policy => exact told.quiet (.policy _ _ session)
  | connectDestroyed => exact told.connectDestroyed
  | request request => exact told.quiet (.request session request)
  | @functor calls functor rest _ queued =>
      have popped : Told place { session with queue := rest } := told.same rfl rfl rfl rfl rfl
      cases functor with
      | sendInLoop pointer data => exact popped.sendInLoop ..
      | shutdownInLoop => exact popped.quiet (.shutdownInLoop _)
      | forceCloseInLoop => exact popped.forceCloseInLoop
      | setBackpressurePolicyInLoop high low => exact popped.quiet (.policy high low _)
      | connectDestroyed => exact popped.connectDestroyed
  | dispatch => exact told.same rfl rfl rfl rfl rfl
  | @handle calls handler rest =>
      have popped : Told place { session with handlers := rest } := told.same rfl rfl rfl rfl rfl
      cases handler with
      | handleClose => exact popped.handleClose
      | handleError => exact popped.handleClose
      | handleRead => exact popped.handleRead calls
      | handleWrite => exact popped.handleWrite calls
  | resume top => exact told.resume prompt top

theorem isPrefix (told : Told place session) : session.observed place <+: [true, false] := by
  cases set : place.isSet session.hooks with
  | false =>
      rw [told.silent set]
      exact List.nil_prefix
  | true => exact (told.balance set).isPrefix

end Told

/-- `connectEstablished` of a connection without TLS. -/
def started (hooks : Hooks) (highWaterMark lowWaterMark : Nat) : Session :=
  (create hooks highWaterMark lowWaterMark).connectEstablished

theorem started_told (place : Place) (hooks : Hooks) (high low : Nat) :
    Told place (started hooks high low) := by
  rw [started, connectEstablished_eq rfl]
  refine ⟨rfl, by simp [create], fun _ => rfl, fun _ => ?_⟩
  exact .announced

/-- The state does not change while the notification of the connection is on its way. -/
def Undisturbed (session : Session) (_ : Action) : Prop :=
  Prompt .connectionEvent session ∧ Prompt .connection session

theorem reach_told {hooks : Hooks} {high low : Nat}
    (reach : Reach step Undisturbed (started hooks high low) session) : Told place session := by
  refine reach.invariant (started_told place hooks high low) ?_
  intro before after action told undisturbed taken
  refine told.moves ?_ (step_moves taken)
  cases place with
  | connectionEvent => exact undisturbed.1
  | connection => exact undisturbed.2

theorem notifications_ordered {hooks : Hooks} {high low : Nat}
    (reach : Reach step Undisturbed (started hooks high low) session) :
    session.observed .connectionEvent <+: [true, false] ∧
      session.observed .connection <+: [true, false] :=
  ⟨(reach_told reach).isPrefix, (reach_told reach).isPrefix⟩

instance (session : Session) (action : Action) : Decidable (Undisturbed session action) :=
  inferInstanceAs (Decidable ((_ → _ → _) ∧ (_ → _ → _)))

/-- Both are set, and the user closes the connection when it is told of it. -/
def closedByUser : List Action :=
  [.resume {}, .resume {}, .resume {}, .forceClose, .resume {}, .resume {}, .resume {}, .resume {},
    .resume {}]

theorem notifications_ordered_closed :
    ∃ session, run (checked step Undisturbed)
        (started { connectionEvent := true, connection := true } 0 0) closedByUser =
          some session ∧
      session.observed .connection = [true, false] ∧
      session.observed .connectionEvent <+: [true, false] ∧
      session.observed .connection <+: [true, false] := by
  have final : ∃ session, run (checked step Undisturbed)
      (started { connectionEvent := true, connection := true } 0 0) closedByUser = some session ∧
      session.observed .connection = [true, false] := ⟨_, rfl, rfl⟩
  obtain ⟨session, ran, observed⟩ := final
  exact ⟨session, ran, observed, notifications_ordered (.checked .start ran)⟩

/-- The hook of connection events closes the connection when it is told of it. -/
def closedByHook : List Action :=
  [.resume {}, .resume {}, .forceClose, .resume {}, .resume {}, .resume {}, .resume {},
    .resume {}]

/-- The user is told of the end twice and of the connection never. -/
theorem notifications_disordered :
    ∃ session, run step (started { connectionEvent := true, connection := true } 0 0)
        closedByHook = some session ∧
      session.observed .connection = [false, false] ∧
      ¬ session.observed .connection <+: [true, false] :=
  ⟨_, rfl, rfl, by decide⟩

end MiniTrantor.Net.Session
