import ProxyClient.Worker.Ordering

/-! The writer of a connection is a writer among senders.
Every run of a connection is, for the wire, a run of `wireMachine` that shows the same frames,
so what holds of the writer among arbitrary senders holds of it on every connection.
-/

namespace ProxyClient

open Foundations

/-- What an event shows of the wire. -/
def Event.onWire? : Event → Option Event
  | .controlQueued message => some (.controlQueued message)
  | .bulkQueued response => some (.bulkQueued response)
  | .handed frame => some (.handed frame)
  | .sent frame => some (.sent frame)
  | .sendFailed frame => some (.sendFailed frame)
  | .writerReturned result => some (.writerReturned result)
  | .acquired _ | .refused _ | .released _ | .requested .. | .posted .. | .dropped ..
  | .abandoned .. | .panicked _ => none

def wireEvents (events : List Event) : List Event := events.filterMap Event.onWire?

@[simp] theorem wireEvents_nil : wireEvents [] = [] := rfl

@[simp] theorem wireEvents_cons (event : Event) (events : List Event)
    : wireEvents (event :: events) = event.onWire?.toList ++ wireEvents events := by
  cases event <;> rfl

@[simp] theorem wireEvents_append (events more : List Event)
    : wireEvents (events ++ more) = wireEvents events ++ wireEvents more :=
  List.filterMap_append

@[simp] theorem wireEvents_lose (pieces : List Piece) : wireEvents (lose pieces) = [] :=
  filterMap_lose (fun _ _ => rfl) (fun _ => rfl) pieces

@[simp] theorem wireEvents_lost (piece : Piece) : wireEvents piece.lost = [] := rfl

/-- Movements of the budget show nothing of the wire. -/
theorem wireEvents_moves {events : List Event} (moves : ∀ event ∈ events, event.moves = true)
    : wireEvents events = [] := by
  refine List.filterMap_eq_nil_iff.mpr fun event listed => ?_
  have moved := moves event listed
  cases event <;> first | rfl | cases moved

/-- The frames handed over are shown on the wire. -/
theorem handedFrames_wireEvents (events : List Event)
    : handedFrames (wireEvents events) = handedFrames events := by
  rw [handedFrames, wireEvents, List.filterMap_filterMap, handedFrames]
  congr 1
  funext event
  cases event <;> rfl

-----------------------------------------------------------------------------------------
-- Runs of the wire that show the same
-----------------------------------------------------------------------------------------

/-- A run of the writer among senders leads from one wire to the other and shows the same. -/
def Wire.Reaches (wire : Wire) (events : List Event) (next : Wire) : Prop :=
  ∃ matching,
    wireMachine.Run wire matching next
    ∧ wireEvents (Machine.eventsOf matching) = wireEvents events

namespace Wire.Reaches

variable {wire middle next : Wire} {events more : List Event}

/-- Nothing happens to the wire. -/
theorem stays (quiet : wireEvents events = []) : wire.Reaches events wire :=
  ⟨[], .start, quiet.symm⟩

theorem step {action : WireAction} {shown : List Event}
    (taken : wire.stepAmong action = some (next, shown))
    (same : wireEvents shown = wireEvents events)
    : wire.Reaches events next :=
  ⟨[⟨wire, action, shown, next⟩], .single taken, by simpa using same⟩

theorem trans (first : wire.Reaches events middle) (second : middle.Reaches more next)
    : wire.Reaches (events ++ more) next := by
  obtain ⟨earlier, before, seen⟩ := first
  obtain ⟨later, after, shown⟩ := second
  exact ⟨earlier ++ later, before.trans after, by simp [seen, shown]⟩

/-- Events that show nothing of the wire may follow. -/
theorem quietly (reaches : wire.Reaches events next) (quiet : wireEvents more = [])
    : wire.Reaches (events ++ more) next :=
  reaches.trans (stays quiet)

theorem places (slots : Slots Sender) (quiet : wireEvents events = [])
    : wire.Reaches events { wire with slots } := by
  have taken : wire.stepAmong (.places slots) = some ({ wire with slots }, []) := rfl
  exact step taken quiet.symm

theorem push {response : EncodedResponse} (sender : 0 < wire.bulkSenders)
    (live : wire.writer.hasEnded = false)
    : wire.Reaches [.bulkQueued response] (wire.push response).1 := by
  have taken : wire.stepAmong (.bulk response) = some (wire.push response) :=
    if_pos ⟨sender, live⟩
  exact step taken rfl

theorem trySend {message : Message} (sender : wire.controlSender = true)
    : wire.Reaches (wire.trySend message).2 (wire.trySend message).1 := by
  have taken : wire.stepAmong (.control message) = some (wire.trySend message) := if_pos sender
  exact step taken rfl

theorem dropBulkSender (quiet : wireEvents events = [])
    : wire.Reaches events wire.dropBulkSender := by
  have taken : wire.stepAmong .dropBulkSender = some (wire.dropBulkSender, []) := rfl
  exact step taken quiet.symm

theorem dropControlSender (quiet : wireEvents events = [])
    : wire.Reaches events wire.dropControlSender := by
  have taken : wire.stepAmong .dropControlSender = some (wire.dropControlSender, []) := rfl
  exact step taken quiet.symm

theorem abort (quiet : wireEvents events = [])
    : wire.Reaches events { wire with aborted := true } := by
  have taken : wire.stepAmong .abort = some ({ wire with aborted := true }, []) := rfl
  exact step taken quiet.symm

end Wire.Reaches

/-- A step of `queue_ws_response` is a step of a bulk sender. -/
theorem Queueing.reaches {who : Sender} {wire next : Wire} {call : Queueing}
    {result : QueueingResult} {events : List Event} (sender : 0 < wire.bulkSenders)
    (taken : call.proceed who wire = some (result, next, events))
    : wire.Reaches events next := by
  cases proceeded_of_proceed taken with
  | dropped | encoded | closed => exact .stays rfl
  | placed live free =>
      have taken
          : wire.Reaches []
              { wire with slots := { wire.slots with permits := wire.slots.permits - 1 } } :=
        .places _ rfl
      exact taken.trans (.push sender live)
  | joined => exact .places _ rfl
  | woken => exact .places _ rfl
  | granted live => exact .push sender live

namespace BusySide

theorem reaches_leaveLine (side : BusySide) : side.wire.Reaches [] side.leaveLine := by
  unfold leaveLine
  split
  · exact .places _ rfl
  · exact .stays rfl

/-- The actor's end drops its bulk sender. -/
theorem reaches_stop {side : BusySide} {wire : Wire} {events : List Event}
    (quiet : wireEvents events = []) (reaches : side.wire.Reaches [] wire)
    : side.wire.Reaches events (side.stop wire).wire :=
  reaches.trans (.dropBulkSender quiet)

theorem reaches {context : WorkerContext} {side next : BusySide} {action : BusyActorAction}
    {events : List Event} (sender : side.actor.hasEnded = false → 0 < side.wire.bulkSenders)
    (taken : side.step context action = some (next, events))
    : side.wire.Reaches events next.wire := by
  cases stepped_of_step taken with
  | finished => exact reaches_stop (wireEvents_lose _) (.stays rfl)
  | received | inputClosed | delivered | failed => exact .stays rfl
  | replied here found answered =>
      exact .stays (wireEvents_moves (Execution.reply_moves answered))
  | encoding here answered => exact .stays (wireEvents_moves (Queueing.reply_moves answered))
  | queueing here proceeded | queued here proceeded =>
      exact Queueing.reaches (sender (BusyActor.hasEnded_of_queueing here)) proceeded
  | closed here proceeded =>
      have queued := Queueing.reaches (sender (BusyActor.hasEnded_of_queueing here)) proceeded
      exact queued.trans (.dropBulkSender (wireEvents_lose _))
  | panicked => exact reaches_stop (by simp [Event.onWire?]) side.reaches_leaveLine
  | cancelled => exact reaches_stop (wireEvents_lose _) side.reaches_leaveLine

end BusySide

theorem wireEvents_deliverByPost (response : BudgetedResponse) (result : Except BoxError Unit)
    : wireEvents (deliverByPost response result).2 = [] := by
  unfold deliverByPost
  split
  · rfl
  · simp only
    split <;> rfl

/-- A scrape task does nothing on the wire. -/
theorem ScrapePc.wireEvents_of_step {context : WorkerContext} {task : Nat} {aborted : Bool}
    {completions next : Completions} {pc pc' : ScrapePc} {action : ScrapeAction}
    {events : List Event}
    (taken : pc.step context task aborted completions action = some (pc', next, events))
    : wireEvents events = [] := by
  cases stepped_of_step taken with
  | callReplied replied | postReplied replied =>
      exact wireEvents_moves (Execution.reply_moves replied)
  | start | posting | called | sent | finished | refused => rfl
  | delivered => exact wireEvents_deliverByPost _ _
  | lost | cancelled => exact wireEvents_lose _
  | panicked => simp [Event.onWire?]

-----------------------------------------------------------------------------------------
-- The first frame
-----------------------------------------------------------------------------------------

/-- The first frame handed over is this one, or it is still the first on the control queue of
a writer that has not looked beyond it, or the writer has ended before.
-/
def Wire.First (first : Message) (events : List Event) (wire : Wire) : Prop :=
  (∃ rest, handedFrames events = .control first :: rest)
  ∨ handedFrames events = []
    ∧ (wire.writer.hasEnded = true
      ∨ wire.writer = .select ∧ wire.controlOpen = true
        ∧ ∃ rest, wire.control = first :: rest)

namespace Wire

theorem First.step {first : Message} {wire next : Wire} {action : WireAction}
    {seen events : List Event} (holds : wire.First first seen)
    (taken : wire.stepAmong action = some (next, events))
    : next.First first (seen ++ events) := by
  rcases holds with ⟨rest, handed⟩ | ⟨none, ended | ⟨here, opened, rest, queued⟩⟩
  · exact .inl ⟨rest ++ handedFrames events, by simp [handed]⟩
  · have halted : wire.writer.halted = true := by
      cases stopped : wire.writer with
      | ended => rfl
      | select | bulkTurn | sendingControl | sendingClose | sendingBulk | closingSink =>
          simp [stopped, WriterPc.hasEnded] at ended
    have quiet := (halted_of_halted taken halted).2
    have still : next.writer.hasEnded = true := by
      cases live : next.writer.hasEnded with
      | true => rfl
      | false => simp [live_of_stepAmong taken live] at ended
    exact .inr ⟨by simp [none, quiet], .inl still⟩
  · cases among_of_stepAmong taken with
    | writer taken =>
        cases stepped_of_step taken with
        | control polled open' waiting | close polled open' waiting =>
            obtain ⟨rfl, -⟩ := List.cons.inj (queued.symm.trans waiting)
            exact .inl ⟨[], by simp [none, Event.handed?]⟩
        | controlIdle polled idle => simp [queued] at idle; simp [opened] at idle
        | controlClosed polled empty => simp [queued] at empty
        | panic | cancelled =>
            exact .inr ⟨by simp [none, Event.handed?], .inl rfl⟩
        | bulk turn | bulkIdle turn | bulkClosed turn | drained turn | sentControl turn
        | sentClose turn | sentBulk turn | failedControl turn | failedClose turn
        | failedBulk turn | sinkClosed turn => simp [here] at turn
    | @control message =>
        have quiet : handedFrames (wire.trySend message).2 = [] := by
          rcases wire.trySend_cases message with shown | lost
          · rw [shown]
            rfl
          · rw [lost]
            rfl
        refine .inr ⟨by simp [none, quiet], .inr ?_⟩
        unfold trySend
        split
        · exact ⟨here, opened, rest ++ [message], by simp [queued]⟩
        · exact ⟨here, opened, rest, queued⟩
    | bulk | dropControlSender | dropBulkSender | places | abort =>
        exact .inr ⟨by simp [none, push, Event.handed?], .inr ⟨here, opened, rest, queued⟩⟩

/-- The message that is queued before the writer starts is the first frame it hands over. -/
theorem first_of_run {first : Message} {history : List (Transition Wire WireAction Event)}
    {wire : Wire} (run : wireMachine.Run (.new first) history wire)
    : wire.First first (Machine.eventsOf history) :=
  run.historyInvariant (fun seen wire => wire.First first seen)
    (.inr ⟨rfl, .inr ⟨rfl, rfl, [], rfl⟩⟩) First.step

end Wire

-----------------------------------------------------------------------------------------
-- The connection
-----------------------------------------------------------------------------------------

/-- The session still has its control sender. -/
def SessionPc.holdsControl : SessionPc → Bool
  | .select | .pinging | .reserving .. | .answering _ | .queueing _ | .joining .. | .exited _
  | .cancelling .. | .droppingBulk _ | .droppingBusy _ | .farewelling _ | .droppingControl ..
  | .droppingSelf _ => true
  | .flushing _ | .abortingWriter _ | .awaitingWriter _ | .abortingActor _
  | .awaitingActor _ | .returned _ => false

theorem Queueing.proceed_controlSender {who : Sender} {wire next : Wire} {call : Queueing}
    {result : QueueingResult} {events : List Event}
    (taken : call.proceed who wire = some (result, next, events))
    : next.controlSender = wire.controlSender := by
  cases proceeded_of_proceed taken <;> rfl

theorem BusySide.controlSender_of_step {context : WorkerContext} {side next : BusySide}
    {action : BusyActorAction} {events : List Event}
    (taken : side.step context action = some (next, events))
    : next.wire.controlSender = side.wire.controlSender := by
  have left : side.leaveLine.controlSender = side.wire.controlSender := by
    unfold leaveLine
    split <;> rfl
  cases stepped_of_step taken with
  | queueing here proceeded | queued here proceeded =>
      exact Queueing.proceed_controlSender proceeded
  | closed here proceeded =>
      have same := Queueing.proceed_controlSender proceeded
      exact same
  | panicked | cancelled => exact left
  | finished | received | inputClosed | replied | delivered | failed | encoding => rfl

namespace Connection

/-- The control sender is there as long as the session holds it. -/
def HoldsControl (c : Connection) : Prop :=
  c.session.holdsControl = true → c.wire.controlSender = true

theorem trySend_controlSender (wire : Wire) (message : Message)
    : (wire.trySend message).1.controlSender = wire.controlSender := by
  unfold Wire.trySend
  split <;> rfl

theorem HoldsControl.sessionStep {context : WorkerContext} {c next : Connection}
    {action : SessionAction} {events : List Event} (holds : c.HoldsControl)
    (taken : c.sessionStep context action = some (next, events))
    : next.HoldsControl := by
  unfold HoldsControl at *
  cases stepped_of_sessionStep taken with
  | idle => exact holds
  | left here | channelClosed here | writerEnded here | joinFailed here | aborted here
  | busy here | received here | reserving here | encoding here | refused here | reserved here
  | posted here | answered here | joinedEmpty here | joined here | droppedBulk here
  | droppedBusy here | noFarewell here =>
      rw [here] at holds
      exact fun _ => holds rfl
  | spawned here =>
      simp only [here] at holds ⊢
      exact holds
  | @offered action message session here next =>
      intro held
      rw [offer, trySend_controlSender]
      rcases here with here | here <;>
      · rw [here] at holds
        exact holds rfl
  | readied here | farewell here =>
      rw [here] at holds
      intro held
      rw [offer, trySend_controlSender]
      exact holds rfl
  | queueing here proceeded | queued here proceeded =>
      rw [here] at holds
      exact fun _ => (Queueing.proceed_controlSender proceeded).trans (holds rfl)
  | closed here proceeded =>
      rw [here] at holds
      exact fun _ => (Queueing.proceed_controlSender proceeded).trans (holds rfl)
  | leftIdle here | leftTask here =>
      rw [here] at holds
      unfold leaveTasks
      split <;> exact fun _ => holds rfl
  | flushing | notQueued | writerJoined | flushTimeout | abortedWriter | droppedSelf
  | abortedActor | returned => exact fun absent => nomatch absent

theorem HoldsControl.step {context : WorkerContext} {c next : Connection}
    {action : ConnectionAction} {events : List Event} (holds : c.HoldsControl)
    (taken : c.step context action = some (next, events))
    : next.HoldsControl := by
  cases moved_of_step taken with
  | session taken => exact holds.sessionStep taken
  | scrape => exact holds
  | busyActor stepped =>
      exact fun held => (BusySide.controlSender_of_step stepped).trans (holds held)
  | @writer action wire events stepped =>
      have kept : wire.controlSender = c.wire.controlSender := by
        cases Wire.stepped_of_step stepped <;> rfl
      exact fun held => kept.trans (holds held)

/-- A session that still has its bulk sender is one of those that are counted. -/
theorem Kept.sender {c : Connection} (kept : c.Kept) (holds : c.session.holdsBulk = true)
    : 0 < c.wire.bulkSenders := by
  have counted := kept.counted
  have one : c.session.senders = 1 := by simp [SessionPc.senders, holds]
  omega

/-- A step of the session does to the wire what one of its senders may do. -/
theorem reaches_of_sessionStep {context : WorkerContext} {c next : Connection}
    {action : SessionAction} {events : List Event} (kept : c.Kept) (holds : c.HoldsControl)
    (taken : c.sessionStep context action = some (next, events))
    : c.wire.Reaches events next.wire := by
  unfold HoldsControl at holds
  cases stepped_of_sessionStep taken with
  | idle | received | reserved | posted | answered | joinedEmpty | joined | aborted
  | droppedBusy | noFarewell | writerJoined | flushTimeout | abortedActor | returned
  | spawned | busy | refused => exact .stays rfl
  | left | channelClosed | writerEnded => exact .stays (wireEvents_lose _)
  | joinFailed => exact .stays (by simp [fail, exit])
  | reserving here answered => exact .stays (wireEvents_moves (Execution.reply_moves answered))
  | encoding here answered => exact .stays (wireEvents_moves (Queueing.reply_moves answered))
  | @offered action message session here =>
      refine .trySend (holds ?_)
      rcases here with here | here <;> rw [here] <;> rfl
  | readied here | farewell here => exact .trySend (holds (by rw [here]; rfl))
  | queueing here proceeded | queued here proceeded =>
      exact Queueing.reaches (kept.sender (by rw [here]; rfl)) proceeded
  | closed here proceeded =>
      have queued := Queueing.reaches (kept.sender (by rw [here]; rfl)) proceeded
      exact queued.quietly (wireEvents_lose _)
  | leftIdle | leftTask =>
      unfold leaveTasks
      split <;> exact .stays rfl
  | droppedBulk => exact .dropBulkSender rfl
  | flushing | notQueued => exact .dropControlSender rfl
  | abortedWriter => exact .abort rfl
  | droppedSelf =>
      have dropped : c.wire.Reaches [] c.wire.dropBulkSender := .dropBulkSender rfl
      exact dropped.trans (.dropControlSender rfl)

/-- Every step of a connection does to the wire what the writer or one of its senders may do. -/
theorem reaches_of_step {context : WorkerContext} {c next : Connection}
    {action : ConnectionAction} {events : List Event} (kept : c.Kept) (holds : c.HoldsControl)
    (taken : c.step context action = some (next, events))
    : c.wire.Reaches events next.wire := by
  cases moved_of_step taken with
  | session taken => exact reaches_of_sessionStep kept holds taken
  | scrape found stepped => exact .stays (ScrapePc.wireEvents_of_step stepped)
  | busyActor stepped =>
      refine BusySide.reaches (fun live => ?_) stepped
      have counted := kept.counted
      have one : c.actor.senders = 1 := by
        have alive : c.actor.hasEnded = false := live
        simp [BusyActor.senders, alive]
      have here : c.side.wire.bulkSenders = c.wire.bulkSenders := rfl
      omega
  | @writer action wire events stepped =>
      have among : c.wire.stepAmong (.writer action) = some (wire, events) := stepped
      exact .step among rfl

section Runs

variable {context : WorkerContext} {name : String}
  {history : List (Transition Connection ConnectionAction Event)} {c : Connection}
  (run : (connectionMachine context).Run (new context name) history c)
include run

theorem holdsControl_of_run : c.HoldsControl :=
  run.invariant HoldsControl (fun _ => rfl) HoldsControl.step

/-- Every run of a connection is, for its wire, a run of the writer among senders that begins
with the register message on the control queue.
-/
theorem refines_wire
    : ∃ matching,
        wireMachine.Run (.new (register context name)) matching c.wire
        ∧ wireEvents (Machine.eventsOf matching) = wireEvents (Machine.eventsOf history) :=
  run.refines Connection.wire Event.onWire? Event.onWire? fun reached taken =>
    reaches_of_step (kept_of_run reached) (holdsControl_of_run reached) taken

/-- Every frame that a connection hands over comes after its register message. -/
theorem registersFirst {frame : Frame} {rest : List Frame}
    (handed : handedFrames (Machine.eventsOf history) = frame :: rest)
    : frame = .control (register context name) := by
  obtain ⟨matching, wired, same⟩ := refines_wire run
  have shown : handedFrames (Machine.eventsOf matching) = frame :: rest := by
    rw [← handedFrames_wireEvents, same, handedFrames_wireEvents, handed]
  rcases Wire.first_of_run wired with ⟨more, first⟩ | ⟨none, -⟩
  · exact (List.cons.inj (shown.symm.trans first)).1
  · simp [none] at shown

end Runs

end Connection

-----------------------------------------------------------------------------------------
-- The laws of the writer
-----------------------------------------------------------------------------------------

/-- The first frame on a connection is its register message. -/
def Connection.RegistersFirst (context : WorkerContext) (name : String)
    (history : List (Transition Connection ConnectionAction Event))
    : Prop :=
  ∀ frame rest,
    handedFrames (Machine.eventsOf history) = frame :: rest
    → frame = .control (register context name)

namespace Wire

/-- The laws of the writer, among arbitrary senders, and the first frame of a connection. -/
theorem writer_ordered {senders : Nat} {history : List (Transition Wire WireAction Event)}
    {wire : Wire} (run : wireMachine.Run (start senders) history wire)
    {context : WorkerContext} {name : String}
    {past : List (Transition Connection ConnectionAction Event)} {c : Connection}
    (connected : (connectionMachine context).Run (.new context name) past c)
    : wire.Ordered history ∧ Connection.RegistersFirst context name past :=
  ⟨ordered_of_run run, fun _ _ => Connection.registersFirst connected⟩

/-- A response to the first request, as text. -/
def firstResponse : EncodedResponse :=
  { json := firstUid, reservation := ⟨5⟩, origin := .scrape,
    source := .new firstUid 200 .new }

/-- A frame is queued behind a response and sent before it; both channels are closed. -/
def bothSent : List WireAction :=
  [.bulk firstResponse, .control (.ping "worker"), .writer .pollControl, .writer .sendOk,
    .writer .pollControl, .writer .pollBulk, .writer .sendOk, .dropControlSender,
    .dropBulkSender, .writer .pollControl, .writer .pollControl, .writer .pollBulk,
    .writer .pollControl, .writer .pollBulk]

/-- The writer sends both and returns, and a connection registers. -/
theorem writer_ordered_bothSent
    : ∃ history wire past c,
        wireMachine.exec (start 1) bothSent = some (history, wire)
        ∧ Connection.exec (.bare 1) [.writer .pollControl] = some (past, c)
        ∧ sentFrames (Machine.eventsOf history) = [.control (.ping "worker"), .bulk firstResponse]
        ∧ wire.Ordered history
        ∧ Connection.RegistersFirst (.bare 1) "instance" past := by
  obtain ⟨history, wire, executed, sent⟩
      : ∃ history wire,
          wireMachine.exec (start 1) bothSent = some (history, wire)
          ∧ sentFrames (Machine.eventsOf history)
            = [.control (.ping "worker"), .bulk firstResponse] :=
    ⟨_, _, rfl, rfl⟩
  have registered : (Connection.exec (.bare 1) [.writer .pollControl]).isSome = true := rfl
  obtain ⟨⟨past, c⟩, connected⟩ := Option.isSome_iff_exists.mp registered
  refine ⟨history, wire, past, c, executed, connected, sent, ?_⟩
  exact writer_ordered (Machine.exec_run executed) (Machine.exec_run connected)

/-- A ping is queued between the two checks of the writer. -/
def queuedBetween : List WireAction :=
  [.bulk firstResponse, .writer .pollControl, .control (.ping "worker"), .writer .pollBulk]

/-- The writer may take a response although a control frame is queued. -/
theorem bulk_taken_beside_control
    : ∃ history wire,
        wireMachine.exec (start 1) queuedBetween = some (history, wire)
        ∧ ∃ take ∈ history,
            take.events = [.handed (.bulk firstResponse)]
            ∧ take.before.control = [.ping "worker"] := by
  obtain ⟨history, wire, executed, take, last, taken, queued⟩
      : ∃ history wire,
          wireMachine.exec (start 1) queuedBetween = some (history, wire)
          ∧ ∃ take, history.getLast? = some take
            ∧ take.events = [.handed (.bulk firstResponse)]
            ∧ take.before.control = [.ping "worker"] :=
    ⟨_, _, rfl, _, rfl, rfl, rfl⟩
  exact ⟨history, wire, executed, take, List.mem_of_getLast? last, taken, queued⟩

end Wire

end ProxyClient
