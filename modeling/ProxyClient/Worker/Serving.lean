import ProxyClient.Foundations.Position
import ProxyClient.Worker.SessionSteps

/-! While `Session::run` runs, nothing around it has been closed or aborted.
Only `finish` drops senders, aborts tasks and sends a `Close`, so until then every channel of
the connection is open on its sending side and the writer keeps going.
-/

namespace ProxyClient

open Foundations

/-- Nobody has closed or aborted anything of the writer's. -/
structure Wire.Serving (wire : Wire) : Prop where
  aborted : wire.aborted = false
  controlSender : wire.controlSender = true
  controlOpen : wire.controlOpen = true
  bulkOpen : wire.bulkOpen = true
  plain : ∀ message ∈ wire.control, message.isClose = false
  notSendingClose : ∀ message, wire.writer ≠ .sendingClose message
  notClosingSink : wire.writer ≠ .closingSink

namespace Wire

theorem serving_new {message : Message} (plain : message.isClose = false)
    : (new message).Serving where
  aborted := rfl
  controlSender := rfl
  controlOpen := rfl
  bulkOpen := rfl
  plain other listed := List.mem_singleton.mp listed ▸ plain
  notSendingClose := by simp [new]
  notClosingSink := by simp [new]

/-- What happens to the bulk queue and its places does not matter. -/
theorem Serving.bulk {wire : Wire} (serving : wire.Serving) (bulk : List EncodedResponse)
    (senders : Nat) (slots : Slots Sender)
    : Serving { wire with bulk, slots, bulkSenders := senders } :=
  { serving with }

/-- A plain control frame may be queued. -/
theorem Serving.trySend {wire : Wire} {message : Message} (serving : wire.Serving)
    (plain : message.isClose = false)
    : (wire.trySend message).1.Serving := by
  unfold Wire.trySend
  split
  · refine { serving with plain := ?_ }
    intro other listed
    rcases List.mem_append.mp listed with older | new
    · exact serving.plain other older
    · exact List.mem_singleton.mp new ▸ plain
  · exact serving

theorem Serving.ended {wire : Wire} {result : Except BoxError Unit} (serving : wire.Serving)
    : (wire.ended result).Serving :=
  { serving with
    plain := fun _ absent => absurd absent List.not_mem_nil
    notSendingClose := fun _ absent => WriterPc.noConfusion absent
    notClosingSink := fun absent => WriterPc.noConfusion absent }

/-- The writer itself closes nothing while its senders are there. -/
theorem Serving.step {wire next : Wire} {action : WriterAction} {events : List Event}
    (serving : wire.Serving) (senders : 0 < wire.bulkSenders)
    (taken : wire.step action = some (next, events))
    : next.Serving := by
  cases stepped_of_step taken with
  | control here opened queued plain =>
      exact { serving with
        plain := fun _ listed => serving.plain _ (queued ▸ List.mem_cons_of_mem _ listed)
        notSendingClose := fun _ absent => WriterPc.noConfusion absent
        notClosingSink := fun absent => WriterPc.noConfusion absent }
  | close here opened queued closes =>
      have plain := serving.plain _ (queued ▸ List.mem_cons_self)
      exact absurd closes (by simp [plain])
  | controlClosed here empty closed => exact absurd serving.controlSender (by simp [closed])
  | controlIdle | bulkIdle | sentControl | sentBulk | bulk =>
      exact { serving with
        notSendingClose := fun _ absent => WriterPc.noConfusion absent
        notClosingSink := fun absent => WriterPc.noConfusion absent }
  | bulkClosed here empty closed => exact absurd senders (by simp [closed])
  | drained here control => exact absurd serving.controlOpen (by simp [control])
  | sentClose here | failedClose here => exact absurd here (serving.notSendingClose _)
  | sinkClosed here => exact absurd here serving.notClosingSink
  | failedControl | failedBulk | panic | cancelled => exact serving.ended

theorem step_senders {wire next : Wire} {action : WriterAction} {events : List Event}
    (taken : wire.step action = some (next, events))
    : next.bulkSenders = wire.bulkSenders := by
  cases stepped_of_step taken <;> rfl

theorem live_of_step {wire next : Wire} {action : WriterAction} {events : List Event}
    (taken : wire.step action = some (next, events))
    : wire.writer.hasEnded = false := by
  cases stepped_of_step taken with
  | panic live | cancelled aborted live => exact live
  | control here | close here | controlIdle here | controlClosed here | bulk here
  | bulkIdle here | bulkClosed here | drained here | sentControl here | sentClose here
  | sentBulk here | failedControl here | failedClose here | failedBulk here
  | sinkClosed here => rw [here]; rfl

end Wire

/-- `queue_ws_response` uses the bulk queue alone. -/
theorem Queueing.proceed_serving {who : Sender} {wire next : Wire} {call : Queueing}
    {result : QueueingResult} {events : List Event}
    (taken : call.proceed who wire = some (result, next, events))
    : (wire.Serving → next.Serving) ∧ next.bulkSenders = wire.bulkSenders := by
  cases proceeded_of_proceed taken with
  | dropped | encoded | closed => exact ⟨id, rfl⟩
  | placed | joined | woken | granted => exact ⟨fun serving => { serving with }, rfl⟩

/-- The bulk senders that the actor holds. -/
def BusyActor.senders (actor : BusyActor) : Nat := if actor.hasEnded then 0 else 1

namespace BusySide

theorem leaveLine_serving (side : BusySide)
    : (side.wire.Serving → side.leaveLine.Serving)
      ∧ side.leaveLine.bulkSenders = side.wire.bulkSenders := by
  unfold leaveLine
  split
  · exact ⟨fun serving => { serving with }, rfl⟩
  · exact ⟨id, rfl⟩

/-- The actor drops its own bulk sender when it ends, and touches nothing else of the wire's
but the bulk queue; its input stays open while the session has the other end.
-/
structure Serves (side next : BusySide) : Prop where
  wire : side.wire.Serving → next.wire.Serving
  counted
    : ∀ others,
        side.wire.bulkSenders = others + side.actor.senders
        → next.wire.bulkSenders = others + next.actor.senders
  sender : next.busy.sender = side.busy.sender
  aborted : next.actor.aborted = side.actor.aborted
  inputOpen : side.busy.sender = true → next.actor.inputOpen = side.actor.inputOpen

/-- The actor goes on, after it has used at most the bulk queue. -/
theorem Serves.live {side : BusySide} {actor : BusyActor} {queue : List BudgetedResponse}
    {wire : Wire} (before : side.actor.hasEnded = false) (after : actor.hasEnded = false)
    (aborted : actor.aborted = side.actor.aborted)
    (inputOpen : actor.inputOpen = side.actor.inputOpen)
    (served : (side.wire.Serving → wire.Serving) ∧ wire.bulkSenders = side.wire.bulkSenders)
    : side.Serves { actor, busy := { side.busy with queue }, wire } where
  wire := served.1
  counted others counted := by
    simpa [BusyActor.senders, before, after, served.2] using counted
  sender := rfl
  aborted := aborted
  inputOpen _ := inputOpen

/-- The actor ends. -/
theorem Serves.stopped {side : BusySide} {wire : Wire} (live : side.actor.hasEnded = false)
    (served : (side.wire.Serving → wire.Serving) ∧ wire.bulkSenders = side.wire.bulkSenders)
    : side.Serves (side.stop wire) where
  wire serving := { served.1 serving with }
  counted others counted := by
    simp only [BusyActor.senders, live] at counted
    simp [stop, Wire.dropBulkSender, served.2, counted, BusyActor.senders, BusyActor.hasEnded]
  sender := rfl
  aborted := rfl
  inputOpen _ := rfl

theorem serves_of_step {context : WorkerContext} {side next : BusySide}
    {action : BusyActorAction} {events : List Event}
    (taken : side.step context action = some (next, events))
    : side.Serves next := by
  cases stepped_of_step taken with
  | finished here => exact .stopped (BusyActor.hasEnded_of_top here) ⟨id, rfl⟩
  | received here | replied here | delivered here =>
      have live := BusyActor.hasEnded_of_top here
      exact .live live live rfl rfl ⟨id, rfl⟩
  | inputClosed here empty closed =>
      exact ⟨id, fun _ => id, rfl, rfl, fun sender => absurd sender (by simp [closed])⟩
  | failed here => exact .live (BusyActor.hasEnded_of_top here) rfl rfl rfl ⟨id, rfl⟩
  | encoding here => exact .live (BusyActor.hasEnded_of_queueing here) rfl rfl rfl ⟨id, rfl⟩
  | queueing here proceeded | queued here proceeded =>
      have live := BusyActor.hasEnded_of_queueing here
      exact .live live rfl rfl rfl (Queueing.proceed_serving proceeded)
  | closed here proceeded =>
      have live := BusyActor.hasEnded_of_queueing here
      exact .stopped live (Queueing.proceed_serving proceeded)
  | panicked live | cancelled abort live => exact .stopped live side.leaveLine_serving

theorem writer_of_step {context : WorkerContext} {side next : BusySide}
    {action : BusyActorAction} {events : List Event}
    (taken : side.step context action = some (next, events))
    : next.wire.writer = side.wire.writer := by
  cases stepped_of_step taken with
  | queueing here proceeded | queued here proceeded => exact Queueing.proceed_writer proceeded
  | closed here proceeded =>
      have same := Queueing.proceed_writer proceeded
      exact same
  | panicked | cancelled => exact side.leaveLine_same.2
  | finished | received | inputClosed | replied | delivered | failed | encoding => rfl

end BusySide

-----------------------------------------------------------------------------------------
-- The connection
-----------------------------------------------------------------------------------------

/-- The session still has its bulk sender. -/
def SessionPc.holdsBulk : SessionPc → Bool
  | .select | .pinging | .reserving .. | .answering _ | .queueing _ | .joining .. | .exited _
  | .cancelling .. | .droppingBulk _ | .droppingSelf _ => true
  | .droppingBusy _ | .farewelling _ | .droppingControl .. | .flushing _ | .abortingWriter _
  | .awaitingWriter _ | .abortingActor _ | .awaitingActor _ | .returned _ => false

def SessionPc.senders (session : SessionPc) : Nat := if session.holdsBulk then 1 else 0

namespace Connection

/-- Nothing around the session has been closed or aborted. -/
structure Serving (c : Connection) : Prop where
  wire : c.wire.Serving
  tasks : ∀ task ∈ c.tasks, task.aborted = false
  actorAborted : c.actor.aborted = false
  inputOpen : c.actor.inputOpen = true
  busySender : c.busy.sender = true
  notDone : c.writerDone = false
  notYielded : c.writerYielded = false

/-- Every bulk sender is counted, and while `run` runs the connection is serving. -/
structure Kept (c : Connection) : Prop where
  counted : c.wire.bulkSenders = c.session.senders + c.actor.senders
  serving : c.session.running = true → c.Serving

theorem kept_new {context : WorkerContext} {name : String} : (new context name).Kept where
  counted := rfl
  serving _ := {
    wire := Wire.serving_new rfl
    tasks := fun _ absent => absurd absent List.not_mem_nil
    actorAborted := rfl
    inputOpen := rfl
    busySender := rfl
    notDone := rfl
    notYielded := rfl
  }

theorem SessionPc.senders_of_running {session : SessionPc} (running : session.running = true)
    : session.senders = 1 := by
  cases session <;> first | rfl | cases running

/-- What a step of the session does to the senders and flags around it. -/
structure Serves (c next : Connection) : Prop where
  counted
    : ∀ others,
        c.wire.bulkSenders = c.session.senders + others
        → next.wire.bulkSenders = next.session.senders + others
  actor : next.actor.senders = c.actor.senders
  running : next.session.running = true → c.session.running = true
  serving : next.session.running = true → c.Serving → next.Serving

/-- The session stays inside `run`, and may have used the bulk queue. -/
theorem Serves.inside {c next : Connection} (before : c.session.running = true)
    (after : next.session.running = true)
    (wire : (c.wire.Serving → next.wire.Serving) ∧ next.wire.bulkSenders = c.wire.bulkSenders)
    (tasks : ∀ task ∈ next.tasks, task ∈ c.tasks ∨ task.aborted = false)
    (actor : next.actor = c.actor) (sender : next.busy.sender = c.busy.sender)
    (done : next.writerDone = c.writerDone) (yielded : next.writerYielded = c.writerYielded)
    : c.Serves next where
  counted others counted := by
    rw [wire.2, counted, SessionPc.senders_of_running before, SessionPc.senders_of_running after]
  actor := by rw [actor]
  running _ := before
  serving _ serving := {
    wire := wire.1 serving.wire
    tasks := fun task listed => (tasks task listed).elim (serving.tasks task) id
    actorAborted := actor ▸ serving.actorAborted
    inputOpen := actor ▸ serving.inputOpen
    busySender := sender ▸ serving.busySender
    notDone := done ▸ serving.notDone
    notYielded := yielded ▸ serving.notYielded
  }

/-- The session is outside `run` after the step. -/
theorem Serves.outside {c next : Connection} (after : next.session.running = false)
    (counted
      : ∀ others,
          c.wire.bulkSenders = c.session.senders + others
          → next.wire.bulkSenders = next.session.senders + others)
    (actor : next.actor.senders = c.actor.senders)
    : c.Serves next where
  counted := counted
  actor := actor
  running running := absurd running (by simp [after])
  serving running := absurd running (by simp [after])

theorem trySend_senders (wire : Wire) (message : Message)
    : (wire.trySend message).1.bulkSenders = wire.bulkSenders := by
  unfold Wire.trySend
  split <;> rfl

/-- Every step of the session serves, by cases on what it can do. -/
theorem serves_of_step {context : WorkerContext} {c next : Connection}
    {action : SessionAction} {events : List Event}
    (taken : c.sessionStep context action = some (next, events))
    : c.Serves next := by
  cases stepped_of_sessionStep taken with
  | idle => exact ⟨fun _ => id, rfl, id, fun _ => id⟩
  | left here | channelClosed here | writerEnded here | joinFailed here =>
      refine .outside rfl (fun others counted => ?_) rfl
      rw [here] at counted
      exact counted
  | @offered action message session here next plain =>
      have before : c.session.running = true := by
        rcases here with here | here <;> rw [here] <;> rfl
      have after : session.running = true := by rcases next with rfl | rfl <;> rfl
      exact .inside before after
        ⟨fun serving => serving.trySend plain, trySend_senders c.wire message⟩
        (fun _ => .inl) rfl rfl rfl rfl
  | readied here =>
      exact .inside (by rw [here]; rfl) rfl
        ⟨fun serving => serving.trySend rfl, trySend_senders c.wire _⟩
        (fun _ => .inl) rfl rfl rfl rfl
  | spawned here idle =>
      refine .inside (by rw [here]; rfl) (by simp [here]; rfl) ⟨id, rfl⟩ ?_ rfl rfl rfl rfl
      intro task listed
      rcases List.mem_append.mp listed with older | new
      · exact .inl older
      · exact .inr (List.mem_singleton.mp new ▸ rfl)
  | busy here | received here | reserving here | encoding here | refused here | reserved here
  | posted here | answered here | joinedEmpty here | joined here =>
      exact .inside (by rw [here]; rfl) rfl ⟨id, rfl⟩ (fun _ => .inl) rfl rfl rfl rfl
  | queueing here proceeded | queued here proceeded =>
      exact .inside (by rw [here]; rfl) rfl (Queueing.proceed_serving proceeded)
        (fun _ => .inl) rfl rfl rfl rfl
  | closed here proceeded =>
      refine .outside rfl (fun others counted => ?_) rfl
      rw [here] at counted
      exact (Queueing.proceed_serving proceeded).2.trans counted
  | aborted here | noFarewell here | flushing here | notQueued here | flushTimeout here
  | droppedBusy here | abortedWriter here | abortedActor here | returned here =>
      refine .outside rfl (fun others counted => ?_) rfl
      rw [here] at counted
      exact counted
  | leftIdle here | leftTask here =>
      unfold leaveTasks
      split <;>
      · refine .outside rfl (fun others counted => ?_) rfl
        rw [here] at counted
        exact counted
  | writerJoined here =>
      refine .outside rfl (fun others counted => ?_) rfl
      rcases here with here | here <;>
      · rw [here] at counted
        exact counted
  | farewell here given =>
      refine .outside rfl (fun others counted => ?_) rfl
      rw [here] at counted
      exact (trySend_senders c.wire _).trans counted
  | droppedBulk here | droppedSelf here =>
      refine .outside rfl (fun others counted => ?_) rfl
      rw [here] at counted
      have one : c.wire.bulkSenders = 1 + others := counted
      simp [Wire.dropBulkSender, Wire.dropControlSender, one, SessionPc.senders,
        SessionPc.holdsBulk]

/-- Every step keeps count of the bulk senders and, while `run` runs, closes nothing. -/
theorem Kept.step {context : WorkerContext} {c next : Connection} {action : ConnectionAction}
    {events : List Event} (kept : c.Kept)
    (taken : c.step context action = some (next, events))
    : next.Kept := by
  cases moved_of_step taken with
  | session taken =>
      have serves := serves_of_step taken
      refine { counted := ?_, serving := fun running => ?_ }
      · rw [serves.actor]
        exact serves.counted _ kept.counted
      · exact serves.serving running (kept.serving (serves.running running))
  | @scrape task action scrape pc completions events found stepped =>
      obtain ⟨front, back, opened⟩ := opened_of_getElem? found
      refine { kept with serving := fun running => ?_ }
      refine { kept.serving running with tasks := ?_ }
      have unaborted := (kept.serving running).tasks
      simp only [opened.replaced]
      exact opened.forall_replaced unaborted (unaborted scrape opened.entry_mem)
  | busyActor stepped =>
      have serves := BusySide.serves_of_step stepped
      refine { counted := serves.counted _ kept.counted, serving := fun running => ?_ }
      have serving := kept.serving running
      exact { serving with
        wire := serves.wire serving.wire
        actorAborted := serves.aborted.trans serving.actorAborted
        inputOpen := (serves.inputOpen serving.busySender).trans serving.inputOpen
        busySender := serves.sender.trans serving.busySender }
  | writer stepped =>
      have senders := Wire.step_senders stepped
      refine { counted := senders.trans kept.counted, serving := fun running => ?_ }
      have serving := kept.serving running
      have counted := kept.counted
      rw [SessionPc.senders_of_running running] at counted
      exact { serving with wire := serving.wire.step (by omega) stepped }

theorem kept_of_run {context : WorkerContext} {name : String}
    {history : List (Transition Connection ConnectionAction Event)} {c : Connection}
    (run : (connectionMachine context).Run (new context name) history c)
    : c.Kept :=
  run.invariant Kept kept_new Kept.step

/-- `run` does not start again. -/
theorem running_of_step {context : WorkerContext} {c next : Connection}
    {action : ConnectionAction} {events : List Event}
    (taken : c.step context action = some (next, events))
    (running : next.session.running = true)
    : c.session.running = true := by
  cases moved_of_step taken with
  | session taken => exact (serves_of_step taken).running running
  | scrape => exact running
  | busyActor | writer =>
      exact running

/-- Only its own steps move the writer. -/
theorem writer_of_step {context : WorkerContext} {c next : Connection}
    {action : ConnectionAction} {events : List Event}
    (taken : c.step context action = some (next, events))
    (other : ∀ step, action ≠ .writer step)
    : next.wire.writer = c.wire.writer := by
  cases moved_of_step taken with
  | session taken =>
      cases stepped_of_sessionStep taken with
      | offered | readied | farewell => exact (Wire.trySend_same c.wire _).2.2
      | queueing here proceeded | queued here proceeded =>
          exact Queueing.proceed_writer proceeded
      | closed here proceeded =>
          have same := Queueing.proceed_writer proceeded
          exact same
      | leftIdle | leftTask =>
          unfold leaveTasks
          split <;> rfl
      | idle | left | channelClosed | writerEnded | spawned | busy | received | reserving
      | encoding | refused | reserved | posted | answered | joinedEmpty | joined | joinFailed
      | aborted | droppedBulk | droppedBusy | noFarewell | flushing | notQueued | writerJoined
      | flushTimeout | abortedWriter | droppedSelf | abortedActor | returned => rfl
  | scrape => rfl
  | busyActor stepped => exact BusySide.writer_of_step stepped
  | @writer step wire events stepped => exact absurd rfl (other step)

/-- The writer does not start again. -/
theorem live_of_step {context : WorkerContext} {c next : Connection}
    {action : ConnectionAction} {events : List Event}
    (taken : c.step context action = some (next, events))
    (live : next.wire.writer.hasEnded = false)
    : c.wire.writer.hasEnded = false := by
  by_cases own : ∃ step, action = .writer step
  · obtain ⟨step, rfl⟩ := own
    obtain ⟨⟨wire, events'⟩, stepped, -⟩ := Option.map_eq_some_iff.mp taken
    exact Wire.live_of_step stepped
  · rw [← writer_of_step taken fun step same => own ⟨step, same⟩]
    exact live

end Connection

end ProxyClient
