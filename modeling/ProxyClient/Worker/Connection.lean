import ProxyClient.Foundations.Machine
import ProxyClient.Worker.BusyActor

/-! One connection: `Session::run`, `Session::finish` and the tasks around them.
Every step is one thing the session task, a scrape task, the busy-response actor or the
writer does between two points where another of them may run.
-/

namespace ProxyClient

open Foundations Memory

/-- A frame the session reads. -/
inductive ServerFrame
  /-- A text frame; `none` when it is no JSON message. -/
  | text (message : Option IncomingMessage)
  | ping (payload : String)
  | pong
  | close (frame : Option (Nat × String))
  /-- A binary or raw frame. -/
  | unsupported
  /-- The socket yields an error. -/
  | failed
  /-- The stream ends. -/
  | finished

/-- `close_message(CloseCode::Away, reason)`. -/
def closeAway (reason : String) : Message := .close (some (1001, reason))

/-- What `Session::run` returns, and the farewell frame for `finish`, which is a `Close`. -/
structure Ending where
  result : Except BoxError Unit
  farewell : Option Message
  closes : ∀ message ∈ farewell, message.isClose = true := by rintro _ ⟨⟩ <;> rfl

/-- Where the session task stands: in `run`, in `finish`, or after it. -/
inductive SessionPc
  /-- In the `select!` of `run`. -/
  | select
  /-- The heartbeat branch has sent its ping text; its ping frame is next. -/
  | pinging
  /-- A request too many: `BudgetedResponse::try_new`. -/
  | reserving (uid : RustString) (execution : Execution (Except MemoryBudgetError BudgetedResponse))
  /-- `answer_busy`. -/
  | answering (response : BudgetedResponse)
  | queueing (queueing : Queueing)
  /-- `task.await` of the completion branch. -/
  | joining (task : Nat) (response : Option BudgetedResponse)
  /-- `run` has returned; `finish` takes the active task. -/
  | exited (ending : Ending)
  /-- `task.await` of `finish`. -/
  | cancelling (task : Nat) (ending : Ending)
  | droppingBulk (ending : Ending)
  | droppingBusy (ending : Ending)
  /-- `control.try_send` of the farewell. -/
  | farewelling (ending : Ending)
  | droppingControl (queued : Bool) (result : Except BoxError Unit)
  /-- The writer is awaited for at most `close_timeout`. -/
  | flushing (result : Except BoxError Unit)
  /-- `writer.abort()`. -/
  | abortingWriter (result : Except BoxError Unit)
  | awaitingWriter (result : Except BoxError Unit)
  /-- `finish` returns early; the session's fields are dropped. -/
  | droppingSelf (result : Except BoxError Unit)
  /-- `busy_response_actor.abort()`. -/
  | abortingActor (result : Except BoxError Unit)
  | awaitingActor (result : Except BoxError Unit)
  /-- `run_connection` has returned. -/
  | returned (result : Except BoxError Unit)

namespace SessionPc

/-- `Session::run` has not returned. -/
def running : SessionPc → Bool
  | .select | .pinging | .reserving .. | .answering _ | .queueing _ | .joining .. => true
  | .exited _ | .cancelling .. | .droppingBulk _ | .droppingBusy _ | .farewelling _
  | .droppingControl .. | .flushing _ | .abortingWriter _ | .awaitingWriter _
  | .droppingSelf _ | .abortingActor _ | .awaitingActor _ | .returned _ => false

/-- The operation that the session performs next. -/
def computes : SessionPc → Option Op
  | .reserving _ execution => execution.pending?
  | .queueing call => call.computes
  | .select | .pinging | .answering _ | .joining .. | .exited _ | .cancelling ..
  | .droppingBulk _ | .droppingBusy _ | .farewelling _ | .droppingControl .. | .flushing _
  | .abortingWriter _ | .awaitingWriter _ | .droppingSelf _ | .abortingActor _
  | .awaitingActor _ | .returned _ => none

/-- What the session holds. -/
def pieces : SessionPc → List Piece
  | .reserving uid execution => [⟨.busy, uid.text, execution.ghost⟩]
  | .answering response => [response.piece .busy]
  | .queueing call => [call.piece]
  | .joining _ response => response.toList.map (BudgetedResponse.piece .scrape)
  | .select | .pinging | .exited _ | .cancelling .. | .droppingBulk _ | .droppingBusy _
  | .farewelling _ | .droppingControl .. | .flushing _ | .abortingWriter _
  | .awaitingWriter _ | .droppingSelf _ | .abortingActor _ | .awaitingActor _
  | .returned _ => []

end SessionPc

/-- A connection after `run_connection` has spawned its tasks. Scrape tasks are numbered in
the order of their spawning, and an ended one keeps its number.
-/
structure Connection where
  session : SessionPc
  activeTask : Option Nat
  tasks : List ScrapeTask
  completions : List (Nat × Option BudgetedResponse)
  actor : BusyActor
  busy : BusyQueue
  wire : Wire
  writerDone : Bool
  /-- The writer's `JoinHandle` has yielded its result. -/
  writerYielded : Bool

/-- A step of the session task. -/
inductive SessionAction
  | shutdown
  | writerEnded
  /-- A heartbeat tick, and whether the server has been silent for too long. -/
  | heartbeat (timedOut : Bool)
  | completion
  | read (frame : ServerFrame)
  /-- An operation of `try_new` or of `queue_ws_response` is answered. -/
  | reply (reply : Reply)
  /-- The session goes on with what it is doing outside its `select!`. -/
  | proceed
  /-- `close_timeout` elapses. -/
  | flushTimeout

/-- A step of a connection. -/
inductive ConnectionAction
  | session (action : SessionAction)
  | scrape (task : Nat) (action : ScrapeAction)
  | busyActor (action : BusyActorAction)
  | writer (action : WriterAction)

namespace Connection

/-- The register message of a connection. -/
def register (context : WorkerContext) (name : String) : Message :=
  .text (.register context.protocol name context.workerName)

/-- `run_connection` when the session starts. -/
def new (context : WorkerContext) (name : String) : Connection :=
  { session := .select, activeTask := none, tasks := [], completions := [], actor := .new,
    busy := { queue := [], sender := true }, wire := .new (register context name),
    writerDone := false, writerYielded := false }

/-- The completion channel as the scrape tasks see it. -/
def channel (c : Connection) : Completions :=
  { queue := c.completions, received := c.session.running }

/-- The senders of the completion channel: `run` keeps its own, and every task has a clone. -/
def completionSenders (c : Connection) : Nat :=
  (if c.session.running then 1 else 0) + c.tasks.countP (fun task => !task.pc.hasEnded)

/-- The part of the connection that the busy-response actor's steps touch. -/
def side (c : Connection) : BusySide := { actor := c.actor, busy := c.busy, wire := c.wire }

/-- Everything a connection holds. -/
def pieces (c : Connection) : List Piece :=
  c.session.pieces ++ c.tasks.flatMap (fun task => task.pc.pieces) ++ c.channel.pieces
    ++ c.side.pieces

/-- `Session::run` returns, which drops the receiver of the completion channel. -/
def exit (c : Connection) (ending : Ending) : Connection × List Event :=
  ({ c with session := .exited ending, completions := [] }, lose c.channel.pieces)

/-- `Session::run` returns an error and no farewell. -/
def fail (c : Connection) (error : BoxError) : Connection × List Event :=
  c.exit { result := .error error, farewell := none }

/-- The session offers a control frame, which may be lost, and goes on. -/
def offer (c : Connection) (message : Message) (session : SessionPc)
    : Connection × List Event :=
  let (wire, events) := c.wire.trySend message
  ({ c with wire, session }, events)

/-- `handle_text` for a valid message. -/
def handleMessage (context : WorkerContext) (c : Connection)
    : IncomingMessage → Connection × List Event
  | .ping => c.offer (.text .pong) .select
  | .pong | .unknown => (c, [])
  | .ready uid =>
      if context.protocol ≥ 2 ∧ c.activeTask.isNone then
        c.offer (.text (.ready uid.text context.workerName)) .select
      else (c, [])
  | .request uid resource =>
      if c.activeTask.isSome then
        ({ c with session := .reserving uid (.begin (BudgetedResponse.tryNew uid 503 .new)) },
          [.requested .busy uid.text])
      else
        ({ c with tasks := c.tasks ++ [{ pc := .spawned uid resource, aborted := false }],
                  activeTask := some c.tasks.length },
          [.requested .scrape uid.text])

/-- `handle_text`. -/
def handleText (context : WorkerContext) (c : Connection) (message : Option IncomingMessage)
    : Connection × List Event :=
  match message with
  | none => (c, [])
  | some incoming =>
      match incoming.validate with
      | .error _ => (c, [])
      | .ok () => c.handleMessage context incoming

/-- The read branch of `run`. -/
def handleFrame (context : WorkerContext) (c : Connection) : ServerFrame → Connection × List Event
  | .text message => c.handleText context message
  | .ping payload => c.offer (.pong payload) .select
  | .pong | .unsupported => (c, [])
  | .close frame => c.exit { result := .ok (), farewell := some (.close frame) }
  | .failed => c.fail .socket
  | .finished => c.fail (.text "websocket closed without a close frame")

/-- The writer branch of `run`: an ended writer ends the session. -/
def writerError : Except BoxError Unit → BoxError
  | .ok () => .text "websocket writer stopped"
  | .error error => error

/-- The completion branch of `run` up to its `task.await`. -/
def handleCompletion (c : Connection) : Option (Connection × List Event) :=
  match c.activeTask, c.completions with
  | none, _ => none
  | some _, [] =>
      if c.completionSenders = 0 then some (c.fail (.text "resource task channel closed"))
      else none
  | some task, (_, response) :: completions =>
      some ({ c with session := .joining task response, activeTask := none, completions }, [])

/-- The rest of the completion branch, once the scrape task has ended. -/
def handleJoined (c : Connection) (response : Option BudgetedResponse) (result : TaskResult)
    : Connection × List Event :=
  let rest := { c with session := .select }
  match result, response with
  | .completed, none => (rest, [])
  | .completed, some response =>
      ({ c with session := .queueing (.start .scrape response) }, [])
  | .panicked, _ | .cancelled, _ =>
      let (next, events) := rest.fail .join
      (next, lose c.session.pieces ++ events)

/-- `answer_busy` up to `queue_ws_response`. -/
def answerBusy (context : WorkerContext) (c : Connection) (response : BudgetedResponse)
    : Connection :=
  if context.protocol = 3 ∧ c.actor.hasEnded = false
      ∧ c.busy.queue.length < busyResponseQueueCapacity then
    { c with session := .select, busy := { c.busy with queue := c.busy.queue ++ [response] } }
  else { c with session := .queueing (.start .busy response) }

/-- The end of the scrape task that is awaited. -/
def taskResult? (c : Connection) (task : Nat) : Option TaskResult :=
  match c.tasks[task]? with
  | some { pc := .ended result, .. } => some result
  | _ => none

/-- The scrape tasks after one of them is aborted. -/
def abortTask (c : Connection) (task : Nat) : List ScrapeTask :=
  match c.tasks[task]? with
  | some scrape => c.tasks.set task { scrape with aborted := true }
  | none => c.tasks

/-- `finish` after the scrape task: it returns early when the writer is done. -/
def leaveTasks (c : Connection) (ending : Ending) : Connection :=
  if c.writerDone then { c with session := .droppingSelf ending.result }
  else { c with session := .droppingBulk ending }

/-- The session outside its `select!`: the rest of a branch of `run`, and `finish`. -/
def proceed (context : WorkerContext) (c : Connection) : Option (Connection × List Event) :=
  match c.session with
  | .select => none
  | .pinging => some (c.offer (.ping context.workerName) .select)
  | .reserving uid execution =>
      execution.result?.map fun
        | .error error =>
            ({ c with session := .select }, [.dropped .busy uid.text (.busyResponse error)])
        | .ok response => ({ c with session := .answering response }, [])
  | .answering response => some (c.answerBusy context response, [])
  | .queueing queueing =>
      (queueing.proceed .session c.wire).map fun
        | (.again queueing, wire, events) =>
            ({ c with session := .queueing queueing, wire }, events)
        | (.finished, wire, events) => ({ c with session := .select, wire }, events)
        | (.closed, wire, events) =>
            let rest := { c with session := .select, wire }
            let (next, lost) := rest.fail (.text "websocket writer stopped")
            (next, events ++ lost)
  | .joining task response => (c.taskResult? task).map (c.handleJoined response)
  | .exited ending =>
      match c.activeTask with
      | some task =>
          some ({ c with session := .cancelling task ending, activeTask := none,
                         tasks := c.abortTask task }, [])
      | none => some (c.leaveTasks ending, [])
  | .cancelling task ending => (c.taskResult? task).map fun _ => (c.leaveTasks ending, [])
  | .droppingBulk ending =>
      some ({ c with session := .droppingBusy ending, wire := c.wire.dropBulkSender }, [])
  | .droppingBusy ending =>
      some ({ c with session := .farewelling ending, busy := { c.busy with sender := false } }, [])
  | .farewelling ending =>
      match ending.farewell with
      | some message =>
          some (c.offer message (.droppingControl c.wire.controlRoom ending.result))
      | none => some ({ c with session := .droppingControl false ending.result }, [])
  | .droppingControl queued result =>
      let session := if queued then .flushing result else .abortingWriter result
      some ({ c with session, wire := c.wire.dropControlSender }, [])
  | .flushing result =>
      if c.wire.writer.hasEnded then
        some ({ c with session := .abortingActor result, writerYielded := true }, [])
      else none
  | .abortingWriter result =>
      some ({ c with session := .awaitingWriter result, wire := { c.wire with aborted := true } },
        [])
  | .awaitingWriter result =>
      if c.wire.writer.hasEnded then
        some ({ c with session := .abortingActor result, writerYielded := true }, [])
      else none
  | .droppingSelf result =>
      some ({ c with session := .abortingActor result, busy := { c.busy with sender := false },
                     wire := c.wire.dropBulkSender.dropControlSender }, [])
  | .abortingActor result =>
      some ({ c with session := .awaitingActor result, actor := { c.actor with aborted := true } },
        [])
  | .awaitingActor result =>
      if c.actor.hasEnded then some ({ c with session := .returned result }, []) else none
  | .returned _ => none

/-- A step of the session task. -/
def sessionStep (context : WorkerContext) (c : Connection)
    : SessionAction → Option (Connection × List Event)
  | .shutdown =>
      match c.session with
      | .select => some (c.exit { result := .ok (), farewell := some (closeAway "client shutdown") })
      | _ => none
  | .writerEnded =>
      match c.session, c.wire.writer with
      | .select, .ended result =>
          let polled := { c with writerDone := true, writerYielded := true }
          some (polled.fail (writerError result))
      | _, _ => none
  | .heartbeat timedOut =>
      match c.session with
      | .select =>
          if timedOut then
            some (c.exit { result := .error (.text "websocket heartbeat timed out"),
                           farewell := some (closeAway "heartbeat timeout") })
          else some (c.offer (.text .ping) .pinging)
      | _ => none
  | .completion =>
      match c.session with
      | .select => c.handleCompletion
      | _ => none
  | .read frame =>
      match c.session with
      | .select => some (c.handleFrame context frame)
      | _ => none
  | .reply reply =>
      match c.session with
      | .reserving uid execution =>
          (execution.reply reply).map fun (execution, events) =>
            ({ c with session := .reserving uid execution }, events)
      | .queueing queueing =>
          (queueing.reply reply).map fun (queueing, events) =>
            ({ c with session := .queueing queueing }, events)
      | _ => none
  | .proceed => c.proceed context
  | .flushTimeout =>
      match c.session with
      | .flushing result => some ({ c with session := .abortingWriter result }, [])
      | _ => none

/-- A step of the scrape task with number `task`. -/
def scrapeStep (context : WorkerContext) (c : Connection) (task : Nat) (action : ScrapeAction)
    : Option (Connection × List Event) :=
  match c.tasks[task]? with
  | none => none
  | some scrape =>
      (scrape.pc.step context task scrape.aborted c.channel action).map
        fun (pc, completions, events) =>
          ({ c with tasks := c.tasks.set task { scrape with pc },
                    completions := completions.queue }, events)

/-- A step of the busy-response actor. -/
def busyActorStep (context : WorkerContext) (c : Connection) (action : BusyActorAction)
    : Option (Connection × List Event) :=
  (c.side.step context action).map fun (side, events) =>
    ({ c with actor := side.actor, busy := side.busy, wire := side.wire }, events)

/-- A step of the writer. -/
def writerStep (c : Connection) (action : WriterAction) : Option (Connection × List Event) :=
  (c.wire.step action).map fun (wire, events) => ({ c with wire }, events)

/-- A step of any of the connection's tasks. -/
def step (context : WorkerContext) (c : Connection)
    : ConnectionAction → Option (Connection × List Event)
  | .session action => c.sessionStep context action
  | .scrape task action => c.scrapeStep context task action
  | .busyActor action => c.busyActorStep context action
  | .writer action => c.writerStep action

end Connection

/-- One connection of a worker as a machine. -/
def connectionMachine (context : WorkerContext) : Machine Connection ConnectionAction Event where
  step := fun c action => c.step context action

-----------------------------------------------------------------------------------------
-- Concrete connections
-----------------------------------------------------------------------------------------

/-- A worker whose configuration lists no resource, so that a scrape needs no exporter. -/
def WorkerContext.bare (protocol : Nat) : WorkerContext :=
  { protocol, resources := fun _ => none, workerName := "worker",
    responseUrl := fun uid => .ok ("http://localhost/response/" ++ uid), cfHeaders := .ok () }

/-- The name of a resource that no configuration lists. -/
def absentResource : RustString := ⟨"absent", 6, by decide, by decide⟩

def firstUid : RustString := ⟨"first", 5, by decide, by decide⟩
def secondUid : RustString := ⟨"second", 6, by decide, by decide⟩

/-- A `Request` frame for the absent resource. -/
def requestFrame (uid : RustString) : ServerFrame := .text (some (.request uid absentResource))

/-- A new connection follows a list of steps. -/
def Connection.exec (context : WorkerContext) (actions : List ConnectionAction)
    : Option (List (Transition Connection ConnectionAction Event) × Connection) :=
  (connectionMachine context).exec (.new context "instance") actions

end ProxyClient
