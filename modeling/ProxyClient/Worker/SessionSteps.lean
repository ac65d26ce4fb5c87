import ProxyClient.Worker.Connection

/-! What one step of the session task can do to its connection. -/

namespace ProxyClient

open Foundations Memory

namespace Connection

/-- A proof view of `Connection.sessionStep`: one constructor for each outcome, where branches
of `run` that end it alike, or only offer a control frame, share one.
-/
inductive Stepped (context : WorkerContext) (c : Connection)
    : SessionAction → Connection → List Event → Prop
  -- `run` in its `select!`
  | idle {action} (here : c.session = .select) : Stepped context c action c []
  | left {action ending} (here : c.session = .select)
    : Stepped context c action (c.exit ending).1 (c.exit ending).2
  | channelClosed {action ending} (here : c.session = .select)
    (active : c.activeTask.isSome) (empty : c.completions = [])
    (closed : c.completionSenders = 0)
    : Stepped context c action (c.exit ending).1 (c.exit ending).2
  | writerEnded {result error} (here : c.session = .select)
    (ended : c.wire.writer = .ended result)
    : Stepped context c .writerEnded
        { c.fail error |>.1 with writerDone := true, writerYielded := true } (c.fail error).2
  | offered {action message session}
    (here : c.session = .select ∨ c.session = .pinging)
    (next : session = .select ∨ session = .pinging) (plain : message.isClose = false)
    (unready : message.isReady = false)
    : Stepped context c action (c.offer message session).1 (c.offer message session).2
  | readied {action uid} (here : c.session = .select) (handshake : context.protocol ≥ 2)
    (idle : c.activeTask = none)
    : Stepped context c action (c.offer (.text (.ready uid context.workerName)) .select).1
        (c.offer (.text (.ready uid context.workerName)) .select).2
  | spawned {action uid resource} (here : c.session = .select) (idle : c.activeTask = none)
    : Stepped context c action
        { c with tasks := c.tasks ++ [{ pc := .spawned uid resource, aborted := false }],
                 activeTask := some c.tasks.length }
        [.requested .scrape uid.text]
  | busy {action uid} (here : c.session = .select) (active : c.activeTask.isSome)
    : Stepped context c action
        { c with session := .reserving uid (.begin (BudgetedResponse.tryNew uid 503 .new)) }
        [.requested .busy uid.text]
  | received {task sender response rest} (here : c.session = .select)
    (active : c.activeTask = some task) (queued : c.completions = (sender, response) :: rest)
    : Stepped context c .completion
        { c with session := .joining task response, activeTask := none, completions := rest }
        []
  -- `run` inside one of its branches
  | reserving {uid execution next reply events}
    (here : c.session = .reserving uid execution)
    (answered : execution.reply reply = some (next, events))
    : Stepped context c (.reply reply) { c with session := .reserving uid next } events
  | encoding {call next reply events} (here : c.session = .queueing call)
    (answered : call.reply reply = some (next, events))
    : Stepped context c (.reply reply) { c with session := .queueing next } events
  | refused {uid execution error} (here : c.session = .reserving uid execution)
    (returned : execution.result? = some (.error error))
    : Stepped context c .proceed { c with session := .select }
        [.dropped .busy uid.text (.busyResponse error)]
  | reserved {uid execution response} (here : c.session = .reserving uid execution)
    (returned : execution.result? = some (.ok response))
    : Stepped context c .proceed { c with session := .answering response } []
  | posted {response} (here : c.session = .answering response)
    (http : context.protocol = 3) (live : c.actor.hasEnded = false)
    (room : c.busy.queue.length < busyResponseQueueCapacity)
    : Stepped context c .proceed
        { c with session := .select,
                 busy := { c.busy with queue := c.busy.queue ++ [response] } } []
  | answered {response} (here : c.session = .answering response)
    : Stepped context c .proceed { c with session := .queueing (.start .busy response) } []
  | queueing {call next wire events} (here : c.session = .queueing call)
    (taken : call.proceed .session c.wire = some (.again next, wire, events))
    : Stepped context c .proceed { c with session := .queueing next, wire } events
  | queued {call wire events} (here : c.session = .queueing call)
    (taken : call.proceed .session c.wire = some (.finished, wire, events))
    : Stepped context c .proceed { c with session := .select, wire } events
  | closed {call wire events error} (here : c.session = .queueing call)
    (taken : call.proceed .session c.wire = some (.closed, wire, events))
    : Stepped context c .proceed (fail { c with session := .select, wire } error).1
        (events ++ (fail { c with session := .select, wire } error).2)
  | joinedEmpty {task} (here : c.session = .joining task none)
    (ended : c.taskResult? task = some .completed)
    : Stepped context c .proceed { c with session := .select } []
  | joined {task response} (here : c.session = .joining task (some response))
    (ended : c.taskResult? task = some .completed)
    : Stepped context c .proceed { c with session := .queueing (.start .scrape response) } []
  | joinFailed {task response result error} (here : c.session = .joining task response)
    (ended : c.taskResult? task = some result) (failed : result ≠ .completed)
    : Stepped context c .proceed (fail { c with session := .select } error).1
        (lose c.session.pieces ++ (fail { c with session := .select } error).2)
  -- `finish`
  | aborted {ending task} (here : c.session = .exited ending)
    (active : c.activeTask = some task)
    : Stepped context c .proceed
        { c with session := .cancelling task ending, activeTask := none,
                 tasks := c.abortTask task } []
  | leftIdle {ending} (here : c.session = .exited ending) (idle : c.activeTask = none)
    : Stepped context c .proceed (c.leaveTasks ending) []
  | leftTask {ending task result} (here : c.session = .cancelling task ending)
    (ended : c.taskResult? task = some result)
    : Stepped context c .proceed (c.leaveTasks ending) []
  | droppedBulk {ending} (here : c.session = .droppingBulk ending)
    : Stepped context c .proceed
        { c with session := .droppingBusy ending, wire := c.wire.dropBulkSender } []
  | droppedBusy {ending} (here : c.session = .droppingBusy ending)
    : Stepped context c .proceed
        { c with session := .farewelling ending, busy := { c.busy with sender := false } } []
  | farewell {ending message} (here : c.session = .farewelling ending)
    (given : ending.farewell = some message)
    : Stepped context c .proceed
        (c.offer message (.droppingControl c.wire.controlRoom ending.result)).1
        (c.offer message (.droppingControl c.wire.controlRoom ending.result)).2
  | noFarewell {ending} (here : c.session = .farewelling ending)
    : Stepped context c .proceed
        { c with session := .droppingControl false ending.result } []
  | flushing {result} (here : c.session = .droppingControl true result)
    : Stepped context c .proceed
        { c with session := .flushing result, wire := c.wire.dropControlSender } []
  | notQueued {result} (here : c.session = .droppingControl false result)
    : Stepped context c .proceed
        { c with session := .abortingWriter result, wire := c.wire.dropControlSender } []
  | writerJoined {result} (here : c.session = .flushing result ∨ c.session = .awaitingWriter result)
    (ended : c.wire.writer.hasEnded = true)
    : Stepped context c .proceed
        { c with session := .abortingActor result, writerYielded := true } []
  | flushTimeout {result} (here : c.session = .flushing result)
    : Stepped context c .flushTimeout { c with session := .abortingWriter result } []
  | abortedWriter {result} (here : c.session = .abortingWriter result)
    : Stepped context c .proceed
        { c with session := .awaitingWriter result, wire := { c.wire with aborted := true } } []
  | droppedSelf {result} (here : c.session = .droppingSelf result)
    : Stepped context c .proceed
        { c with session := .abortingActor result, busy := { c.busy with sender := false },
                 wire := c.wire.dropBulkSender.dropControlSender } []
  | abortedActor {result} (here : c.session = .abortingActor result)
    : Stepped context c .proceed
        { c with session := .awaitingActor result, actor := { c.actor with aborted := true } } []
  | returned {result} (here : c.session = .awaitingActor result)
    (ended : c.actor.hasEnded = true)
    : Stepped context c .proceed { c with session := .returned result } []

/-- Every valid message is handled by one of the view's constructors. -/
theorem stepped_of_handleMessage {context : WorkerContext} {c next : Connection}
    {message : IncomingMessage} {events : List Event} {action : SessionAction}
    (here : c.session = .select) (handled : c.handleMessage context message = (next, events))
    : Stepped context c action next events := by
  cases message with
  | ping =>
      obtain ⟨rfl, rfl⟩ := handled
      exact .offered (.inl here) (.inl rfl) rfl rfl
  | pong | unknown =>
      obtain ⟨rfl, rfl⟩ := handled
      exact .idle here
  | ready uid =>
      simp only [handleMessage] at handled
      split at handled
      · next free =>
          obtain ⟨rfl, rfl⟩ := handled
          exact .readied here free.1 (Option.isNone_iff_eq_none.mp free.2)
      · obtain ⟨rfl, rfl⟩ := handled
        exact .idle here
  | request uid resource =>
      simp only [handleMessage] at handled
      split at handled
      · next active =>
          obtain ⟨rfl, rfl⟩ := handled
          exact .busy here active
      · next idle =>
          obtain ⟨rfl, rfl⟩ := handled
          exact .spawned here (by simpa using idle)

/-- Every frame is handled by one of the view's constructors. -/
theorem stepped_of_handleFrame {context : WorkerContext} {c next : Connection}
    {frame : ServerFrame} {events : List Event} {action : SessionAction}
    (here : c.session = .select) (handled : c.handleFrame context frame = (next, events))
    : Stepped context c action next events := by
  cases frame with
  | text message =>
      simp only [handleFrame, handleText] at handled
      split at handled
      · obtain ⟨rfl, rfl⟩ := handled
        exact .idle here
      · split at handled
        · obtain ⟨rfl, rfl⟩ := handled
          exact .idle here
        · exact stepped_of_handleMessage here handled
  | ping payload =>
      obtain ⟨rfl, rfl⟩ := handled
      exact .offered (.inl here) (.inl rfl) rfl rfl
  | pong | unsupported =>
      obtain ⟨rfl, rfl⟩ := handled
      exact .idle here
  | close frame | failed | finished =>
      obtain ⟨rfl, rfl⟩ := handled
      exact .left here

/-- Once the scrape task has ended, the completion branch goes on by one of the view's
constructors.
-/
theorem stepped_of_handleJoined {context : WorkerContext} {c : Connection} {task : Nat}
    {response : Option BudgetedResponse} {result : TaskResult}
    (here : c.session = .joining task response) (ended : c.taskResult? task = some result)
    : Stepped context c .proceed (c.handleJoined response result).1
        (c.handleJoined response result).2 := by
  cases result with
  | completed =>
      cases response with
      | none => exact .joinedEmpty here ended
      | some response => exact .joined here ended
  | panicked | cancelled => exact .joinFailed here ended (by simp)

/-- Outside its `select!` the session goes on by one of the view's constructors. -/
theorem stepped_of_proceed {context : WorkerContext} {c next : Connection}
    {events : List Event} (taken : c.proceed context = some (next, events))
    : Stepped context c .proceed next events := by
  unfold proceed at taken
  split at taken
  · cases taken
  · next here =>
      obtain ⟨rfl, rfl⟩ := taken
      exact .offered (.inr here) (.inl rfl) rfl rfl
  · next uid execution here =>
      obtain ⟨result, returned, same⟩ := Option.map_eq_some_iff.mp taken
      cases result with
      | error error =>
          obtain ⟨rfl, rfl⟩ := same
          exact .refused here returned
      | ok response =>
          obtain ⟨rfl, rfl⟩ := same
          exact .reserved here returned
  · next response here =>
      obtain ⟨rfl, rfl⟩ := taken
      unfold answerBusy
      split
      · next free => exact .posted here free.1 free.2.1 free.2.2
      · exact .answered here
  · next call here =>
      obtain ⟨⟨result, wire, events'⟩, proceeded, same⟩ := Option.map_eq_some_iff.mp taken
      cases result with
      | again call' =>
          obtain ⟨rfl, rfl⟩ := same
          exact .queueing here proceeded
      | finished =>
          obtain ⟨rfl, rfl⟩ := same
          exact .queued here proceeded
      | closed =>
          obtain ⟨rfl, rfl⟩ := same
          exact .closed here proceeded
  · next task response here =>
      obtain ⟨result, ended, same⟩ := Option.map_eq_some_iff.mp taken
      obtain ⟨rfl, rfl⟩ := Prod.mk.injEq .. ▸ same
      exact stepped_of_handleJoined here ended
  · next ending here =>
      split at taken
      · next task active =>
          obtain ⟨rfl, rfl⟩ := taken
          exact .aborted here active
      · next idle =>
          obtain ⟨rfl, rfl⟩ := taken
          exact .leftIdle here idle
  · next task ending here =>
      obtain ⟨result, ended, same⟩ := Option.map_eq_some_iff.mp taken
      obtain ⟨rfl, rfl⟩ := same
      exact .leftTask here ended
  · next ending here =>
      obtain ⟨rfl, rfl⟩ := taken
      exact .droppedBulk here
  · next ending here =>
      obtain ⟨rfl, rfl⟩ := taken
      exact .droppedBusy here
  · next ending here =>
      split at taken
      · next message given =>
          obtain ⟨rfl, rfl⟩ := taken
          exact .farewell here given
      · obtain ⟨rfl, rfl⟩ := taken
        exact .noFarewell here
  · next queued result here =>
      obtain ⟨rfl, rfl⟩ := taken
      cases queued with
      | true => exact .flushing here
      | false => exact .notQueued here
  · next result here =>
      split at taken
      · next ended =>
          obtain ⟨rfl, rfl⟩ := taken
          exact .writerJoined (.inl here) ended
      · cases taken
  · next result here =>
      obtain ⟨rfl, rfl⟩ := taken
      exact .abortedWriter here
  · next result here =>
      split at taken
      · next ended =>
          obtain ⟨rfl, rfl⟩ := taken
          exact .writerJoined (.inr here) ended
      · cases taken
  · next result here =>
      obtain ⟨rfl, rfl⟩ := taken
      exact .droppedSelf here
  · next result here =>
      obtain ⟨rfl, rfl⟩ := taken
      exact .abortedActor here
  · next result here =>
      split at taken
      · next ended =>
          obtain ⟨rfl, rfl⟩ := taken
          exact .returned here ended
      · cases taken
  · cases taken

/-- Every enabled step of the session is one of the view's constructors, by cases on the step
and on where the session stands.
-/
theorem stepped_of_sessionStep {context : WorkerContext} {c next : Connection}
    {action : SessionAction} {events : List Event}
    (taken : c.sessionStep context action = some (next, events))
    : Stepped context c action next events := by
  cases action with
  | shutdown =>
      simp only [sessionStep] at taken
      split at taken
      · next here =>
          obtain ⟨rfl, rfl⟩ := taken
          exact .left here
      · cases taken
  | writerEnded =>
      simp only [sessionStep] at taken
      split at taken
      · next result here ended =>
          obtain ⟨rfl, rfl⟩ := taken
          exact .writerEnded here ended
      · cases taken
  | heartbeat timedOut =>
      simp only [sessionStep] at taken
      split at taken
      · next here =>
          split at taken
          · obtain ⟨rfl, rfl⟩ := taken
            exact .left here
          · obtain ⟨rfl, rfl⟩ := taken
            exact .offered (.inl here) (.inr rfl) rfl rfl
      · cases taken
  | completion =>
      simp only [sessionStep, handleCompletion] at taken
      split at taken
      · next here =>
          split at taken
          · cases taken
          · next task active empty =>
              split at taken
              · next closed =>
                  obtain ⟨rfl, rfl⟩ := taken
                  exact .channelClosed here (by simp [active]) empty closed
              · cases taken
          · next task sender response rest active queued =>
              obtain ⟨rfl, rfl⟩ := taken
              exact .received here active queued
      · cases taken
  | read frame =>
      simp only [sessionStep] at taken
      split at taken
      · next here =>
          exact stepped_of_handleFrame here (Option.some.inj taken)
      · cases taken
  | reply reply =>
      simp only [sessionStep] at taken
      split at taken
      · next uid execution here =>
          obtain ⟨⟨execution', events'⟩, answered, same⟩ := Option.map_eq_some_iff.mp taken
          obtain ⟨rfl, rfl⟩ := same
          exact .reserving here answered
      · next call here =>
          obtain ⟨⟨call', events'⟩, answered, same⟩ := Option.map_eq_some_iff.mp taken
          obtain ⟨rfl, rfl⟩ := same
          exact .encoding here answered
      · cases taken
  | proceed => exact stepped_of_proceed taken
  | flushTimeout =>
      simp only [sessionStep] at taken
      split at taken
      · next result here =>
          obtain ⟨rfl, rfl⟩ := taken
          exact .flushTimeout here
      · cases taken

-----------------------------------------------------------------------------------------
-- Whose step it is
-----------------------------------------------------------------------------------------

/-- A proof view of `Connection.step`: one constructor for each task. -/
inductive Moved (context : WorkerContext) (c : Connection)
    : ConnectionAction → Connection → List Event → Prop
  | session {action next events} (taken : c.sessionStep context action = some (next, events))
    : Moved context c (.session action) next events
  | scrape {task action scrape pc completions events} (found : c.tasks[task]? = some scrape)
    (stepped
      : scrape.pc.step context task scrape.aborted c.channel action
        = some (pc, completions, events))
    : Moved context c (.scrape task action)
        { c with tasks := c.tasks.set task { scrape with pc }, completions := completions.queue }
        events
  | busyActor {action side events} (stepped : c.side.step context action = some (side, events))
    : Moved context c (.busyActor action)
        { c with actor := side.actor, busy := side.busy, wire := side.wire } events
  | writer {action wire events} (stepped : c.wire.step action = some (wire, events))
    : Moved context c (.writer action) { c with wire } events

/-- Every step of a connection is one of the view's constructors. -/
theorem moved_of_step {context : WorkerContext} {c next : Connection} {action : ConnectionAction}
    {events : List Event} (taken : c.step context action = some (next, events))
    : Moved context c action next events := by
  cases action with
  | session action => exact .session taken
  | scrape task action =>
      simp only [step, scrapeStep] at taken
      split at taken
      · cases taken
      · next scrape found =>
          obtain ⟨⟨pc, completions, events'⟩, stepped, same⟩ := Option.map_eq_some_iff.mp taken
          obtain ⟨rfl, rfl⟩ := same
          exact .scrape found stepped
  | busyActor action =>
      obtain ⟨⟨side, events'⟩, stepped, same⟩ := Option.map_eq_some_iff.mp taken
      obtain ⟨rfl, rfl⟩ := same
      exact .busyActor stepped
  | writer action =>
      obtain ⟨⟨wire, events'⟩, stepped, same⟩ := Option.map_eq_some_iff.mp taken
      obtain ⟨rfl, rfl⟩ := same
      exact .writer stepped

end Connection

end ProxyClient
