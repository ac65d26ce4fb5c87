import ProxyClient.Worker.Finishing
import ProxyClient.Worker.OneScrape
import ProxyClient.Worker.Reading

/-! No circular wait between the tasks of a connection.
The writer waits for nobody but the sink, the scrape task never waits for the session, and
what the session and the busy-response actor wait for is drained by the writer or given up by
it.
-/

namespace ProxyClient

open Foundations

/-- The writer is inside a send. -/
def WriterPc.sending : WriterPc → Bool
  | .sendingControl _ | .sendingClose _ | .sendingBulk _ => true
  | .select | .bulkTurn | .closingSink | .ended _ => false

/-- The writer closes its sink after a `Close`. -/
def WriterPc.closing : WriterPc → Bool
  | .closingSink => true
  | .select | .bulkTurn | .sendingControl _ | .sendingClose _ | .sendingBulk _ | .ended _ =>
      false

theorem WriterPc.closingSink_of_closing {writer : WriterPc} (closes : writer.closing = true)
    : writer = .closingSink := by
  cases writer with
  | closingSink => rfl
  | select | bulkTurn | sendingControl | sendingClose | sendingBulk | ended => cases closes

namespace Wire

/-- The writer takes an item within a few polls of its queues. -/
def Takes (wire : Wire) : Prop :=
  ∃ polls history next frame,
    (∀ poll ∈ polls, poll = .pollControl ∨ poll = .pollBulk)
    ∧ writerMachine.exec wire polls = some (history, next)
    ∧ .handed frame ∈ Machine.eventsOf history

/-- The writer has ended and the bulk channel is closed, so that a suspended send fails. -/
def Closed (wire : Wire) (who : Sender) : Prop :=
  wire.writer.hasEnded = true
  ∧ ∀ response,
      ∃ next,
        (Queueing.suspended response).proceed who wire
        = some (.closed, next, response.piece.lost)

/-- The writer is inside a send, takes an item, or has ended. -/
def Drains (wire : Wire) (who : Sender) : Prop :=
  wire.writer.sending = true ∨ wire.Takes ∨ wire.Closed who

theorem closed_of_ended {wire : Wire} (ended : wire.writer.hasEnded = true) (who : Sender)
    : wire.Closed who := by
  refine ⟨ended, fun response => ⟨{ wire with slots := wire.slots.giveUp who }, ?_⟩⟩
  simp [Queueing.proceed, ended]

/-- A writer at its bulk branch takes a queued response. -/
theorem takes_bulk {wire : Wire} {response : EncodedResponse} {rest : List EncodedResponse}
    (here : wire.writer = .bulkTurn) (opened : wire.bulkOpen = true)
    (queued : wire.bulk = response :: rest)
    : ∃ next, wire.step .pollBulk = some (next, [.handed (.bulk response)]) := by
  simp [step, here, opened, queued]

/-- Polls that come before others which take an item. -/
theorem Takes.after {wire next : Wire} {poll : WriterAction} {events : List Event}
    (takes : next.Takes) (polls : poll = .pollControl ∨ poll = .pollBulk)
    (taken : wire.step poll = some (next, events))
    : wire.Takes := by
  obtain ⟨rest, history, last, frame, polled, executed, handed⟩ := takes
  refine ⟨poll :: rest, ⟨wire, poll, events, next⟩ :: history, last, frame, ?_, ?_, ?_⟩
  · exact List.forall_mem_cons.mpr ⟨polls, polled⟩
  · have first : writerMachine.step wire poll = some (next, events) := taken
    simp [Machine.exec, first, executed]
  · exact List.mem_append_right _ handed

/-- A poll that takes an item itself. -/
theorem takes_of_step {wire next : Wire} {poll : WriterAction} {frame : Frame}
    (polls : poll = .pollControl ∨ poll = .pollBulk)
    (taken : wire.step poll = some (next, [.handed frame]))
    : wire.Takes := by
  refine ⟨[poll], [⟨wire, poll, [.handed frame], next⟩], next, frame, ?_, ?_, ?_⟩
  · exact fun other listed => List.mem_singleton.mp listed ▸ polls
  · have first : writerMachine.step wire poll = some (next, [.handed frame]) := taken
    simp [Machine.exec, first]
  · simp

/-- While a response is queued, a writer that polls its queues takes an item: a control frame
if there is one, else the response.
-/
theorem takes_of_polling {wire : Wire} {response : EncodedResponse}
    {rest : List EncodedResponse} (polling : wire.writer = .select ∨ wire.writer = .bulkTurn)
    (opened : wire.bulkOpen = true) (queued : wire.bulk = response :: rest)
    : wire.Takes := by
  have bulkTurn {wire : Wire} (here : wire.writer = .bulkTurn) (opened : wire.bulkOpen = true)
      (queued : wire.bulk = response :: rest)
      : wire.Takes := by
    obtain ⟨next, taken⟩ := takes_bulk here opened queued
    exact takes_of_step (.inr rfl) taken
  have closed {wire : Wire} (here : wire.writer = .select) (control : wire.controlOpen = false)
      (opened : wire.bulkOpen = true) (queued : wire.bulk = response :: rest)
      : wire.Takes := by
    have taken : wire.step .pollControl = some ({ wire with writer := .bulkTurn }, []) := by
      simp [step, here, control]
    have turned : Takes { wire with writer := .bulkTurn } := bulkTurn rfl opened queued
    exact turned.after (.inl rfl) taken
  rcases polling with here | here
  · cases control : wire.controlOpen with
    | false => exact closed here control opened queued
    | true =>
        cases frames : wire.control with
        | cons message more =>
            have taken
                : ∃ next, wire.step .pollControl = some (next, [.handed (.control message)]) := by
              simp [step, here, control, frames]
            obtain ⟨next, taken⟩ := taken
            exact takes_of_step (.inl rfl) taken
        | nil =>
            cases sender : wire.controlSender with
            | true =>
                have taken
                    : wire.step .pollControl = some ({ wire with writer := .bulkTurn }, []) := by
                  simp [step, here, control, frames, sender]
                have turned : Takes { wire with writer := .bulkTurn } :=
                  bulkTurn rfl opened queued
                exact turned.after (.inl rfl) taken
            | false =>
                have taken
                    : wire.step .pollControl
                      = some ({ wire with controlOpen := false }, []) := by
                  simp [step, here, control, frames, sender]
                have shut : Takes { wire with controlOpen := false } :=
                  closed here rfl opened queued
                exact shut.after (.inl rfl) taken
  · exact bulkTurn here opened queued

/-- A sender in line finds the writer draining the bulk queue, or closing the sink. -/
theorem Lined.drains {wire : Wire} {suspended : List Sender} {who : Sender}
    (lined : wire.Lined suspended) (few : suspended.length ≤ bulkQueueCapacity)
    (waits : who ∈ wire.slots.waiting) (opened : wire.bulkOpen = true)
    : wire.Drains who ∨ wire.writer = .closingSink := by
  have filled (live : wire.writer.hasEnded = false)
      : ∃ response rest, wire.bulk = response :: rest := by
    have full := ((lined live).full waits).2
    exact List.exists_cons_of_length_pos (by omega)
  cases here : wire.writer with
  | select =>
      obtain ⟨response, rest, queued⟩ := filled (by rw [here]; rfl)
      exact .inl (.inr (.inl (takes_of_polling (.inl here) opened queued)))
  | bulkTurn =>
      obtain ⟨response, rest, queued⟩ := filled (by rw [here]; rfl)
      exact .inl (.inr (.inl (takes_of_polling (.inr here) opened queued)))
  | sendingControl | sendingClose | sendingBulk => exact .inl (.inl (by rw [here]; rfl))
  | closingSink => exact .inr rfl
  | ended result => exact .inl (.inr (.inr (closed_of_ended (by rw [here]; rfl) who)))

/-- A writer that drains, or closes its sink, has an enabled step, unless it has ended. -/
theorem Drains.enabled {wire : Wire} {who : Sender}
    (drains : wire.Drains who ∨ wire.writer = .closingSink)
    (live : wire.writer.hasEnded = false)
    : ∃ action, action ≠ .panic ∧ (wire.step action).isSome = true := by
  rcases drains with (sending | takes | ⟨ended, -⟩) | closing
  · refine ⟨.sendOk, by simp, ?_⟩
    cases here : wire.writer with
    | sendingControl | sendingClose | sendingBulk => simp [step, here]
    | select | bulkTurn | closingSink | ended => simp [here, WriterPc.sending] at sending
  · obtain ⟨polls, history, next, frame, polled, executed, handed⟩ := takes
    cases polls with
    | nil =>
        obtain ⟨rfl, -⟩ := Prod.mk.inj (Option.some.inj executed)
        exact absurd handed List.not_mem_nil
    | cons poll rest =>
        refine ⟨poll, ?_, ?_⟩
        · rcases polled poll List.mem_cons_self with rfl | rfl <;> simp
        · cases taken : wire.step poll with
          | some => rfl
          | none =>
              have stuck : writerMachine.step wire poll = none := taken
              simp [Machine.exec, stuck] at executed
  · simp [ended] at live
  · exact ⟨.sinkClosed, by simp, by simp [step, closing]⟩

/-- An aborted writer that has not ended goes on polling or is cancelled. -/
theorem aborted_enabled {wire : Wire} (aborted : wire.aborted = true)
    (live : wire.writer.hasEnded = false)
    : ∃ action, action ≠ .panic ∧ (wire.step action).isSome = true := by
  cases here : wire.writer with
  | bulkTurn =>
      refine ⟨.pollBulk, by simp, ?_⟩
      cases opened : wire.bulkOpen with
      | true =>
          cases queued : wire.bulk with
          | nil =>
              simp only [step, here, opened, queued, if_true]
              split <;> rfl
          | cons => simp [step, here, opened, queued]
      | false =>
          simp only [step, here, opened, Bool.false_eq_true, if_false]
          split <;> rfl
  | select | sendingControl | sendingClose | sendingBulk | closingSink =>
      exact ⟨.cancelled, by simp, by simp [step, here, aborted]⟩
  | ended => simp [here, WriterPc.hasEnded] at live

end Wire

/-- The actor serialises a response without an await. -/
def BusyActorPc.Unsuspended : BusyActorPc → Prop
  | .queueing call => call.Unsuspended
  | .top | .ended => True

/-- An aborted scrape task is cancelled at its next await, or goes on up to it. -/
theorem ScrapePc.aborted_enabled {context : WorkerContext} {task : Nat}
    {completions : Completions} {pc : ScrapePc} (live : pc.hasEnded = false)
    : (∃ action, action ≠ .panic ∧ (pc.step context task true completions action).isSome = true)
      ∨ ∃ op, pc.computes = some op ∧ op.awaits = false := by
  have cancelled (awaits : pc.awaits = true)
      : ∃ action,
          action ≠ .panic ∧ (pc.step context task true completions action).isSome = true :=
    ⟨.cancelled, by simp, by simp [step, awaits]⟩
  cases pc with
  | spawned | completing => exact .inl (cancelled rfl)
  | returning => exact .inl ⟨.finish, by simp, by simp [step]⟩
  | ended => cases live
  | calling uid execution =>
      rcases execution with ⟨held, program⟩
      cases program with
      | pure value =>
          exact .inl ⟨.called, by simp, by simp [step, Running.result?]⟩
      | perform op next =>
          cases awaits : op.awaits with
          | true => exact .inl (cancelled (by simp [ScrapePc.awaits, Running.pending?, awaits]))
          | false => exact .inr ⟨op, rfl, awaits⟩
  | posting post =>
      rcases post with ⟨response, held, program⟩
      cases program with
      | pure value =>
          exact .inl ⟨.delivered, by simp, by simp [step, Running.result?]⟩
      | perform op next =>
          cases awaits : op.awaits with
          | true => exact .inl (cancelled (by simp [ScrapePc.awaits, Running.pending?, awaits]))
          | false => exact .inr ⟨op, rfl, awaits⟩

namespace BusySide

/-- An aborted actor is cancelled at its next await, or goes on up to it. -/
theorem aborted_enabled {context : WorkerContext} {side : BusySide}
    (aborted : side.actor.aborted = true) (live : side.actor.hasEnded = false)
    (runs : side.actor.pc.Unsuspended)
    : (∃ action, action ≠ .panic ∧ (side.step context action).isSome = true)
      ∨ ∃ op, side.actor.pc.computes = some op ∧ op.awaits = false := by
  have cancelled (awaits : side.actor.awaits = true)
      : ∃ action, action ≠ .panic ∧ (side.step context action).isSome = true :=
    ⟨.cancelled, by simp, by simp [step, aborted, awaits]⟩
  have queues {call : Queueing} (here : side.actor.pc = .queueing call)
      (moves : (call.proceed .busyActor side.wire).isSome = true)
      : ∃ action, action ≠ .panic ∧ (side.step context action).isSome = true :=
    ⟨.queue, by simp, by simp [step, here, moves]⟩
  cases here : side.actor.pc with
  | top => exact .inl (cancelled (by simp [BusyActor.awaits, here]))
  | ended => simp [BusyActor.hasEnded, here] at live
  | queueing call =>
      rw [here] at runs
      cases call with
      | suspended response =>
          exact .inl (cancelled (by simp [BusyActor.awaits, here, Queueing.isSuspended]))
      | sending response =>
          refine .inl (queues here ?_)
          simp only [Queueing.proceed]
          split
          · rfl
          · split <;> rfl
      | encoding origin uid execution =>
          rcases execution with ⟨held, program⟩
          cases program with
          | pure value =>
              refine .inl (queues here ?_)
              cases value <;> simp [Queueing.proceed, Running.result?]
          | perform op next => exact .inr ⟨op, rfl, runs.1⟩

theorem unsuspended_of_step {context : WorkerContext} {side next : BusySide}
    {action : BusyActorAction} {events : List Event} (runs : side.actor.pc.Unsuspended)
    (taken : side.step context action = some (next, events))
    : next.actor.pc.Unsuspended := by
  cases stepped_of_step taken with
  | received | inputClosed | replied | delivered => exact runs
  | failed => exact Queueing.unsuspended_start _ _
  | encoding here answered =>
      rw [here] at runs
      exact Queueing.Unsuspended.reply runs answered
  | queueing here proceeded => exact Queueing.unsuspended_of_proceed proceeded
  | finished | queued | closed | panicked | cancelled => trivial

end BusySide

-----------------------------------------------------------------------------------------
-- The connection
-----------------------------------------------------------------------------------------

/-- A step of another task than the session that is no panic. -/
def ConnectionAction.ofAnother : ConnectionAction → Bool
  | .session _ | .scrape _ .panic | .busyActor .panic | .writer .panic => false
  | .scrape .. | .busyActor _ | .writer _ => true

namespace Connection

/-- The session moves nothing of the actor but its abort flag. -/
theorem actor_of_sessionStep {context : WorkerContext} {c next : Connection}
    {action : SessionAction} {events : List Event}
    (taken : c.sessionStep context action = some (next, events))
    : next.actor.pc = c.actor.pc := by
  cases stepped_of_sessionStep taken with
  | leftIdle | leftTask =>
      unfold leaveTasks
      split <;> rfl
  | idle | left | channelClosed | writerEnded | offered | readied | spawned | busy | received
  | reserving | encoding | refused | reserved | posted | answered | queueing | queued | closed
  | joinedEmpty | joined | joinFailed | aborted | droppedBulk | droppedBusy | farewell
  | noFarewell | flushing | notQueued | writerJoined | flushTimeout | abortedWriter
  | droppedSelf | abortedActor | returned => rfl

theorem unsuspended_actor_of_run {context : WorkerContext} {name : String}
    {history : List (Transition Connection ConnectionAction Event)} {c : Connection}
    (run : (connectionMachine context).Run (new context name) history c)
    : c.actor.pc.Unsuspended := by
  refine run.invariant (fun c => c.actor.pc.Unsuspended) trivial ?_
  intro before action after events runs taken
  cases moved_of_step taken with
  | session taken =>
      rw [actor_of_sessionStep taken]
      exact runs
  | scrape => exact runs
  | busyActor stepped => exact BusySide.unsuspended_of_step runs stepped
  | writer stepped => exact runs

/-- A scrape task or the busy-response actor performs this operation next. -/
def OthersCompute (c : Connection) (op : Op) : Prop :=
  (∃ scrape ∈ c.tasks, scrape.pc.computes = some op) ∨ c.actor.pc.computes = some op

/-- Another task than the session has an enabled step that is no panic, or performs an
operation of the budget or of the allocator.
-/
def OthersGoOn (context : WorkerContext) (c : Connection) : Prop :=
  (∃ action, action.ofAnother = true ∧ (c.step context action).isSome = true)
  ∨ ∃ op, c.OthersCompute op ∧ op.awaits = false

/-- `run_connection` has returned, or the session goes on, or another task does. -/
def Moves (context : WorkerContext) (c : Connection) : Prop :=
  (∃ result, c.session = .returned result) ∨ c.GoesOn context ∨ c.OthersGoOn context

/-- Whoever is suspended waits for a task that goes on without it. -/
structure NoCircularWait (context : WorkerContext) (c : Connection) : Prop where
  session
    : ∀ response,
        c.session = .queueing (.suspended response)
        → .session ∈ c.wire.slots.waiting
        → c.wire.Drains .session
  /-- The actor may still be there while the writer closes its sink after a `Close`. -/
  actor
    : ∀ response,
        c.actor.pc = .queueing (.suspended response)
        → .busyActor ∈ c.wire.slots.waiting
        → c.wire.Drains .busyActor ∨ c.wire.writer = .closingSink
  /-- A sender that has been given a place goes on by itself. -/
  sessionPlaced
    : ∀ response,
        c.session = .queueing (.suspended response)
        → .session ∉ c.wire.slots.waiting
        → ∃ next events,
            c.sessionStep context .proceed = some (next, events)
            ∧ (c.wire.writer.hasEnded = false → events = [.bulkQueued response])
  actorPlaced
    : ∀ response,
        c.actor.pc = .queueing (.suspended response)
        → .busyActor ∉ c.wire.slots.waiting
        → ∃ next events,
            c.busyActorStep context .queue = some (next, events)
            ∧ (c.wire.writer.hasEnded = false → events = [.bulkQueued response])
  joining
    : ∀ task response,
        c.session = .joining task response
        → ∃ scrape, c.tasks[task]? = some scrape ∧ scrape.pc.sent = true
  cancelling : ∀ task ending, c.session = .cancelling task ending → c.Aborted task
  /-- A scrape task is never suspended on the completion channel. -/
  completing
    : ∀ (task : Nat) (scrape : ScrapeTask) (response : Option BudgetedResponse),
        c.tasks[task]? = some scrape
        → scrape.pc = .completing response
        → (c.scrapeStep context task .send).isSome
  moves : c.Moves context

section Waiting

variable {context : WorkerContext} {c : Connection}

/-- Out of line, the session queues its response, or finds the channel closed. -/
theorem proceeds_of_placed {response : EncodedResponse}
    (here : c.session = .queueing (.suspended response))
    (placed : .session ∉ c.wire.slots.waiting)
    : ∃ next events,
        c.sessionStep context .proceed = some (next, events)
        ∧ (c.wire.writer.hasEnded = false → events = [.bulkQueued response]) := by
  cases live : c.wire.writer.hasEnded with
  | true =>
      have enabled : (c.sessionStep context .proceed).isSome = true := by
        simp [sessionStep, proceed, here, Queueing.proceed, live]
      obtain ⟨⟨next, events⟩, taken⟩ := Option.isSome_iff_exists.mp enabled
      refine ⟨next, events, taken, fun absent => ?_⟩
      cases absent
  | false =>
      refine ⟨{ c with session := .select, wire := (c.wire.push response).1 },
        [.bulkQueued response], ?_, fun _ => rfl⟩
      simp [sessionStep, proceed, here, Queueing.proceed, live, placed, Wire.push]

/-- So does the actor. -/
theorem queues_of_placed {response : EncodedResponse}
    (here : c.actor.pc = .queueing (.suspended response))
    (placed : .busyActor ∉ c.wire.slots.waiting)
    : ∃ next events,
        c.busyActorStep context .queue = some (next, events)
        ∧ (c.wire.writer.hasEnded = false → events = [.bulkQueued response]) := by
  cases live : c.wire.writer.hasEnded with
  | true =>
      have enabled : (c.busyActorStep context .queue).isSome = true := by
        simp [busyActorStep, BusySide.step, side, here, Queueing.proceed, live]
      obtain ⟨⟨next, events⟩, taken⟩ := Option.isSome_iff_exists.mp enabled
      refine ⟨next, events, taken, fun absent => ?_⟩
      cases absent
  | false =>
      refine ⟨{ c with actor := { c.actor with pc := .top }, wire := (c.wire.push response).1 },
        [.bulkQueued response], ?_, fun _ => rfl⟩
      simp [busyActorStep, BusySide.step, side, here, Queueing.proceed, live, placed, Wire.push]

/-- At most the session and the actor are suspended in `bulk.send`. -/
theorem suspended_le (c : Connection) : c.suspended.length ≤ 2 := by
  have call (who : Sender) (call : Queueing) : (call.line who).length ≤ 1 := by
    unfold Queueing.line
    split <;> simp
  have session : c.session.line.length ≤ 1 := by
    cases c.session with
    | queueing queueing => exact call .session queueing
    | select | pinging | reserving | answering | joining | exited | cancelling | droppingBulk
    | droppingBusy | farewelling | droppingControl | flushing | abortingWriter
    | awaitingWriter | droppingSelf | abortingActor | awaitingActor | returned =>
        exact Nat.zero_le 1
  have actor : c.actor.pc.line.length ≤ 1 := by
    cases c.actor.pc with
    | queueing queueing => exact call .busyActor queueing
    | top | ended => exact Nat.zero_le 1
  rw [suspended, List.length_append]
  omega

/-- A sender in line finds the writer draining the bulk queue, or closing its sink. -/
theorem drains_of_waiting {who : Sender} (lined : c.Lined) (kept : c.Kept)
    (finishing : c.Finishing) (sender : 0 < c.session.senders + c.actor.senders)
    (waits : who ∈ c.wire.slots.waiting)
    : c.wire.Drains who ∨ c.wire.writer = .closingSink := by
  have opened : c.wire.bulkOpen = true := by
    cases here : c.wire.bulkOpen with
    | true => rfl
    | false =>
        have none := finishing.wire.shut here
        have counted := kept.counted
        omega
  have few := c.suspended_le
  exact Wire.Lined.drains lined (Nat.le_trans few (by decide)) waits opened

/-- A session in `queue_ws_response` still has its bulk sender. -/
theorem holdsBulk_of_queueing {call : Queueing} (here : c.session = .queueing call)
    : 0 < c.session.senders + c.actor.senders := by
  rw [here]
  exact Nat.lt_add_right _ Nat.one_pos

/-- A step of the writer is a step of another task. -/
theorem othersGoOn_of_writer
    (enabled : ∃ action, action ≠ .panic ∧ (c.wire.step action).isSome = true)
    : c.OthersGoOn context := by
  obtain ⟨action, calm, enabled⟩ := enabled
  refine .inl ⟨.writer action, ?_, ?_⟩
  · cases action <;> first | rfl | exact absurd rfl calm
  · simpa [Connection.step, writerStep] using enabled

/-- The scrape task that `finish` awaits is cancelled at its next await. -/
theorem goesOn_cancelling {task : Nat} {ending : Ending} (aborted : c.Aborted task)
    (here : c.session = .cancelling task ending)
    : c.GoesOn context ∨ c.OthersGoOn context := by
  obtain ⟨scrape, found, flag⟩ := aborted
  cases live : scrape.pc.hasEnded with
  | true =>
      left
      refine .inl ⟨.proceed, ?_⟩
      have ended : ∃ result, scrape.pc = .ended result := by
        cases at_ : scrape.pc with
        | ended result => exact ⟨result, rfl⟩
        | spawned | calling | posting | completing | returning =>
            simp [at_, ScrapePc.hasEnded] at live
      obtain ⟨result, at_⟩ := ended
      obtain ⟨pc, aborted⟩ := scrape
      obtain rfl : pc = .ended result := at_
      simp [sessionStep, proceed, here, taskResult?, found]
  | false =>
      right
      have enabled := @ScrapePc.aborted_enabled context task c.channel scrape.pc live
      rcases enabled with ⟨action, calm, enabled⟩ | ⟨op, computes, runs⟩
      · refine .inl ⟨.scrape task action, ?_, ?_⟩
        · cases action <;> first | rfl | exact absurd rfl calm
        · simpa [Connection.step, scrapeStep, found, flag] using enabled
      · exact .inr ⟨op, .inl ⟨scrape, List.mem_of_getElem? found, computes⟩, runs⟩

/-- The actor that `run_connection` awaits is cancelled at its next await. -/
theorem goesOn_awaitingActor {result : Except BoxError Unit} (aborted : c.actor.aborted = true)
    (runs : c.actor.pc.Unsuspended) (here : c.session = .awaitingActor result)
    : c.GoesOn context ∨ c.OthersGoOn context := by
  cases live : c.actor.hasEnded with
  | true => exact .inl (.inl ⟨.proceed, by simp [sessionStep, proceed, here, live]⟩)
  | false =>
      right
      have sided : c.side.actor.aborted = true := aborted
      have enabled := @BusySide.aborted_enabled context c.side sided live runs
      rcases enabled with ⟨action, calm, enabled⟩ | ⟨op, computes, awaitless⟩
      · refine .inl ⟨.busyActor action, ?_, ?_⟩
        · cases action <;> first | rfl | exact absurd rfl calm
        · simpa [Connection.step, busyActorStep] using enabled
      · exact .inr ⟨op, .inr computes, awaitless⟩

end Waiting

/-- A program without an await has returned, or performs an operation that is no await. -/
theorem goesOn_of_execution {α : Type} {execution : Execution α} (runs : execution.Unsuspended)
    : (∃ value, execution.result? = some value)
      ∨ ∃ op, execution.pending? = some op ∧ op.awaits = false := by
  obtain ⟨held, program⟩ := execution
  cases program with
  | pure value => exact .inl ⟨value, rfl⟩
  | perform op next => exact .inr ⟨op, rfl, runs.1⟩

/-- Inside a branch of `run`, only the line of the bulk queue and a returning scrape make the
session wait.
-/
theorem Scheduled.goesOn_inside {context : WorkerContext} {c : Connection}
    (scheduled : c.Scheduled) (runs : c.session.Unsuspended) (running : c.session.running = true)
    (busy : c.session ≠ .select) (free : ∀ response, c.session ≠ .queueing (.suspended response))
    : c.GoesOn context ∨ ∃ task, (c.scrapeStep context task .finish).isSome = true := by
  have proceeds (enabled : (c.proceed context).isSome = true) : c.GoesOn context :=
    .inl ⟨.proceed, enabled⟩
  cases here : c.session with
  | select => exact absurd here busy
  | pinging | answering => exact .inl (proceeds (by simp [proceed, here]))
  | reserving uid execution =>
      rw [here] at runs
      rcases goesOn_of_execution runs with ⟨value, returned⟩ | ⟨op, pending, awaitless⟩
      · exact .inl (proceeds (by simp [proceed, here, returned]))
      · exact .inl (.inr ⟨op, by simp [here, SessionPc.computes, pending], awaitless⟩)
  | queueing call =>
      cases call with
      | encoding origin uid execution =>
          rw [here] at runs
          rcases goesOn_of_execution runs with ⟨value, returned⟩ | ⟨op, pending, awaitless⟩
          · exact .inl (proceeds (by simp [proceed, here, Queueing.proceed, returned]))
          · refine .inl (.inr ⟨op, ?_, awaitless⟩)
            simp [here, SessionPc.computes, Queueing.computes, pending]
      | sending response =>
          refine .inl (proceeds ?_)
          simp only [proceed, here, Queueing.proceed, Option.isSome_map]
          split
          · rfl
          · split <;> rfl
      | suspended response => exact absurd here (free response)
  | joining task response =>
      obtain ⟨-, scrape, found, sent⟩ :=
        scheduled.joining task (by rw [here]; rfl) (by rw [here]; rfl)
      obtain ⟨pc, aborted⟩ := scrape
      cases pc with
      | returning =>
          exact .inr ⟨task, by simp [Connection.scrapeStep, found, ScrapePc.step, channel]⟩
      | ended result => exact .inl (proceeds (by simp [proceed, here, taskResult?, found]))
      | spawned | calling | posting | completing => cases sent
  | exited | cancelling | droppingBulk | droppingBusy | farewelling | droppingControl | flushing
  | abortingWriter | awaitingWriter | droppingSelf | abortingActor | awaitingActor
  | returned =>
      rw [here] at running
      cases running

/-- Wherever the session stands, it goes on or another task does. -/
theorem moves_of_run {context : WorkerContext} {name : String}
    {history : List (Transition Connection ConnectionAction Event)} {c : Connection}
    (run : (connectionMachine context).Run (new context name) history c)
    : c.Moves context := by
  have scheduled := scheduled_of_run run
  have finishing := finishing_of_run run
  have phase := finishing.phase
  have proceeds (enabled : (c.proceed context).isSome = true)
      : c.Moves context :=
    .inr (.inl (.inl ⟨.proceed, enabled⟩))
  have inside (running : c.session.running = true) (busy : c.session ≠ .select)
      (free : ∀ response, c.session ≠ .queueing (.suspended response))
      : c.Moves context := by
    rcases scheduled.goesOn_inside (unsuspended_of_run run) running busy free with
      goesOn | ⟨task, finishes⟩
    · exact .inr (.inl goesOn)
    · exact .inr (.inr (.inl ⟨.scrape task .finish, rfl, finishes⟩))
  cases here : c.session with
  | select => exact .inr (.inl (.inl ⟨.shutdown, by simp [sessionStep, here]⟩))
  | pinging | answering | reserving | joining =>
      exact inside (by rw [here]; rfl) (by simp [here]) (by simp [here])
  | queueing call =>
      cases call with
      | encoding | sending => exact inside (by rw [here]; rfl) (by simp [here]) (by simp [here])
      | suspended response =>
          cases live : c.wire.writer.hasEnded with
          | true => exact proceeds (by simp [proceed, here, Queueing.proceed, live])
          | false =>
              by_cases waits : .session ∈ c.wire.slots.waiting
              · have drains :=
                  drains_of_waiting (lined_of_run run) (kept_of_run run) finishing
                    (holdsBulk_of_queueing here) waits
                exact .inr (.inr (othersGoOn_of_writer (Wire.Drains.enabled drains live)))
              · exact proceeds (by simp [proceed, here, Queueing.proceed, live, waits])
  | exited ending =>
      refine proceeds ?_
      simp only [proceed, here]
      split <;> rfl
  | cancelling task ending =>
      rw [here] at phase
      exact .inr (goesOn_cancelling phase.2 here)
  | droppingBulk | droppingBusy | abortingWriter | droppingSelf | abortingActor =>
      exact proceeds (by simp [proceed, here])
  | farewelling ending =>
      refine proceeds ?_
      simp only [proceed, here]
      split <;> rfl
  | droppingControl queued result => exact proceeds (by simp [proceed, here])
  | flushing result => exact .inr (.inl (.inl ⟨.flushTimeout, by simp [sessionStep, here]⟩))
  | awaitingWriter result =>
      rw [here] at phase
      cases live : c.wire.writer.hasEnded with
      | true => exact proceeds (by simp [proceed, here, live])
      | false =>
          exact .inr (.inr (othersGoOn_of_writer (Wire.aborted_enabled phase.2 live)))
  | awaitingActor result =>
      rw [here] at phase
      exact .inr (goesOn_awaitingActor phase.2.2 (unsuspended_actor_of_run run) here)
  | returned result => exact .inl ⟨result, here⟩

/-- No circular wait between the session, the scrape task, the busy-response actor and the
writer.
-/
theorem noCircularWait {context : WorkerContext} {name : String}
    {history : List (Transition Connection ConnectionAction Event)} {c : Connection}
    (run : (connectionMachine context).Run (new context name) history c)
    : c.NoCircularWait context where
  session response here waits := by
    have drains :=
      drains_of_waiting (lined_of_run run) (kept_of_run run) (finishing_of_run run)
        (holdsBulk_of_queueing here) waits
    have serving := (kept_of_run run).serving (by rw [here]; rfl)
    rcases drains with drains | closing
    · exact drains
    · exact absurd closing serving.wire.notClosingSink
  actor response here waits :=
    drains_of_waiting (lined_of_run run) (kept_of_run run) (finishing_of_run run)
      (by simp [here, BusyActor.senders, BusyActor.hasEnded]) waits
  sessionPlaced _ here placed := proceeds_of_placed here placed
  actorPlaced _ here placed := queues_of_placed here placed
  joining task response here :=
    ((scheduled_of_run run).joining task (by rw [here]; rfl) (by rw [here]; rfl)).2
  cancelling task ending here := by
    have phase := (finishing_of_run run).phase
    rw [here] at phase
    exact phase.2
  completing := (scheduled_of_run run).oneScrape.sends
  moves := moves_of_run run

/-- The ninth busy answer suspends the session, which waits for the writer to end its send. -/
theorem noCircularWait_nine
    : ∃ history c,
        Connection.exec (.bare 1) (rejectedRequests 9) = some (history, c)
        ∧ .session ∈ c.wire.slots.waiting
        ∧ c.NoCircularWait (.bare 1) := by
  have passed
      : (Connection.exec (.bare 1) (rejectedRequests 9)).any (fun (_, c) =>
          c.wire.slots.waiting == [.session])
        = true := by
    decide +kernel
  obtain ⟨history, c, executed, checked⟩ := Machine.exec_checked passed
  have waiting : c.wire.slots.waiting = [.session] := eq_of_beq checked
  exact ⟨history, c, executed, waiting ▸ List.mem_singleton_self _,
    noCircularWait (Machine.exec_run executed)⟩

/-- A scrape is under way, another request is rejected, and the POST of the rejection fails,
so that the busy-response actor sends it over the WebSocket.
-/
def rejectedByPost : List ConnectionAction :=
  [.session (.read (requestFrame secondUid)), .session (.reply .granted), .session .proceed,
    .session .proceed, .busyActor .receive, .busyActor (.post 0 .granted),
    .busyActor (.post 0 (.capacity 16)),
    .busyActor (.post 0 (.posted (.error (.request false)))), .busyActor (.post 0 .done),
    .busyActor (.completed 0), .busyActor (.reply .granted),
    .busyActor (.reply (.capacity 57)), .busyActor (.reply .done), .busyActor .queue,
    .busyActor .queue]

/-- Nine rejections come back from their POSTs while the writer sends the register message;
then the client shuts down and its `Close` is sent.
-/
def rejectedAtShutdown : List ConnectionAction :=
  [.writer .pollControl, .session (.read (requestFrame firstUid))]
    ++ (List.replicate 9 rejectedByPost).flatten
    ++ [.session .shutdown, .session .proceed, .scrape 0 .cancelled, .session .proceed,
      .session .proceed, .session .proceed, .session .proceed, .session .proceed,
      .writer .sendOk, .writer .pollControl, .writer .sendOk]

/-- A writer that closes its sink takes nothing. -/
theorem not_drains_of_closing {wire : Wire} (closes : wire.writer.closing = true) (who : Sender)
    : ¬ wire.Drains who := by
  have closing := WriterPc.closingSink_of_closing closes
  rintro (sending | ⟨polls, history, next, frame, polled, executed, handed⟩ | ⟨ended, -⟩)
  · simp [closing, WriterPc.sending] at sending
  · cases polls with
    | nil =>
        obtain ⟨rfl, -⟩ := Prod.mk.inj (Option.some.inj executed)
        exact absurd handed List.not_mem_nil
    | cons poll rest =>
        have stuck : writerMachine.step wire poll = none := by
          rcases polled poll List.mem_cons_self with rfl | rfl <;>
            simp [writerMachine, Wire.step, closing]
        simp [Machine.exec, stuck] at executed
  · simp [closing, WriterPc.hasEnded] at ended

/-- In `finish` the busy-response actor may wait in the line of a writer that is closing its
sink, and the session awaits a scrape task that has been aborted before it has sent its
completion.
-/
theorem waiting_in_finish
    : (∃ history c,
        Connection.exec (.bare 3) rejectedAtShutdown = some (history, c)
        ∧ c.actor.pc.line = [.busyActor]
        ∧ .busyActor ∈ c.wire.slots.waiting
        ∧ ¬ c.wire.Drains .busyActor)
      ∧ ∃ history c scrape,
          Connection.exec (.bare 3) abortedScrape = some (history, c)
          ∧ c.session.awaited = some 0
          ∧ c.tasks[0]? = some scrape
          ∧ scrape.pc.sent = false := by
  constructor
  · have passed
        : (Connection.exec (.bare 3) rejectedAtShutdown).any (fun (_, c) =>
            c.actor.pc.line == [.busyActor] && c.wire.slots.waiting == [.busyActor]
              && c.wire.writer.closing)
          = true := by
      decide +kernel
    obtain ⟨history, c, executed, checked⟩ := Machine.exec_checked passed
    simp only [Bool.and_eq_true, beq_iff_eq] at checked
    obtain ⟨⟨line, waiting⟩, closing⟩ := checked
    exact ⟨history, c, executed, line, waiting ▸ List.mem_singleton_self _,
      not_drains_of_closing closing _⟩
  · have passed
        : (Connection.exec (.bare 3) abortedScrape).any (fun (_, c) =>
            c.session.awaited == some 0
              && c.tasks[0]?.any fun scrape => !scrape.pc.sent)
          = true := by
      decide
    obtain ⟨history, c, executed, checked⟩ := Machine.exec_checked passed
    simp only [Bool.and_eq_true, beq_iff_eq] at checked
    obtain ⟨scrape, found, unsent⟩ := (Option.any_eq_true _ _).mp checked.2
    exact ⟨history, c, scrape, executed, checked.1, found, by simpa using unsent⟩

end Connection

end ProxyClient
