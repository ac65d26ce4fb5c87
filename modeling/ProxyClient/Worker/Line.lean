import ProxyClient.Worker.Serving

/-! The line of the bulk queue.
The session and the busy-response actor both wait in `bulk.send` for one of eight places.
While the writer runs, every place is free, taken by a queued response, or kept for one of
them.
-/

namespace ProxyClient

open Foundations

/-- The caller of `queue_ws_response`, while it is suspended in `bulk.send`. -/
def Queueing.line (who : Sender) (call : Queueing) : List Sender :=
  if call.isSuspended then [who] else []

def QueueingResult.line (who : Sender) : QueueingResult → List Sender
  | .again call => call.line who
  | .finished | .closed => []

def SessionPc.line : SessionPc → List Sender
  | .queueing call => call.line .session
  | .select | .pinging | .reserving .. | .answering _ | .joining .. | .exited _
  | .cancelling .. | .droppingBulk _ | .droppingBusy _ | .farewelling _ | .droppingControl ..
  | .flushing _ | .abortingWriter _ | .awaitingWriter _ | .droppingSelf _ | .abortingActor _
  | .awaitingActor _ | .returned _ => []

def BusyActorPc.line : BusyActorPc → List Sender
  | .queueing call => call.line .busyActor
  | .top | .ended => []

/-- While the writer runs, its bulk queue and the suspended senders fit the places. -/
def Wire.Lined (wire : Wire) (suspended : List Sender) : Prop :=
  wire.writer.hasEnded = false
  → wire.slots.Line bulkQueueCapacity wire.bulk.length suspended

namespace Wire

/-- A wire with the same bulk queue. -/
theorem Lined.same {wire next : Wire} {suspended : List Sender} (lined : wire.Lined suspended)
    (slots : next.slots = wire.slots) (bulk : next.bulk = wire.bulk)
    (writer : next.writer = wire.writer)
    : next.Lined suspended := by
  unfold Lined
  rw [slots, bulk, writer]
  exact lined

theorem Lined.perm {wire : Wire} {suspended other : List Sender}
    (lined : wire.Lined suspended) (same : suspended.Perm other)
    : wire.Lined other :=
  fun live => (lined live).perm same

/-- `control.try_send` leaves the bulk queue alone. -/
theorem Lined.trySend {wire : Wire} {suspended : List Sender} (lined : wire.Lined suspended)
    (message : Message)
    : (wire.trySend message).1.Lined suspended := by
  obtain ⟨bulk, slots, writer⟩ := wire.trySend_same message
  exact lined.same slots bulk writer

/-- The writer gives a place back with every response it takes. -/
theorem Lined.step {wire next : Wire} {action : WriterAction} {events : List Event}
    {suspended : List Sender} (lined : wire.Lined suspended)
    (taken : wire.step action = some (next, events))
    : next.Lined suspended := by
  have line := lined (live_of_step taken)
  cases stepped_of_step taken with
  | bulk here opened queued =>
      intro _
      rw [queued, List.length_cons] at line
      exact line.release
  | control | close | controlIdle | controlClosed | bulkIdle | bulkClosed | sentControl
  | sentClose | sentBulk | failedClose => exact fun _ => line
  | drained | failedControl | failedBulk | sinkClosed | panic | cancelled =>
      exact fun live => nomatch live

end Wire

/-- A call whose encoder is answered is not suspended. -/
theorem Queueing.line_of_reply {call next : Queueing} {answer : Reply} {events : List Event}
    (replied : call.reply answer = some (next, events)) (who : Sender)
    : call.line who = [] ∧ next.line who = [] := by
  cases call with
  | encoding origin uid execution =>
      obtain ⟨answered, -, same⟩ := Option.map_eq_some_iff.mp replied
      obtain ⟨rfl, rfl⟩ := same
      exact ⟨rfl, rfl⟩
  | sending | suspended => cases replied

/-- A step of `queue_ws_response` takes a place, joins the line, or leaves it. -/
theorem Queueing.lined_of_proceed {who : Sender} {wire next : Wire} {call : Queueing}
    {result : QueueingResult} {events : List Event} {others : List Sender}
    (taken : call.proceed who wire = some (result, next, events)) (fresh : who ∉ others)
    (lined : wire.Lined (call.line who ++ others))
    : next.Lined (result.line who ++ others) := by
  cases proceeded_of_proceed taken with
  | dropped | encoded => exact lined
  | closed ended | woken ended =>
      intro live
      have alive : wire.writer.hasEnded = false := live
      simp [ended] at alive
  | placed live free =>
      intro _
      have line := (lined live).take free
      simpa [QueueingResult.line, Queueing.line, Queueing.isSuspended] using line
  | joined live full =>
      intro _
      exact (lined live).join full (.refl _) fresh
  | granted live served =>
      intro _
      simpa [QueueingResult.line] using (lined live).grant (.refl _) served

namespace BusySide

/-- The senders that are suspended on the actor's side, beside `others`. -/
def Lined (side : BusySide) (others : List Sender) : Prop :=
  side.wire.Lined (side.actor.pc.line ++ others)

/-- An actor that ends leaves the line. -/
theorem Lined.leave {side : BusySide} {others : List Sender} (lined : side.Lined others)
    : side.leaveLine.Lined others := by
  unfold leaveLine
  split
  · next response here =>
      intro live
      have line := lined live
      rw [here] at line
      exact line.giveUp (.refl _)
  · next other =>
      refine Wire.Lined.perm lined ?_
      have empty : side.actor.pc.line = [] := by
        cases here : side.actor.pc with
        | top | ended => rfl
        | queueing call =>
            cases call with
            | encoding | sending => rfl
            | suspended response => exact absurd here (other response)
      rw [empty, List.nil_append]

theorem Lined.step {context : WorkerContext} {side next : BusySide} {action : BusyActorAction}
    {events : List Event} {others : List Sender} (lined : side.Lined others)
    (fresh : .busyActor ∉ others)
    (taken : side.step context action = some (next, events))
    : next.Lined others := by
  unfold Lined at lined ⊢
  cases stepped_of_step taken with
  | finished here =>
      rw [here] at lined
      exact lined
  | received | inputClosed | replied | delivered => exact lined
  | failed here =>
      rw [here] at lined
      exact lined
  | encoding here answered =>
      obtain ⟨idle, still⟩ := Queueing.line_of_reply answered .busyActor
      simp only [here, BusyActorPc.line, idle, still] at lined ⊢
      exact lined
  | queueing here proceeded | queued here proceeded | closed here proceeded =>
      rw [here] at lined
      exact Queueing.lined_of_proceed proceeded fresh lined
  | panicked | cancelled => exact Lined.leave lined

end BusySide

namespace Connection

/-- The senders that are suspended in `bulk.send`. -/
def suspended (c : Connection) : List Sender := c.session.line ++ c.actor.pc.line

def Lined (c : Connection) : Prop := c.wire.Lined c.suspended

theorem lined_new {context : WorkerContext} {name : String} : (new context name).Lined :=
  fun _ => Slots.line_new _

/-- The session is not suspended, before the step and after it. -/
theorem Lined.apart {c next : Connection} (lined : c.Lined) (before : c.session.line = [])
    (after : next.session.line = []) (actor : next.actor.pc = c.actor.pc)
    (wire : c.wire.Lined c.actor.pc.line → next.wire.Lined c.actor.pc.line)
    : next.Lined := by
  unfold Lined suspended at *
  rw [before] at lined
  rw [after, actor]
  exact wire lined

/-- The senders of the session are not those of the actor. -/
theorem session_not_mem_line (pc : BusyActorPc) : Sender.session ∉ pc.line := by
  cases pc with
  | top | ended => exact List.not_mem_nil
  | queueing call => cases call <;> simp [BusyActorPc.line, Queueing.line, Queueing.isSuspended]

theorem busyActor_not_mem_line (session : SessionPc) : Sender.busyActor ∉ session.line := by
  cases session with
  | queueing call => cases call <;> simp [SessionPc.line, Queueing.line, Queueing.isSuspended]
  | select | pinging | reserving | answering | joining | exited | cancelling | droppingBulk
  | droppingBusy | farewelling | droppingControl | flushing | abortingWriter | awaitingWriter
  | droppingSelf | abortingActor | awaitingActor | returned => exact List.not_mem_nil

theorem Lined.sessionStep {context : WorkerContext} {c next : Connection}
    {action : SessionAction} {events : List Event} (lined : c.Lined)
    (taken : c.sessionStep context action = some (next, events))
    : next.Lined := by
  cases stepped_of_sessionStep taken with
  | idle => exact lined
  | left here | channelClosed here | writerEnded here | joinFailed here =>
      exact lined.apart (by rw [here]; rfl) rfl rfl id
  | @offered action message session here next =>
      refine lined.apart ?_ ?_ rfl (fun wire => wire.trySend message)
      · rcases here with here | here <;> rw [here] <;> rfl
      · rcases next with rfl | rfl <;> rfl
  | readied here | farewell here =>
      exact lined.apart (by rw [here]; rfl) rfl rfl (fun wire => wire.trySend _)
  | spawned here =>
      refine lined.apart (by rw [here]; rfl) ?_ rfl id
      simp only [here]
      rfl
  | busy here | received here | reserving here | refused here | reserved here | posted here
  | answered here | joinedEmpty here | joined here | aborted here | noFarewell here
  | flushing here | notQueued here | flushTimeout here | droppedBusy here | abortedActor here
  | returned here | droppedBulk here | droppedSelf here | abortedWriter here =>
      exact lined.apart (by rw [here]; rfl) rfl rfl fun wire => wire.same rfl rfl rfl
  | encoding here answered =>
      obtain ⟨idle, still⟩ := Queueing.line_of_reply answered .session
      refine lined.apart ?_ still rfl id
      rw [here]
      exact idle
  | queueing here proceeded | queued here proceeded | closed here proceeded =>
      unfold Lined suspended at lined
      rw [here] at lined
      exact Queueing.lined_of_proceed proceeded (session_not_mem_line _) lined
  | leftIdle here | leftTask here =>
      unfold leaveTasks
      split <;> exact lined.apart (by rw [here]; rfl) rfl rfl id
  | writerJoined here =>
      rcases here with here | here <;> exact lined.apart (by rw [here]; rfl) rfl rfl id

theorem Lined.step {context : WorkerContext} {c next : Connection} {action : ConnectionAction}
    {events : List Event} (lined : c.Lined)
    (taken : c.step context action = some (next, events))
    : next.Lined := by
  cases moved_of_step taken with
  | session taken => exact lined.sessionStep taken
  | scrape => exact lined
  | busyActor stepped =>
      have sided : c.side.Lined c.session.line := Wire.Lined.perm lined List.perm_append_comm
      have kept := sided.step (busyActor_not_mem_line _) stepped
      exact kept.perm List.perm_append_comm
  | writer stepped => exact Wire.Lined.step lined stepped

theorem lined_of_run {context : WorkerContext} {name : String}
    {history : List (Transition Connection ConnectionAction Event)} {c : Connection}
    (run : (connectionMachine context).Run (new context name) history c)
    : c.Lined :=
  run.invariant Lined lined_new Lined.step

end Connection

end ProxyClient
