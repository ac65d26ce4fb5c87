import ProxyClient.Worker.SessionSteps

/-! Requests and ready answers, and what they mean for the scrape task.
Both are decided by `active_task` alone, which only the session changes: a request that finds
it set is rejected, and a ready answer is given only while it is not set.
-/

namespace ProxyClient

open Foundations

/-- A request was handled, or a ready answer queued. -/
def Event.handshakes : Event → Bool
  | .requested .. => true
  | .controlQueued message => message.isReady
  | .acquired _ | .refused _ | .released _ | .bulkQueued _ | .handed _ | .sent _
  | .sendFailed _ | .posted .. | .dropped .. | .abandoned .. | .panicked _
  | .writerReturned _ => false

/-- Nothing among the events belongs to the handshake. -/
def Silent (events : List Event) : Prop := ∀ event ∈ events, event.handshakes = false

theorem silent_nil : Silent [] := fun _ absent => absurd absent List.not_mem_nil

theorem Silent.cons {event : Event} {events : List Event} (first : event.handshakes = false)
    (rest : Silent events)
    : Silent (event :: events) :=
  List.forall_mem_cons.mpr ⟨first, rest⟩

theorem Silent.append {left right : List Event} (first : Silent left) (rest : Silent right)
    : Silent (left ++ right) :=
  List.forall_mem_append.mpr ⟨first, rest⟩

theorem silent_of_moves {events : List Event}
    (moves : ∀ event ∈ events, event.moves = true)
    : Silent events := by
  intro event listed
  have moved := moves event listed
  cases event <;> first | rfl | cases moved

theorem silent_lose (pieces : List Piece) : Silent (lose pieces) := by
  intro event listed
  obtain ⟨piece, -, lost⟩ := List.mem_flatMap.mp listed
  simp only [Piece.lost, List.mem_cons, List.not_mem_nil, or_false] at lost
  rcases lost with rfl | rfl <;> rfl

theorem Queueing.silent_of_proceed {who : Sender} {wire next : Wire} {call : Queueing}
    {result : QueueingResult} {events : List Event}
    (taken : call.proceed who wire = some (result, next, events))
    : Silent events := by
  cases proceeded_of_proceed taken with
  | dropped | placed | granted => exact silent_nil.cons rfl
  | encoded | joined => exact silent_nil
  | closed | woken => exact (silent_nil.cons rfl).cons rfl

theorem Wire.silent_of_step {wire next : Wire} {action : WriterAction} {events : List Event}
    (taken : wire.step action = some (next, events))
    : Silent events := by
  have finished {result : Except BoxError Unit} : Silent (wire.finish result).2 :=
    (silent_lose _).cons rfl
  cases stepped_of_step taken with
  | control | close | bulk | sentControl | sentClose | failedClose =>
      exact silent_nil.cons rfl
  | controlIdle | controlClosed | bulkIdle | bulkClosed => exact silent_nil
  | sentBulk => exact (silent_nil.cons rfl).cons rfl
  | drained | sinkClosed => exact finished
  | failedControl => exact finished.cons rfl
  | failedBulk => exact ((finished.cons rfl).cons rfl).cons rfl
  | panic => exact (silent_lose _).cons rfl
  | cancelled => exact silent_lose _

theorem silent_deliverByPost (response : BudgetedResponse) (result : Except BoxError Unit)
    : Silent (deliverByPost response result).2 := by
  unfold deliverByPost
  split
  · exact (silent_nil.cons rfl).cons rfl
  · simp only
    split
    · exact (silent_nil.cons rfl).cons rfl
    · exact silent_nil

theorem ScrapePc.silent_of_step {context : WorkerContext} {task : Nat} {aborted : Bool}
    {completions next : Completions} {pc pc' : ScrapePc} {action : ScrapeAction}
    {events : List Event}
    (taken : pc.step context task aborted completions action = some (pc', next, events))
    : Silent events := by
  cases stepped_of_step taken with
  | start | posting | called | sent | finished => exact silent_nil
  | callReplied replied | postReplied replied =>
      exact silent_of_moves (Execution.reply_moves replied)
  | refused => exact silent_nil.cons rfl
  | delivered => exact silent_deliverByPost _ _
  | lost | cancelled => exact silent_lose _
  | panicked => exact (silent_lose _).cons rfl

theorem BusySide.silent_of_step {context : WorkerContext} {side next : BusySide}
    {action : BusyActorAction} {events : List Event}
    (taken : side.step context action = some (next, events))
    : Silent events := by
  cases stepped_of_step taken with
  | received | inputClosed | failed => exact silent_nil
  | replied here found replied => exact silent_of_moves (Execution.reply_moves replied)
  | encoding here answered => exact silent_of_moves (Queueing.reply_moves answered)
  | delivered => exact (silent_nil.cons rfl).cons rfl
  | queueing here proceeded | queued here proceeded =>
      exact Queueing.silent_of_proceed proceeded
  | closed here proceeded => exact (Queueing.silent_of_proceed proceeded).append (silent_lose _)
  | finished | cancelled => exact silent_lose _
  | panicked => exact (silent_lose _).cons rfl

namespace Connection

-----------------------------------------------------------------------------------------
-- What one step does to the handshake
-----------------------------------------------------------------------------------------

/-- What a step means for the handshake: nothing, a ready answer of an idle connection, a new
scrape task, or a rejection by a busy one.
-/
inductive Handshake (context : WorkerContext) (c next : Connection) (events : List Event)
    : Prop
  | silent (silent : Silent events)
    (active : next.activeTask = c.activeTask ∨ next.activeTask = none)
  | readied (uid : String) (handshake : context.protocol ≥ 2) (running : c.session = .select)
    (idle : c.activeTask = none) (still : next.activeTask = none)
    (shown : events = [.controlQueued (.text (.ready uid context.workerName))])
  | spawned (uid resource : RustString) (running : c.session = .select)
    (idle : c.activeTask = none)
    (tasks : next.tasks = c.tasks ++ [{ pc := .spawned uid resource, aborted := false }])
    (active : next.activeTask = some c.tasks.length)
    (shown : events = [.requested .scrape uid.text])
  | rejected (uid : RustString) (running : c.session = .select) (busy : c.activeTask.isSome)
    (tasks : next.tasks = c.tasks) (active : next.activeTask = c.activeTask)
    (shown : events = [.requested .busy uid.text])

/-- An offered frame is queued or lost. -/
theorem silent_offer {c : Connection} {message : Message} {session : SessionPc}
    (unready : message.isReady = false)
    : Silent (c.offer message session).2 := by
  intro event listed
  cases Wire.trySend_events listed
  exact unready

theorem handshake_of_sessionStep {context : WorkerContext} {c next : Connection}
    {action : SessionAction} {events : List Event}
    (taken : c.sessionStep context action = some (next, events))
    : Handshake context c next events := by
  cases stepped_of_sessionStep taken with
  | idle | reserved | posted | answered | joinedEmpty | joined | droppedBulk | droppedBusy
  | noFarewell | flushing | notQueued | writerJoined | flushTimeout | abortedWriter
  | droppedSelf | abortedActor | returned => exact .silent silent_nil (.inl rfl)
  | received | aborted => exact .silent silent_nil (.inr rfl)
  | left | channelClosed | writerEnded => exact .silent (silent_lose _) (.inl rfl)
  | refused => exact .silent (silent_nil.cons rfl) (.inl rfl)
  | offered here next plain unready => exact .silent (silent_offer unready) (.inl rfl)
  | @readied action uid here handshake idle =>
      rcases c.wire.trySend_cases (.text (.ready uid context.workerName)) with queued | lost
      · exact .readied uid handshake here idle idle queued
      · exact .silent (lost ▸ silent_nil) (.inl rfl)
  | @spawned action uid resource here idle => exact .spawned uid resource here idle rfl rfl rfl
  | @busy action uid here active => exact .rejected uid here active rfl rfl rfl
  | reserving here answered =>
      exact .silent (silent_of_moves (Execution.reply_moves answered)) (.inl rfl)
  | encoding here answered =>
      exact .silent (silent_of_moves (Queueing.reply_moves answered)) (.inl rfl)
  | queueing here proceeded | queued here proceeded =>
      exact .silent (Queueing.silent_of_proceed proceeded) (.inl rfl)
  | closed here proceeded =>
      exact .silent ((Queueing.silent_of_proceed proceeded).append (silent_lose _)) (.inl rfl)
  | joinFailed => exact .silent ((silent_lose _).append (silent_lose _)) (.inl rfl)
  | leftIdle | leftTask =>
      unfold leaveTasks
      split <;> exact .silent silent_nil (.inl rfl)
  | @farewell ending message here given =>
      have closes := ending.closes message given
      exact .silent (silent_offer (Message.not_ready_of_close closes)) (.inl rfl)

/-- Only the session takes part in the handshake. -/
theorem handshake_of_step {context : WorkerContext} {c next : Connection}
    {action : ConnectionAction} {events : List Event}
    (taken : c.step context action = some (next, events))
    : Handshake context c next events := by
  cases moved_of_step taken with
  | session taken => exact handshake_of_sessionStep taken
  | scrape found stepped => exact .silent (ScrapePc.silent_of_step stepped) (.inl rfl)
  | busyActor stepped => exact .silent (BusySide.silent_of_step stepped) (.inl rfl)
  | writer stepped => exact .silent (Wire.silent_of_step stepped) (.inl rfl)

end Connection

end ProxyClient
