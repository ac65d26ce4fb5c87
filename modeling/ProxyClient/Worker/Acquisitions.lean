import ProxyClient.Worker.Exchange
import ProxyClient.Worker.SessionSteps

/-! What one step of a connection asks of the memory budget: one acquisition, or the release
of some reservations, but never both.
-/

namespace ProxyClient

open Foundations

/-- Events that acquire nothing. -/
def Gives (events : List Event) : Prop := ∀ event ∈ events, reservedBytes.gain event = 0

namespace Gives

variable {event : Event} {events more : List Event}

theorem nil : Gives [] := fun _ absent => absurd absent List.not_mem_nil

theorem cons (first : reservedBytes.gain event = 0) (rest : Gives events)
    : Gives (event :: events) :=
  List.forall_mem_cons.mpr ⟨first, rest⟩

theorem append (first : Gives events) (rest : Gives more) : Gives (events ++ more) :=
  List.forall_mem_append.mpr ⟨first, rest⟩

theorem single (first : reservedBytes.gain event = 0) : Gives [event] := cons first nil

theorem lost (piece : Piece) : Gives piece.lost := cons rfl (single rfl)

/-- Losing pieces only releases, by induction over them. -/
theorem lose (pieces : List Piece) : Gives (ProxyClient.lose pieces) := by
  induction pieces with
  | nil => exact nil
  | cons piece rest ih => exact (lost piece).append ih

end Gives

/-- A step acquires once and does nothing else, or it acquires nothing. -/
def AcquiresAlone (events : List Event) : Prop :=
  (∃ bytes, events = [.acquired bytes]) ∨ Gives events

theorem Execution.acquiresAlone {α : Type} {execution next : Execution α} {reply : Reply}
    {events : List Event} (replied : execution.reply reply = some (next, events))
    : AcquiresAlone events := by
  obtain ⟨op, rest, answer, -, -, -, rfl⟩ := Running.advance_eq_some replied
  cases op with
  | tryAcquire bytes =>
      cases answer with
      | ok => exact .inl ⟨bytes, rfl⟩
      | error => exact .inr (.single rfl)
  | release bytes => exact .inr (.single rfl)
  | fault message => exact answer.elim
  | withCapacity | tryReserveExact | get | nextChunk | post => exact .inr .nil

namespace Queueing

theorem acquiresAlone {call next : Queueing} {answer : Reply} {events : List Event}
    (replied : call.reply answer = some (next, events))
    : AcquiresAlone events := by
  cases call with
  | encoding origin uid execution =>
      obtain ⟨⟨execution', events'⟩, answered, same⟩ := Option.map_eq_some_iff.mp replied
      obtain ⟨-, rfl⟩ := same
      exact Execution.acquiresAlone answered
  | sending | suspended => cases replied

theorem gives {who : Sender} {wire next : Wire} {call : Queueing} {result : QueueingResult}
    {events : List Event} (taken : call.proceed who wire = some (result, next, events))
    : Gives events := by
  cases proceeded_of_proceed taken with
  | dropped | placed | granted => exact .single rfl
  | encoded | joined => exact .nil
  | closed | woken => exact .lost _

end Queueing

namespace Wire

theorem trySend_gives (wire : Wire) (message : Message) : Gives (wire.trySend message).2 := by
  rcases wire.trySend_cases message with queued | lost
  · rw [queued]
    exact .single rfl
  · rw [lost]
    exact .nil

theorem gives {wire next : Wire} {action : WriterAction} {events : List Event}
    (taken : wire.step action = some (next, events))
    : Gives events := by
  have finished (result : Except BoxError Unit) : Gives (wire.finish result).2 :=
    .cons rfl (.lose _)
  cases stepped_of_step taken with
  | control | close | bulk | sentControl | sentClose | failedClose => exact .single rfl
  | controlIdle | controlClosed | bulkIdle | bulkClosed => exact .nil
  | drained | sinkClosed => exact finished _
  | sentBulk => exact .cons rfl (.single rfl)
  | failedControl => exact .cons rfl (finished _)
  | failedBulk => exact .cons rfl ((Gives.lost _).append (finished _))
  | panic => exact .cons rfl (.lose _)
  | cancelled => exact .lose _

end Wire

theorem deliverByPost_gives (response : BudgetedResponse) (result : Except BoxError Unit)
    : Gives (deliverByPost response result).2 := by
  unfold deliverByPost
  split
  · exact .cons rfl (.single rfl)
  · simp only
    split
    · exact .cons rfl (.single rfl)
    · exact .nil

theorem ScrapePc.acquiresAlone {context : WorkerContext} {task : Nat} {aborted : Bool}
    {completions next : Completions} {pc pc' : ScrapePc} {action : ScrapeAction}
    {events : List Event}
    (taken : pc.step context task aborted completions action = some (pc', next, events))
    : AcquiresAlone events := by
  cases stepped_of_step taken with
  | callReplied replied | postReplied replied => exact Execution.acquiresAlone replied
  | start | posting | called | sent | finished => exact .inr .nil
  | refused => exact .inr (.single rfl)
  | delivered => exact .inr (deliverByPost_gives _ _)
  | lost | cancelled => exact .inr (.lose _)
  | panicked => exact .inr (.cons rfl (.lose _))

theorem BusySide.acquiresAlone {context : WorkerContext} {side next : BusySide}
    {action : BusyActorAction} {events : List Event}
    (taken : side.step context action = some (next, events))
    : AcquiresAlone events := by
  cases stepped_of_step taken with
  | replied here found answered => exact Execution.acquiresAlone answered
  | encoding here answered => exact Queueing.acquiresAlone answered
  | received | inputClosed | failed => exact .inr .nil
  | delivered => exact .inr (.cons rfl (.single rfl))
  | queueing here proceeded | queued here proceeded => exact .inr (Queueing.gives proceeded)
  | closed here proceeded => exact .inr ((Queueing.gives proceeded).append (.lose _))
  | finished | cancelled => exact .inr (.lose _)
  | panicked => exact .inr (.cons rfl (.lose _))

namespace Connection

theorem acquiresAlone_of_sessionStep {context : WorkerContext} {c next : Connection}
    {action : SessionAction} {events : List Event}
    (taken : c.sessionStep context action = some (next, events))
    : AcquiresAlone events := by
  cases stepped_of_sessionStep taken with
  | reserving here answered => exact Execution.acquiresAlone answered
  | encoding here answered => exact Queueing.acquiresAlone answered
  | left | channelClosed | writerEnded => exact .inr (.lose _)
  | offered | readied | farewell => exact .inr (Wire.trySend_gives _ _)
  | spawned | busy | refused => exact .inr (.single rfl)
  | queueing here proceeded | queued here proceeded => exact .inr (Queueing.gives proceeded)
  | closed here proceeded => exact .inr ((Queueing.gives proceeded).append (.lose _))
  | joinFailed => exact .inr ((Gives.lose _).append (.lose _))
  | idle | received | reserved | posted | answered | joinedEmpty | joined | aborted | leftIdle
  | leftTask | droppedBulk | droppedBusy | noFarewell | flushing | notQueued | writerJoined
  | flushTimeout | abortedWriter | droppedSelf | abortedActor | returned => exact .inr .nil

/-- Every step of a connection makes at most one acquisition, and then nothing else. -/
theorem acquiresAlone_of_step {context : WorkerContext} {c next : Connection}
    {action : ConnectionAction} {events : List Event}
    (taken : c.step context action = some (next, events))
    : AcquiresAlone events := by
  cases moved_of_step taken with
  | session taken => exact acquiresAlone_of_sessionStep taken
  | scrape found stepped => exact ScrapePc.acquiresAlone stepped
  | busyActor stepped => exact BusySide.acquiresAlone stepped
  | writer stepped => exact .inr (Wire.gives stepped)

end Connection

end ProxyClient
