import ProxyClient.Worker.Wire

/-! `queue_ws_response`, which the session and the busy-response actor share: serialise the
response, then send it into the bulk queue, waiting in line while the queue is full.
-/

namespace ProxyClient

open Foundations

/-- What an answered operation shows an observer: the movements of the budget. -/
def Op.report : (op : Op) → op.Answer → List Event
  | .tryAcquire bytes, .ok () => [.acquired bytes]
  | .tryAcquire _, .error error => [.refused error]
  | .release bytes, () => [.released bytes]
  | .withCapacity _, _ | .tryReserveExact _, _ | .get _, _ | .nextChunk _, _ | .post _, _ => []
  | .fault _, answer => answer.elim

/-- Answer the pending operation of a program. -/
def Execution.reply {α : Type} (execution : Execution α) (reply : Reply)
    : Option (Execution α × List Event) :=
  execution.advance Op.held Op.read Op.report reply

/-- A movement of the budget. -/
def Event.moves : Event → Bool
  | .acquired _ | .refused _ | .released _ => true
  | .requested .. | .controlQueued _ | .bulkQueued _ | .handed _ | .sent _ | .sendFailed _
  | .posted .. | .dropped .. | .abandoned .. | .panicked _ | .writerReturned _ => false

theorem Op.report_moves {op : Op} (answer : op.Answer)
    : ∀ event ∈ op.report answer, event.moves = true := by
  cases op with
  | tryAcquire bytes => cases answer <;> simp [report, Event.moves]
  | release bytes => simp [report, Event.moves]
  | fault message => exact answer.elim
  | withCapacity | tryReserveExact | get | nextChunk | post =>
      exact fun _ absent => absurd absent List.not_mem_nil

/-- An answered operation shows movements of the budget and nothing else. -/
theorem Execution.reply_moves {α : Type} {execution next : Execution α} {reply : Reply}
    {events : List Event} (replied : execution.reply reply = some (next, events))
    : ∀ event ∈ events, event.moves = true := by
  obtain ⟨op, rest, answer, -, -, -, rfl⟩ := Running.advance_eq_some replied
  exact op.report_moves answer

/-- Where a call of `queue_ws_response` stands. -/
inductive Queueing
  | encoding (origin : Origin) (uid : String)
      (execution : Execution (Except BoxError EncodedResponse))
  /-- `bulk.send` is polled next. -/
  | sending (response : EncodedResponse)
  /-- Suspended in `bulk.send`: in line for a place, or already granted one. -/
  | suspended (response : EncodedResponse)

/-- The result of one step of `queue_ws_response`. -/
inductive QueueingResult
  | again (queueing : Queueing)
  | finished
  /-- The writer has ended, so its channel is closed. -/
  | closed

namespace Queueing

/-- The call `queue_ws_response(bulk, memory_budget, response)` up to its first step. The
execution starts with the bytes the response retains.
-/
def start (origin : Origin) (response : BudgetedResponse) : Queueing :=
  .encoding origin response.response.uid.text
    ⟨response.retained.bytes, encodeForQueue origin response⟩

/-- The response a call holds. -/
def piece : Queueing → Piece
  | .encoding origin uid execution => ⟨origin, uid, execution.ghost⟩
  | .sending response | .suspended response => response.piece

/-- Suspended on the capacity of the bulk queue. -/
def isSuspended : Queueing → Bool
  | .suspended _ => true
  | .encoding .. | .sending _ => false

/-- The operation that the encoder performs next. -/
def computes : Queueing → Option Op
  | .encoding _ _ execution => execution.pending?
  | .sending _ | .suspended _ => none

/-- Answer an operation of the encoder. -/
def reply (reply : Reply) : Queueing → Option (Queueing × List Event)
  | .encoding origin uid execution =>
      (execution.reply reply).map fun (execution, events) =>
        (.encoding origin uid execution, events)
  | .sending _ | .suspended _ => none

/-- One step of `queue_ws_response` by its caller `who`, on the writer's queues. A refused
encoding ends the call with a warning; a closed channel ends it with an error.
-/
def proceed (who : Sender) (wire : Wire)
    : Queueing → Option (QueueingResult × Wire × List Event)
  | .encoding origin uid execution =>
      execution.result?.map fun
        | .error error => (.finished, wire, [.dropped origin uid (.encoding error)])
        | .ok response => (.again (.sending response), wire, [])
  | .sending response =>
      if wire.writer.hasEnded then some (.closed, wire, response.piece.lost)
      else if 0 < wire.slots.permits then
        let slots := { wire.slots with permits := wire.slots.permits - 1 }
        some (.finished, { wire with slots }.push response)
      else
        let slots := { wire.slots with waiting := wire.slots.waiting ++ [who] }
        some (.again (.suspended response), { wire with slots }, [])
  | .suspended response =>
      if wire.writer.hasEnded then
        some (.closed, { wire with slots := wire.slots.giveUp who }, response.piece.lost)
      else if who ∈ wire.slots.waiting then none
      else some (.finished, wire.push response)

theorem reply_moves {call next : Queueing} {answer : Reply} {events : List Event}
    (replied : call.reply answer = some (next, events))
    : ∀ event ∈ events, event.moves = true := by
  cases call with
  | encoding origin uid execution =>
      obtain ⟨⟨execution', events'⟩, answered, same⟩ := Option.map_eq_some_iff.mp replied
      obtain ⟨-, rfl⟩ := same
      exact Execution.reply_moves answered
  | sending | suspended => cases replied

/-- A proof view of `Queueing.proceed`: one constructor for each outcome. -/
inductive Proceeded (who : Sender) (wire : Wire)
    : Queueing → QueueingResult → Wire → List Event → Prop
  | dropped {origin uid execution error} (failed : execution.result? = some (.error error))
    : Proceeded who wire (.encoding origin uid execution) .finished wire
        [.dropped origin uid (.encoding error)]
  | encoded {origin uid execution response} (done : execution.result? = some (.ok response))
    : Proceeded who wire (.encoding origin uid execution) (.again (.sending response)) wire []
  | closed {response} (ended : wire.writer.hasEnded = true)
    : Proceeded who wire (.sending response) .closed wire response.piece.lost
  | placed {response} (live : wire.writer.hasEnded = false) (free : 0 < wire.slots.permits)
    : Proceeded who wire (.sending response) .finished
        { wire with
          bulk := wire.bulk ++ [response],
          slots := { wire.slots with permits := wire.slots.permits - 1 } }
        [.bulkQueued response]
  | joined {response} (live : wire.writer.hasEnded = false) (full : wire.slots.permits = 0)
    : Proceeded who wire (.sending response) (.again (.suspended response))
        { wire with slots := { wire.slots with waiting := wire.slots.waiting ++ [who] } } []
  | woken {response} (ended : wire.writer.hasEnded = true)
    : Proceeded who wire (.suspended response) .closed
        { wire with slots := wire.slots.giveUp who } response.piece.lost
  | granted {response} (live : wire.writer.hasEnded = false)
    (served : who ∉ wire.slots.waiting)
    : Proceeded who wire (.suspended response) .finished
        { wire with bulk := wire.bulk ++ [response] } [.bulkQueued response]

/-- Every step of `queue_ws_response` is one of the view's constructors. -/
theorem proceeded_of_proceed {who : Sender} {wire next : Wire} {call : Queueing}
    {result : QueueingResult} {events : List Event}
    (taken : call.proceed who wire = some (result, next, events))
    : Proceeded who wire call result next events := by
  cases call with
  | encoding origin uid execution =>
      obtain ⟨outcome, done, same⟩ := Option.map_eq_some_iff.mp taken
      cases outcome with
      | error error =>
          obtain ⟨rfl, rfl, rfl⟩ := same
          exact .dropped done
      | ok response =>
          obtain ⟨rfl, rfl, rfl⟩ := same
          exact .encoded done
  | sending response =>
      simp only [proceed] at taken
      split at taken
      · next ended =>
          obtain ⟨rfl, rfl, rfl⟩ := taken
          exact .closed ended
      · next live =>
          split at taken
          · next free =>
              obtain ⟨rfl, rfl, rfl⟩ := taken
              exact .placed (by simpa using live) free
          · next full =>
              obtain ⟨rfl, rfl, rfl⟩ := taken
              exact .joined (by simpa using live) (Nat.eq_zero_of_not_pos full)
  | suspended response =>
      simp only [proceed] at taken
      split at taken
      · next ended =>
          obtain ⟨rfl, rfl, rfl⟩ := taken
          exact .woken ended
      · next live =>
          split at taken
          · cases taken
          · next served =>
              obtain ⟨rfl, rfl, rfl⟩ := taken
              exact .granted (by simpa using live) served

/-- `bulk.send` reports a closed channel only once the writer has ended. -/
theorem ended_of_closed {who : Sender} {wire next : Wire} {call : Queueing}
    {events : List Event} (taken : call.proceed who wire = some (.closed, next, events))
    : next.writer.hasEnded = true := by
  cases proceeded_of_proceed taken with
  | closed ended | woken ended => exact ended

/-- `queue_ws_response` leaves the writer where it is. -/
theorem proceed_writer {who : Sender} {wire next : Wire} {call : Queueing}
    {result : QueueingResult} {events : List Event}
    (taken : call.proceed who wire = some (result, next, events))
    : next.writer = wire.writer := by
  cases proceeded_of_proceed taken <;> rfl

end Queueing

end ProxyClient
