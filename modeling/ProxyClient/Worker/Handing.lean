import ProxyClient.Worker.Exchange
import ProxyClient.Worker.Serving

/-! The writer among arbitrary senders.
Frames and responses are queued, and senders dropped, between any two steps of the writer, as
far as the channels allow it. What is queued is handed to the socket first in, first out.
-/

namespace ProxyClient

open Foundations

-----------------------------------------------------------------------------------------
-- The writer and arbitrary senders
-----------------------------------------------------------------------------------------

/-- A step of the writer or of somebody at the other end of its channels. -/
inductive WireAction
  | writer (action : WriterAction)
  /-- A control sender queues a frame, if there is room. -/
  | control (message : Message)
  /-- A bulk sender queues a response; its wait for a place does not matter to the writer. -/
  | bulk (response : EncodedResponse)
  | dropControlSender
  | dropBulkSender
  /-- The bulk senders take places, join their line, or leave it. -/
  | places (slots : Slots Sender)
  /-- `writer.abort()`. -/
  | abort

namespace Wire

/-- `run_writer` starts on empty queues, with so many bulk senders. -/
def start (senders : Nat) : Wire :=
  { control := [], controlSender := true, bulk := [], bulkSenders := senders,
    slots := .new bulkQueueCapacity, controlOpen := true, bulkOpen := true, writer := .select,
    aborted := false }

/-- A step of the writer, or one that its channels allow to their senders. -/
def stepAmong (wire : Wire) : WireAction → Option (Wire × List Event)
  | .writer action => wire.step action
  | .control message => if wire.controlSender then some (wire.trySend message) else none
  | .bulk response =>
      if 0 < wire.bulkSenders ∧ wire.writer.hasEnded = false then some (wire.push response)
      else none
  | .dropControlSender => some (wire.dropControlSender, [])
  | .dropBulkSender => some (wire.dropBulkSender, [])
  | .places slots => some ({ wire with slots }, [])
  | .abort => some ({ wire with aborted := true }, [])

end Wire

/-- The writer among arbitrary senders. -/
def wireMachine : Machine Wire WireAction Event where
  step := Wire.stepAmong

/-- A proof view of `Wire.stepAmong`. -/
inductive Wire.Among (wire : Wire) : WireAction → Wire → List Event → Prop
  | writer {action next events} (taken : wire.step action = some (next, events))
    : Among wire (.writer action) next events
  | control {message} (sender : wire.controlSender = true)
    : Among wire (.control message) (wire.trySend message).1 (wire.trySend message).2
  | bulk {response} (sender : 0 < wire.bulkSenders) (live : wire.writer.hasEnded = false)
    : Among wire (.bulk response) (wire.push response).1 (wire.push response).2
  | dropControlSender : Among wire .dropControlSender wire.dropControlSender []
  | dropBulkSender : Among wire .dropBulkSender wire.dropBulkSender []
  | places {slots} : Among wire (.places slots) { wire with slots } []
  | abort : Among wire .abort { wire with aborted := true } []

theorem Wire.among_of_stepAmong {wire next : Wire} {action : WireAction} {events : List Event}
    (taken : wire.stepAmong action = some (next, events))
    : wire.Among action next events := by
  cases action with
  | writer action => exact .writer taken
  | control message =>
      simp only [stepAmong] at taken
      split at taken
      · next sender =>
          have same : wire.trySend message = (next, events) := Option.some.inj taken
          have sent : wire.Among (.control message) (wire.trySend message).1 _ := .control sender
          rwa [same] at sent
      · cases taken
  | bulk response =>
      simp only [stepAmong] at taken
      split at taken
      · next allowed =>
          obtain ⟨rfl, rfl⟩ := taken
          exact .bulk allowed.1 allowed.2
      · cases taken
  | dropControlSender =>
      obtain ⟨rfl, rfl⟩ := taken
      exact .dropControlSender
  | dropBulkSender =>
      obtain ⟨rfl, rfl⟩ := taken
      exact .dropBulkSender
  | places slots =>
      obtain ⟨rfl, rfl⟩ := taken
      exact .places
  | abort =>
      obtain ⟨rfl, rfl⟩ := taken
      exact .abort

-----------------------------------------------------------------------------------------
-- What the events say
-----------------------------------------------------------------------------------------

namespace Frame

def control? : Frame → Option Message
  | .control message => some message
  | .bulk _ => none

def bulk? : Frame → Option EncodedResponse
  | .control _ => none
  | .bulk response => some response

end Frame

namespace Event

/-- The frame that is handed to `send_ws`. -/
def handed? : Event → Option Frame
  | .handed frame => some frame
  | _ => none

def sent? : Event → Option Frame
  | .sent frame => some frame
  | _ => none

def controlQueued? : Event → Option Message
  | .controlQueued message => some message
  | _ => none

def bulkQueued? : Event → Option EncodedResponse
  | .bulkQueued response => some response
  | _ => none

/-- The response whose send ends, in whatever way. -/
def endedSend? : Event → Option EncodedResponse
  | .sent (.bulk response) | .sendFailed (.bulk response) => some response
  | _ => none

/-- Nothing is handed over after this event: a `Close` is handed over, or a send fails. -/
def halts : Event → Bool
  | .handed (.control message) => message.isClose
  | .sendFailed _ => true
  | _ => false

end Event

/-- The frames handed over, the frames sent, and what was queued, each in its order. -/
def handedFrames (events : List Event) : List Frame := events.filterMap Event.handed?
def sentFrames (events : List Event) : List Frame := events.filterMap Event.sent?
def queuedControl (events : List Event) : List Message := events.filterMap Event.controlQueued?

def queuedBulk (events : List Event) : List EncodedResponse :=
  events.filterMap Event.bulkQueued?

/-- The responses whose sends have ended. -/
def endedSends (events : List Event) : List EncodedResponse :=
  events.filterMap Event.endedSend?

/-- The frame the writer is sending, unless it is a `Close`. -/
def WriterPc.frames : WriterPc → List Frame
  | .sendingControl message => [.control message]
  | .sendingBulk response => [.bulk response]
  | .select | .bulkTurn | .sendingClose _ | .closingSink | .ended _ => []

/-- The writer handles a `Close`, or has ended. -/
def WriterPc.halted : WriterPc → Bool
  | .sendingClose _ | .closingSink | .ended _ => true
  | .select | .bulkTurn | .sendingControl _ | .sendingBulk _ => false

/-- Losing pieces shows neither frames nor queueing, whatever is looked for. -/
theorem filterMap_lose {α : Type} {shows : Event → Option α}
    (abandoned : ∀ origin uid, shows (.abandoned origin uid) = none)
    (released : ∀ bytes, shows (.released bytes) = none) (pieces : List Piece)
    : (lose pieces).filterMap shows = [] := by
  refine List.filterMap_eq_nil_iff.mpr ?_
  intro event listed
  obtain ⟨piece, -, lost⟩ := List.mem_flatMap.mp listed
  simp only [Piece.lost, List.mem_cons, List.not_mem_nil, or_false] at lost
  rcases lost with rfl | rfl
  · exact abandoned _ _
  · exact released _

@[simp] theorem handedFrames_lose (pieces : List Piece) : handedFrames (lose pieces) = [] :=
  filterMap_lose (fun _ _ => rfl) (fun _ => rfl) pieces

@[simp] theorem sentFrames_lose (pieces : List Piece) : sentFrames (lose pieces) = [] :=
  filterMap_lose (fun _ _ => rfl) (fun _ => rfl) pieces

@[simp] theorem queuedControl_lose (pieces : List Piece) : queuedControl (lose pieces) = [] :=
  filterMap_lose (fun _ _ => rfl) (fun _ => rfl) pieces

@[simp] theorem queuedBulk_lose (pieces : List Piece) : queuedBulk (lose pieces) = [] :=
  filterMap_lose (fun _ _ => rfl) (fun _ => rfl) pieces

@[simp] theorem endedSends_lose (pieces : List Piece) : endedSends (lose pieces) = [] :=
  filterMap_lose (fun _ _ => rfl) (fun _ => rfl) pieces

section Events

variable (event : Event) (events more : List Event)

@[simp] theorem handedFrames_nil : handedFrames [] = [] := rfl
@[simp] theorem sentFrames_nil : sentFrames [] = [] := rfl
@[simp] theorem queuedControl_nil : queuedControl [] = [] := rfl
@[simp] theorem queuedBulk_nil : queuedBulk [] = [] := rfl

@[simp] theorem handedFrames_cons
    : handedFrames (event :: events) = event.handed?.toList ++ handedFrames events := by
  cases event <;> rfl

@[simp] theorem sentFrames_cons
    : sentFrames (event :: events) = event.sent?.toList ++ sentFrames events := by
  cases event <;> rfl

@[simp] theorem queuedControl_cons
    : queuedControl (event :: events)
      = event.controlQueued?.toList ++ queuedControl events := by
  cases event <;> rfl

@[simp] theorem queuedBulk_cons
    : queuedBulk (event :: events) = event.bulkQueued?.toList ++ queuedBulk events := by
  cases event <;> rfl

@[simp] theorem endedSends_cons
    : endedSends (event :: events) = event.endedSend?.toList ++ endedSends events := by
  cases event with
  | sent frame | sendFailed frame => cases frame <;> rfl
  | acquired | refused | released | requested | controlQueued | bulkQueued | handed | posted
  | dropped | abandoned | panicked | writerReturned => rfl

@[simp] theorem handedFrames_append
    : handedFrames (events ++ more) = handedFrames events ++ handedFrames more :=
  List.filterMap_append

@[simp] theorem sentFrames_append
    : sentFrames (events ++ more) = sentFrames events ++ sentFrames more :=
  List.filterMap_append

@[simp] theorem queuedControl_append
    : queuedControl (events ++ more) = queuedControl events ++ queuedControl more :=
  List.filterMap_append

@[simp] theorem queuedBulk_append
    : queuedBulk (events ++ more) = queuedBulk events ++ queuedBulk more :=
  List.filterMap_append

end Events

/-- The control frames and the responses among some frames. -/
def controlOf (frames : List Frame) : List Message := frames.filterMap Frame.control?
def bulkOf (frames : List Frame) : List EncodedResponse := frames.filterMap Frame.bulk?

@[simp] theorem controlOf_append (frames more : List Frame)
    : controlOf (frames ++ more) = controlOf frames ++ controlOf more :=
  List.filterMap_append

@[simp] theorem bulkOf_append (frames more : List Frame)
    : bulkOf (frames ++ more) = bulkOf frames ++ bulkOf more :=
  List.filterMap_append

-----------------------------------------------------------------------------------------
-- What one step does to the queues
-----------------------------------------------------------------------------------------

namespace Wire

/-- A step moves the heads of the queues into the socket, and puts new items at their ends;
one that ends the writer does neither.
-/
structure Moves (wire : Wire) (events : List Event) (next : Wire) : Prop where
  control
    : next.writer.hasEnded = false
      → wire.control ++ queuedControl events
        = controlOf (handedFrames events) ++ next.control
  bulk
    : next.writer.hasEnded = false
      → wire.bulk ++ queuedBulk events = bulkOf (handedFrames events) ++ next.bulk
  ended
    : next.writer.hasEnded = true
      → handedFrames events = [] ∧ queuedControl events = [] ∧ queuedBulk events = []

/-- A step that hands nothing over and queues nothing leaves the queues alone, or ends the
writer.
-/
theorem moves_silent {wire next : Wire} {events : List Event}
    (handed : handedFrames events = []) (control : queuedControl events = [])
    (bulk : queuedBulk events = [])
    (queues
      : next.writer.hasEnded = false → next.control = wire.control ∧ next.bulk = wire.bulk)
    : wire.Moves events next where
  control live := by simp [handed, control, (queues live).1, controlOf]
  bulk live := by simp [handed, bulk, (queues live).2, bulkOf]
  ended _ := ⟨handed, control, bulk⟩

theorem moves_of_step {wire next : Wire} {action : WriterAction} {events : List Event}
    (taken : wire.step action = some (next, events))
    : wire.Moves events next := by
  cases stepped_of_step taken with
  | control here opened queued | close here opened queued =>
      refine { control := fun _ => ?_, bulk := fun _ => ?_, ended := nofun }
      all_goals simp [queued, Event.handed?, Event.controlQueued?, Event.bulkQueued?, controlOf,
        bulkOf, Frame.control?, Frame.bulk?]
  | bulk here opened queued =>
      refine { control := fun _ => ?_, bulk := fun _ => ?_, ended := nofun }
      all_goals simp [queued, Event.handed?, Event.controlQueued?, Event.bulkQueued?, controlOf,
        bulkOf, Frame.control?, Frame.bulk?]
  | controlIdle | controlClosed | bulkIdle | bulkClosed | sentControl | sentClose | sentBulk
  | failedClose => exact moves_silent rfl rfl rfl fun _ => ⟨rfl, rfl⟩
  | drained | sinkClosed | failedControl | failedBulk | panic | cancelled =>
      refine moves_silent ?_ ?_ ?_ nofun
      all_goals simp [finish, Piece.lost, Event.handed?, Event.controlQueued?, Event.bulkQueued?]

/-- `control.try_send` puts its frame at the end of the control queue, or nothing. -/
theorem moves_trySend (wire : Wire) (message : Message)
    : wire.Moves (wire.trySend message).2 (wire.trySend message).1 := by
  unfold trySend
  split
  · next room =>
      have live : wire.writer.hasEnded = false := by
        simp only [controlRoom, Bool.and_eq_true, Bool.not_eq_true'] at room
        exact room.1
      refine { control := fun _ => ?_, bulk := fun _ => ?_, ended := fun ended => ?_ }
      · simp [Event.handed?, Event.controlQueued?, controlOf]
      · simp [Event.handed?, Event.bulkQueued?, bulkOf]
      · simp [live] at ended
  · exact moves_silent rfl rfl rfl fun _ => ⟨rfl, rfl⟩

/-- A response goes to the end of the bulk queue. -/
theorem moves_push {wire : Wire} (live : wire.writer.hasEnded = false)
    (response : EncodedResponse)
    : wire.Moves (wire.push response).2 (wire.push response).1 := by
  refine { control := fun _ => ?_, bulk := fun _ => ?_, ended := fun ended => ?_ }
  · simp [push, Event.handed?, Event.controlQueued?, controlOf]
  · simp [push, Event.handed?, Event.bulkQueued?, bulkOf]
  · simp [push, live] at ended

theorem moves_of_stepAmong {wire next : Wire} {action : WireAction} {events : List Event}
    (taken : wire.stepAmong action = some (next, events))
    : wire.Moves events next := by
  cases among_of_stepAmong taken with
  | writer taken => exact moves_of_step taken
  | control => exact wire.moves_trySend _
  | bulk sender live => exact moves_push live _
  | dropControlSender | dropBulkSender | places | abort =>
      exact moves_silent rfl rfl rfl fun _ => ⟨rfl, rfl⟩

/-- Only its own steps move the writer. -/
theorem writer_of_stepAmong {wire next : Wire} {action : WireAction} {events : List Event}
    (taken : wire.stepAmong action = some (next, events))
    (other : ∀ step, action ≠ .writer step)
    : next.writer = wire.writer ∧ handedFrames events = [] ∧ sentFrames events = [] := by
  cases among_of_stepAmong taken with
  | writer => exact absurd rfl (other _)
  | @control message =>
      refine ⟨(wire.trySend_same message).2.2, ?_⟩
      rcases wire.trySend_cases message with queued | lost
      · rw [queued]
        exact ⟨rfl, rfl⟩
      · rw [lost]
        exact ⟨rfl, rfl⟩
  | bulk | dropControlSender | dropBulkSender | places | abort => exact ⟨rfl, rfl, rfl⟩

/-- The writer does not start again. -/
theorem live_of_stepAmong {wire next : Wire} {action : WireAction} {events : List Event}
    (taken : wire.stepAmong action = some (next, events))
    (live : next.writer.hasEnded = false)
    : wire.writer.hasEnded = false := by
  by_cases own : ∃ step, action = .writer step
  · obtain ⟨step, rfl⟩ := own
    exact live_of_step taken
  · rw [← (writer_of_stepAmong taken fun step same => own ⟨step, same⟩).1]
    exact live

-----------------------------------------------------------------------------------------
-- First in, first out
-----------------------------------------------------------------------------------------

/-- What was queued has been handed over or is still queued, in the same order; once the
writer has ended, the rest is gone.
-/
structure Fifo (events : List Event) (wire : Wire) : Prop where
  control
    : wire.writer.hasEnded = false
      → queuedControl events = controlOf (handedFrames events) ++ wire.control
  bulk
    : wire.writer.hasEnded = false
      → queuedBulk events = bulkOf (handedFrames events) ++ wire.bulk
  controlPrefix : controlOf (handedFrames events) <+: queuedControl events
  bulkPrefix : bulkOf (handedFrames events) <+: queuedBulk events

theorem fifo_start (senders : Nat) : (start senders).Fifo [] where
  control _ := rfl
  bulk _ := rfl
  controlPrefix := List.nil_prefix
  bulkPrefix := List.nil_prefix

theorem Fifo.step {wire next : Wire} {action : WireAction} {seen events : List Event}
    (fifo : wire.Fifo seen) (taken : wire.stepAmong action = some (next, events))
    : next.Fifo (seen ++ events) := by
  have moves := moves_of_stepAmong taken
  cases live : next.writer.hasEnded with
  | false =>
      have before := live_of_stepAmong taken live
      have control
          : queuedControl (seen ++ events)
            = controlOf (handedFrames (seen ++ events)) ++ next.control := by
        rw [queuedControl_append, fifo.control before, List.append_assoc, moves.control live,
          handedFrames_append, controlOf_append, List.append_assoc]
      have bulk
          : queuedBulk (seen ++ events)
            = bulkOf (handedFrames (seen ++ events)) ++ next.bulk := by
        rw [queuedBulk_append, fifo.bulk before, List.append_assoc, moves.bulk live,
          handedFrames_append, bulkOf_append, List.append_assoc]
      exact {
        control := fun _ => control
        bulk := fun _ => bulk
        controlPrefix := control ▸ List.prefix_append _ _
        bulkPrefix := bulk ▸ List.prefix_append _ _
      }
  | true =>
      obtain ⟨handed, control, bulk⟩ := moves.ended live
      refine { control := ?_, bulk := ?_, controlPrefix := ?_, bulkPrefix := ?_ }
      · simp [live]
      · simp [live]
      · simpa [handed, control] using fifo.controlPrefix
      · simpa [handed, bulk] using fifo.bulkPrefix

end Wire

end ProxyClient
