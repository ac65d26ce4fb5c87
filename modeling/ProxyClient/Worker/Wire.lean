import ProxyClient.Foundations.Machine
import ProxyClient.Foundations.Slots
import ProxyClient.Worker.Delivery

/-! The writer task of a connection and the two queues it drains.
`tokio::select!` polls its branches one after the other while the senders run on other
threads of the runtime, so the control poll and the bulk poll of one `select!` are two steps.
-/

namespace ProxyClient

open Foundations Memory

def controlQueueCapacity : Nat := 32
def bulkQueueCapacity : Nat := 8

/-- A frame of the control queue. -/
inductive Message
  | text (content : ControlText)
  | ping (payload : String)
  | pong (payload : String)
  | close (frame : Option (Nat × String))
deriving DecidableEq, Repr

def Message.isClose : Message → Bool
  | .close _ => true
  | .text _ | .ping _ | .pong _ => false

/-- A ready answer. -/
def Message.isReady : Message → Bool
  | .text (.ready _ _) => true
  | .text _ | .ping _ | .pong _ | .close _ => false

theorem Message.not_ready_of_close {message : Message} (closes : message.isClose = true)
    : message.isReady = false := by
  cases message <;> first | rfl | cases closes

/-- A frame handed to `send_ws`. -/
inductive Frame
  | control (message : Message)
  | bulk (response : EncodedResponse)

/-- The holders of a bulk sender. -/
inductive Sender
  | session
  | busyActor
deriving DecidableEq, Repr

/-- Why a response is dropped while its connection goes on. -/
inductive DropReason
  /-- `call_resource` returned `None`. -/
  | callResource
  /-- `BudgetedResponse::try_new` failed. -/
  | busyResponse (error : MemoryBudgetError)
  /-- `bounded_response_json` failed. -/
  | encoding (error : BoxError)
  /-- A scrape POST timed out with a body of so many bytes. -/
  | postTimedOut (bodyLength : Nat)
deriving DecidableEq, Repr

/-- The tasks of a connection that are spawned and joined. -/
inductive Actor
  | scrape (task : Nat)
  | busyActor
  | writer
deriving DecidableEq, Repr

/-- What an observer of a connection sees. -/
inductive Event
  | acquired (bytes : Nat)
  | refused (error : MemoryBudgetError)
  | released (bytes : Nat)
  /-- A validated `Request` was handled, by a new scrape task or as one too many. -/
  | requested (origin : Origin) (uid : String)
  | controlQueued (message : Message)
  | bulkQueued (response : EncodedResponse)
  | handed (frame : Frame)
  | sent (frame : Frame)
  | sendFailed (frame : Frame)
  /-- `post_response` returned `Ok`. -/
  | posted (origin : Origin) (response : ResourceResponse)
  | dropped (origin : Origin) (uid : String) (reason : DropReason)
  /-- A response was lost with the task, the queue or the session that held it. -/
  | abandoned (origin : Origin) (uid : String)
  | panicked (actor : Actor)
  | writerReturned (result : Except BoxError Unit)

/-- An unanswered request somewhere in a connection, with the budget bytes held for it. -/
structure Piece where
  origin : Origin
  uid : String
  bytes : Nat
deriving DecidableEq, Repr

/-- A piece is lost with the task, the queue or the session that held it. -/
def Piece.lost (piece : Piece) : List Event :=
  [.abandoned piece.origin piece.uid, .released piece.bytes]

/-- Everything a holder has is lost with it. -/
def lose (pieces : List Piece) : List Event := pieces.flatMap Piece.lost

def BudgetedResponse.piece (origin : Origin) (response : BudgetedResponse) : Piece :=
  ⟨origin, response.response.uid.text, response.retained.bytes⟩

def EncodedResponse.piece (response : EncodedResponse) : Piece :=
  ⟨response.origin, response.source.uid.text, response.reservation.bytes⟩

/-- Where `run_writer` stands. -/
inductive WriterPc
  /-- At the top of the loop; the control branch is polled next. -/
  | select
  /-- The control branch was pending or disabled; the bulk branch is polled next. -/
  | bulkTurn
  | sendingControl (message : Message)
  /-- Sending a `Close`, whose outcome is ignored. -/
  | sendingClose (message : Message)
  | closingSink
  | sendingBulk (response : EncodedResponse)
  | ended (result : Except BoxError Unit)

def WriterPc.hasEnded : WriterPc → Bool
  | .ended _ => true
  | _ => false

/-- The response the writer holds. -/
def WriterPc.inHand : WriterPc → List EncodedResponse
  | .sendingBulk response => [response]
  | .select | .bulkTurn | .sendingControl _ | .sendingClose _ | .closingSink | .ended _ => []

/-- The writer task with its two channels. `controlOpen` and `bulkOpen` are the writer's own
flags; the channels are closed when their last sender is gone.
-/
structure Wire where
  control : List Message
  controlSender : Bool
  bulk : List EncodedResponse
  bulkSenders : Nat
  slots : Slots Sender
  controlOpen : Bool
  bulkOpen : Bool
  writer : WriterPc
  aborted : Bool

/-- One step of the writer task, named by what it polls or by how its send ends. -/
inductive WriterAction
  | pollControl
  | pollBulk
  | sendOk
  | sendFailed (error : BoxError)
  | sinkClosed
  | panic
  | cancelled

namespace Wire

/-- `run_connection`'s set-up: the register message is queued before the writer starts. -/
def new (register : Message) : Wire :=
  { control := [register], controlSender := true, bulk := [], bulkSenders := 2,
    slots := .new bulkQueueCapacity, controlOpen := true, bulkOpen := true, writer := .select,
    aborted := false }

/-- The responses on their way to the socket: the one being sent, and those queued. -/
def pieces (wire : Wire) : List Piece :=
  (wire.writer.inHand ++ wire.bulk).map EncodedResponse.piece

/-- `control.try_send` finds room: the receiver is there and the queue is not full. -/
def controlRoom (wire : Wire) : Bool :=
  !wire.writer.hasEnded && decide (wire.control.length < controlQueueCapacity)

/-- `control.try_send`, whose failure the caller ignores. -/
def trySend (wire : Wire) (message : Message) : Wire × List Event :=
  if wire.controlRoom then
    ({ wire with control := wire.control ++ [message] }, [.controlQueued message])
  else (wire, [])

/-- `control.try_send` shows the frame it has queued, or nothing. -/
theorem trySend_cases (wire : Wire) (message : Message)
    : (wire.trySend message).2 = [.controlQueued message] ∨ (wire.trySend message).2 = [] := by
  unfold trySend
  split
  · exact .inl rfl
  · exact .inr rfl

theorem trySend_events {wire : Wire} {message : Message} {event : Event}
    (listed : event ∈ (wire.trySend message).2)
    : event = .controlQueued message := by
  rcases wire.trySend_cases message with queued | lost
  · exact List.mem_singleton.mp (queued ▸ listed)
  · exact absurd (lost ▸ listed) List.not_mem_nil

theorem trySend_same (wire : Wire) (message : Message)
    : (wire.trySend message).1.bulk = wire.bulk
      ∧ (wire.trySend message).1.slots = wire.slots
      ∧ (wire.trySend message).1.writer = wire.writer := by
  unfold trySend
  split <;> exact ⟨rfl, rfl, rfl⟩

/-- `bulk.send` has a place and puts the response on the queue. -/
def push (wire : Wire) (response : EncodedResponse) : Wire × List Event :=
  ({ wire with bulk := wire.bulk ++ [response] }, [.bulkQueued response])

/-- One of the bulk senders is dropped. -/
def dropBulkSender (wire : Wire) : Wire := { wire with bulkSenders := wire.bulkSenders - 1 }

/-- The control sender is dropped. -/
def dropControlSender (wire : Wire) : Wire := { wire with controlSender := false }

/-- The writer task ends and its receivers are dropped. -/
def ended (wire : Wire) (result : Except BoxError Unit) : Wire :=
  { wire with control := [], bulk := [], writer := .ended result }

/-- `run_writer` returns while it holds no response. -/
def finish (wire : Wire) (result : Except BoxError Unit) : Wire × List Event :=
  (wire.ended result,
    .writerReturned result :: lose (wire.bulk.map EncodedResponse.piece))

/-- `run_writer`, one poll or one end of a send at a time. -/
def step (wire : Wire) : WriterAction → Option (Wire × List Event)
  | .pollControl =>
      match wire.writer with
      | .select =>
          if wire.controlOpen then
            match wire.control with
            | message :: rest =>
                let writer :=
                  if message.isClose then .sendingClose message else .sendingControl message
                some ({ wire with control := rest, writer }, [.handed (.control message)])
            | [] =>
                if wire.controlSender then some ({ wire with writer := .bulkTurn }, [])
                else some ({ wire with controlOpen := false }, [])
          else some ({ wire with writer := .bulkTurn }, [])
      | _ => none
  | .pollBulk =>
      match wire.writer with
      | .bulkTurn =>
          if wire.bulkOpen then
            match wire.bulk with
            | response :: rest =>
                some ({ wire with bulk := rest, slots := wire.slots.release,
                                  writer := .sendingBulk response },
                  [.handed (.bulk response)])
            | [] =>
                if 0 < wire.bulkSenders then some ({ wire with writer := .select }, [])
                else some ({ wire with bulkOpen := false, writer := .select }, [])
          else if wire.controlOpen then some ({ wire with writer := .select }, [])
          else some (wire.finish (.ok ()))
      | _ => none
  | .sendOk =>
      match wire.writer with
      | .sendingControl message =>
          some ({ wire with writer := .select }, [.sent (.control message)])
      | .sendingClose message =>
          some ({ wire with writer := .closingSink }, [.sent (.control message)])
      | .sendingBulk response =>
          some ({ wire with writer := .select },
            [.sent (.bulk response), .released response.reservation.bytes])
      | _ => none
  | .sendFailed error =>
      match wire.writer with
      | .sendingControl message =>
          let (wire, events) := wire.finish (.error error)
          some (wire, .sendFailed (.control message) :: events)
      | .sendingClose message =>
          some ({ wire with writer := .closingSink }, [.sendFailed (.control message)])
      | .sendingBulk response =>
          let (wire, events) := wire.finish (.error error)
          some (wire, .sendFailed (.bulk response) :: response.piece.lost ++ events)
      | _ => none
  | .sinkClosed =>
      match wire.writer with
      | .closingSink => some (wire.finish (.ok ()))
      | _ => none
  | .panic =>
      if wire.writer.hasEnded then none
      else some (wire.ended (.error .join), .panicked .writer :: lose wire.pieces)
  | .cancelled =>
      match wire.writer with
      | .ended _ | .bulkTurn => none
      | _ =>
          if wire.aborted then some (wire.ended (.error .join), lose wire.pieces)
          else none

end Wire

/-- The writer alone, on its two queues. -/
def writerMachine : Machine Wire WriterAction Event where
  step := Wire.step

namespace Wire

-----------------------------------------------------------------------------------------
-- What one step of the writer can do
-----------------------------------------------------------------------------------------

/-- A proof view of `Wire.step`: one constructor for each outcome of a poll or of a send. -/
inductive Stepped (wire : Wire) : WriterAction → Wire → List Event → Prop
  | control {message rest} (here : wire.writer = .select) (opened : wire.controlOpen)
    (queued : wire.control = message :: rest) (plain : message.isClose = false)
    : Stepped wire .pollControl { wire with control := rest, writer := .sendingControl message }
        [.handed (.control message)]
  | close {message rest} (here : wire.writer = .select) (opened : wire.controlOpen)
    (queued : wire.control = message :: rest) (closes : message.isClose = true)
    : Stepped wire .pollControl { wire with control := rest, writer := .sendingClose message }
        [.handed (.control message)]
  | controlIdle (here : wire.writer = .select)
    (idle : wire.controlOpen → wire.control = [] ∧ wire.controlSender)
    : Stepped wire .pollControl { wire with writer := .bulkTurn } []
  | controlClosed (here : wire.writer = .select) (empty : wire.control = [])
    (closed : wire.controlSender = false)
    : Stepped wire .pollControl { wire with controlOpen := false } []
  | bulk {response rest} (here : wire.writer = .bulkTurn) (opened : wire.bulkOpen)
    (queued : wire.bulk = response :: rest)
    : Stepped wire .pollBulk
        { wire with bulk := rest, slots := wire.slots.release, writer := .sendingBulk response }
        [.handed (.bulk response)]
  | bulkIdle (here : wire.writer = .bulkTurn)
    (idle : wire.bulkOpen → wire.bulk = [] ∧ 0 < wire.bulkSenders)
    (opened : wire.bulkOpen ∨ wire.controlOpen)
    : Stepped wire .pollBulk { wire with writer := .select } []
  | bulkClosed (here : wire.writer = .bulkTurn) (empty : wire.bulk = [])
    (closed : wire.bulkSenders = 0)
    : Stepped wire .pollBulk { wire with bulkOpen := false, writer := .select } []
  | drained (here : wire.writer = .bulkTurn) (control : wire.controlOpen = false)
    (bulk : wire.bulkOpen = false)
    : Stepped wire .pollBulk (wire.finish (.ok ())).1 (wire.finish (.ok ())).2
  | sentControl {message} (here : wire.writer = .sendingControl message)
    : Stepped wire .sendOk { wire with writer := .select } [.sent (.control message)]
  | sentClose {message} (here : wire.writer = .sendingClose message)
    : Stepped wire .sendOk { wire with writer := .closingSink } [.sent (.control message)]
  | sentBulk {response} (here : wire.writer = .sendingBulk response)
    : Stepped wire .sendOk { wire with writer := .select }
        [.sent (.bulk response), .released response.reservation.bytes]
  | failedControl {message error} (here : wire.writer = .sendingControl message)
    : Stepped wire (.sendFailed error) (wire.finish (.error error)).1
        (.sendFailed (.control message) :: (wire.finish (.error error)).2)
  | failedClose {message error} (here : wire.writer = .sendingClose message)
    : Stepped wire (.sendFailed error) { wire with writer := .closingSink }
        [.sendFailed (.control message)]
  | failedBulk {response error} (here : wire.writer = .sendingBulk response)
    : Stepped wire (.sendFailed error) (wire.finish (.error error)).1
        (.sendFailed (.bulk response) :: response.piece.lost ++ (wire.finish (.error error)).2)
  | sinkClosed (here : wire.writer = .closingSink)
    : Stepped wire .sinkClosed (wire.finish (.ok ())).1 (wire.finish (.ok ())).2
  | panic (live : wire.writer.hasEnded = false)
    : Stepped wire .panic (wire.ended (.error .join)) (.panicked .writer :: lose wire.pieces)
  | cancelled (aborted : wire.aborted) (live : wire.writer.hasEnded = false)
    : Stepped wire .cancelled (wire.ended (.error .join)) (lose wire.pieces)

/-- Every enabled step of the writer is one of the view's constructors, by cases on the step
and on where the writer stands.
-/
theorem stepped_of_step {wire next : Wire} {action : WriterAction} {events : List Event}
    (taken : wire.step action = some (next, events))
    : wire.Stepped action next events := by
  cases action with
  | pollControl =>
      simp only [step] at taken
      split at taken
      · next here =>
          split at taken
          · next opened =>
              split at taken
              · next message rest queued =>
                  obtain ⟨rfl, rfl⟩ := Prod.mk.injEq .. ▸ Option.some.inj taken
                  cases closes : message.isClose with
                  | true => exact .close here opened queued closes
                  | false => exact .control here opened queued closes
              · next empty =>
                  split at taken
                  · next sender =>
                      obtain ⟨rfl, rfl⟩ := Prod.mk.injEq .. ▸ Option.some.inj taken
                      exact .controlIdle here fun _ => ⟨empty, sender⟩
                  · next closed =>
                      obtain ⟨rfl, rfl⟩ := Prod.mk.injEq .. ▸ Option.some.inj taken
                      exact .controlClosed here empty (by simpa using closed)
          · next closed =>
              obtain ⟨rfl, rfl⟩ := Prod.mk.injEq .. ▸ Option.some.inj taken
              exact .controlIdle here fun opened => absurd opened closed
      · cases taken
  | pollBulk =>
      simp only [step] at taken
      split at taken
      · next here =>
          split at taken
          · next opened =>
              split at taken
              · next response rest queued =>
                  obtain ⟨rfl, rfl⟩ := Prod.mk.injEq .. ▸ Option.some.inj taken
                  exact .bulk here opened queued
              · next empty =>
                  split at taken
                  · next senders =>
                      obtain ⟨rfl, rfl⟩ := Prod.mk.injEq .. ▸ Option.some.inj taken
                      exact .bulkIdle here (fun _ => ⟨empty, senders⟩) (.inl opened)
                  · next none =>
                      obtain ⟨rfl, rfl⟩ := Prod.mk.injEq .. ▸ Option.some.inj taken
                      exact .bulkClosed here empty (Nat.eq_zero_of_not_pos none)
          · next closed =>
              split at taken
              · next opened =>
                  obtain ⟨rfl, rfl⟩ := Prod.mk.injEq .. ▸ Option.some.inj taken
                  exact .bulkIdle here (fun opened => absurd opened closed) (.inr opened)
              · next none =>
                  obtain ⟨rfl, rfl⟩ := Prod.mk.injEq .. ▸ Option.some.inj taken
                  exact .drained here (by simpa using none) (by simpa using closed)
      · cases taken
  | sendOk =>
      simp only [step] at taken
      split at taken
      · next message here =>
          obtain ⟨rfl, rfl⟩ := Prod.mk.injEq .. ▸ Option.some.inj taken
          exact .sentControl here
      · next message here =>
          obtain ⟨rfl, rfl⟩ := Prod.mk.injEq .. ▸ Option.some.inj taken
          exact .sentClose here
      · next response here =>
          obtain ⟨rfl, rfl⟩ := Prod.mk.injEq .. ▸ Option.some.inj taken
          exact .sentBulk here
      · cases taken
  | sendFailed error =>
      simp only [step] at taken
      split at taken
      · next message here =>
          obtain ⟨rfl, rfl⟩ := Prod.mk.injEq .. ▸ Option.some.inj taken
          exact .failedControl here
      · next message here =>
          obtain ⟨rfl, rfl⟩ := Prod.mk.injEq .. ▸ Option.some.inj taken
          exact .failedClose here
      · next response here =>
          obtain ⟨rfl, rfl⟩ := Prod.mk.injEq .. ▸ Option.some.inj taken
          exact .failedBulk here
      · cases taken
  | sinkClosed =>
      simp only [step] at taken
      split at taken
      · next here =>
          obtain ⟨rfl, rfl⟩ := Prod.mk.injEq .. ▸ Option.some.inj taken
          exact .sinkClosed here
      · cases taken
  | panic =>
      simp only [step] at taken
      split at taken
      · cases taken
      · next live =>
          obtain ⟨rfl, rfl⟩ := Prod.mk.injEq .. ▸ Option.some.inj taken
          exact .panic (by simpa using live)
  | cancelled =>
      simp only [step] at taken
      split at taken
      · cases taken
      · cases taken
      · next live _ =>
          split at taken
          · next aborted =>
              obtain ⟨rfl, rfl⟩ := Prod.mk.injEq .. ▸ Option.some.inj taken
              refine .cancelled aborted ?_
              cases here : wire.writer with
              | ended result => exact absurd here (live result)
              | select | bulkTurn | sendingControl | sendingClose | closingSink
              | sendingBulk => rfl
          · cases taken

end Wire

end ProxyClient
