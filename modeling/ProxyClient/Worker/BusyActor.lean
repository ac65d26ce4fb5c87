import ProxyClient.Worker.Scrape

/-! `run_busy_response_actor`: it POSTs busy answers in the background, a few at a time, and
falls back to the WebSocket when a POST fails.
-/

namespace ProxyClient

open Foundations

def busyResponseQueueCapacity : Nat := 8
def busyResponseConcurrency : Nat := 4

/-- Where the actor stands. -/
inductive BusyActorPc
  /-- At the top of its loop or in its `select!`. -/
  | top
  | queueing (queueing : Queueing)
  | ended

def BusyActorPc.pieces : BusyActorPc → List Piece
  | .queueing call => [call.piece]
  | .top | .ended => []

/-- The operation that the actor performs next, outside its POSTs. -/
def BusyActorPc.computes : BusyActorPc → Option Op
  | .queueing call => call.computes
  | .top | .ended => none

/-- The actor with its set of POSTs. -/
structure BusyActor where
  pc : BusyActorPc
  inputOpen : Bool
  posts : List Post
  aborted : Bool

/-- The busy queue between the session and the actor. -/
structure BusyQueue where
  queue : List BudgetedResponse
  /-- The session still has its sender. -/
  sender : Bool

/-- A step of the actor. -/
inductive BusyActorAction
  /-- The loop ends at its top: the input is closed and no POST is left. -/
  | finish
  /-- The `responses.recv` branch. -/
  | receive
  /-- An operation of a POST is answered, while the actor polls its set. -/
  | post (index : Nat) (reply : Reply)
  /-- The `posts.next` branch: a POST has returned. -/
  | completed (index : Nat)
  /-- An operation of `queue_ws_response` is answered. -/
  | reply (reply : Reply)
  /-- A step of `queue_ws_response`. -/
  | queue
  | panic
  | cancelled

namespace BusyActor

/-- `tokio::spawn(run_busy_response_actor(..))`. -/
def new : BusyActor := { pc := .top, inputOpen := true, posts := [], aborted := false }

def hasEnded (actor : BusyActor) : Bool :=
  match actor.pc with
  | .ended => true
  | .top | .queueing _ => false

theorem hasEnded_of_top {actor : BusyActor} (here : actor.pc = .top)
    : actor.hasEnded = false := by
  rw [hasEnded, here]

theorem hasEnded_of_queueing {actor : BusyActor} {call : Queueing}
    (here : actor.pc = .queueing call)
    : actor.hasEnded = false := by
  rw [hasEnded, here]

/-- What the actor holds. -/
def pieces (actor : BusyActor) : List Piece :=
  actor.pc.pieces ++ actor.posts.map (Post.piece .busy)

/-- The actor is suspended, so an abort takes effect here. -/
def awaits (actor : BusyActor) : Bool :=
  match actor.pc with
  | .top => true
  | .queueing queueing => queueing.isSuspended
  | .ended => false

end BusyActor

/-- What the busy queue holds. -/
def BusyQueue.pieces (busy : BusyQueue) : List Piece :=
  busy.queue.map (BudgetedResponse.piece .busy)

/-- The part of a connection that the actor's steps touch. -/
structure BusySide where
  actor : BusyActor
  busy : BusyQueue
  wire : Wire

namespace BusySide

/-- The actor ends: its POSTs, its end of the queue and its bulk sender are dropped. -/
def stop (side : BusySide) (wire : Wire) : BusySide :=
  { actor := { side.actor with pc := .ended, posts := [] }, busy := { side.busy with queue := [] },
    wire := wire.dropBulkSender }

/-- What the actor, its queue and the wire hold. -/
def pieces (side : BusySide) : List Piece :=
  side.actor.pieces ++ side.busy.pieces ++ side.wire.pieces

/-- What is lost when the actor ends. -/
def held (side : BusySide) : List Piece := side.actor.pieces ++ side.busy.pieces

/-- An aborted or panicking actor gives up its place in the line of the bulk queue. -/
def leaveLine (side : BusySide) : Wire :=
  match side.actor.pc with
  | .queueing (.suspended _) =>
      { side.wire with slots := side.wire.slots.giveUp .busyActor }
  | _ => side.wire

/-- Leaving the line of the bulk queue moves no response. -/
theorem leaveLine_same (side : BusySide)
    : side.leaveLine.bulk = side.wire.bulk ∧ side.leaveLine.writer = side.wire.writer := by
  unfold leaveLine
  split <;> exact ⟨rfl, rfl⟩

/-- `run_busy_response_actor`, one step at a time. -/
def step (context : WorkerContext) (side : BusySide)
    : BusyActorAction → Option (BusySide × List Event)
  | .finish =>
      match side.actor.pc with
      | .top =>
          if !side.actor.inputOpen && side.actor.posts.isEmpty then
            some (side.stop side.wire, lose side.held)
          else none
      | _ => none
  | .receive =>
      match side.actor.pc with
      | .top =>
          if side.actor.inputOpen && side.actor.posts.length < busyResponseConcurrency then
            match side.busy.queue with
            | response :: queue =>
                let posts := side.actor.posts ++ [.start context response]
                some ({ side with actor := { side.actor with posts },
                                  busy := { side.busy with queue } }, [])
            | [] =>
                if side.busy.sender then none
                else some ({ side with actor := { side.actor with inputOpen := false } }, [])
          else none
      | _ => none
  | .post index reply =>
      match side.actor.pc, side.actor.posts[index]? with
      | .top, some post =>
          (post.execution.reply reply).map fun (execution, events) =>
            let posts := side.actor.posts.set index { post with execution }
            ({ side with actor := { side.actor with posts } }, events)
      | _, _ => none
  | .completed index =>
      match side.actor.pc, side.actor.posts[index]? with
      | .top, some post =>
          post.execution.result?.map fun result =>
            let posts := side.actor.posts.eraseIdx index
            match result with
            | .ok () =>
                ({ side with actor := { side.actor with posts } },
                  [.posted .busy post.response.response,
                    .released post.response.retained.bytes])
            | .error _ =>
                let pc := .queueing (.start .busy post.response)
                ({ side with actor := { side.actor with pc, posts } }, [])
      | _, _ => none
  | .reply reply =>
      match side.actor.pc with
      | .queueing queueing =>
          (queueing.reply reply).map fun (queueing, events) =>
            ({ side with actor := { side.actor with pc := .queueing queueing } }, events)
      | _ => none
  | .queue =>
      match side.actor.pc with
      | .queueing queueing =>
          (queueing.proceed .busyActor side.wire).map fun
            | (.again queueing, wire, events) =>
                ({ side with actor := { side.actor with pc := .queueing queueing }, wire },
                  events)
            | (.finished, wire, events) =>
                ({ side with actor := { side.actor with pc := .top }, wire }, events)
            | (.closed, wire, events) =>
                let rest := { side with actor := { side.actor with pc := .top } }
                (rest.stop wire, events ++ lose rest.held)
      | _ => none
  | .panic =>
      if side.actor.hasEnded then none
      else some (side.stop side.leaveLine, .panicked .busyActor :: lose side.held)
  | .cancelled =>
      if side.actor.aborted && side.actor.awaits then
        some (side.stop side.leaveLine, lose side.held)
      else none

-----------------------------------------------------------------------------------------
-- What one step of the actor can do
-----------------------------------------------------------------------------------------

/-- A proof view of `BusySide.step`: one constructor for each outcome. -/
inductive Stepped (context : WorkerContext) (side : BusySide)
    : BusyActorAction → BusySide → List Event → Prop
  | finished (here : side.actor.pc = .top) (closed : side.actor.inputOpen = false)
    (idle : side.actor.posts = [])
    : Stepped context side .finish (side.stop side.wire) (lose side.held)
  | received {response queue} (here : side.actor.pc = .top)
    (opened : side.actor.inputOpen = true)
    (room : side.actor.posts.length < busyResponseConcurrency)
    (queued : side.busy.queue = response :: queue)
    : Stepped context side .receive
        { side with
          actor := { side.actor with posts := side.actor.posts ++ [.start context response] },
          busy := { side.busy with queue } } []
  | inputClosed (here : side.actor.pc = .top) (empty : side.busy.queue = [])
    (closed : side.busy.sender = false)
    : Stepped context side .receive
        { side with actor := { side.actor with inputOpen := false } } []
  | replied {index post next reply events} (here : side.actor.pc = .top)
    (found : side.actor.posts[index]? = some post)
    (answered : post.execution.reply reply = some (next, events))
    : Stepped context side (.post index reply)
        { side with
          actor :=
            { side.actor with
              posts := side.actor.posts.set index { post with execution := next } } } events
  | delivered {index post} (here : side.actor.pc = .top)
    (found : side.actor.posts[index]? = some post)
    (returned : post.execution.result? = some (.ok ()))
    : Stepped context side (.completed index)
        { side with actor := { side.actor with posts := side.actor.posts.eraseIdx index } }
        [.posted .busy post.response.response, .released post.response.retained.bytes]
  | failed {index post error} (here : side.actor.pc = .top)
    (found : side.actor.posts[index]? = some post)
    (returned : post.execution.result? = some (.error error))
    : Stepped context side (.completed index)
        { side with
          actor :=
            { side.actor with
              pc := .queueing (.start .busy post.response),
              posts := side.actor.posts.eraseIdx index } } []
  | encoding {call next reply events} (here : side.actor.pc = .queueing call)
    (answered : call.reply reply = some (next, events))
    : Stepped context side (.reply reply)
        { side with actor := { side.actor with pc := .queueing next } } events
  | queueing {call next wire events} (here : side.actor.pc = .queueing call)
    (taken : call.proceed .busyActor side.wire = some (.again next, wire, events))
    : Stepped context side .queue
        { side with actor := { side.actor with pc := .queueing next }, wire } events
  | queued {call wire events} (here : side.actor.pc = .queueing call)
    (taken : call.proceed .busyActor side.wire = some (.finished, wire, events))
    : Stepped context side .queue { side with actor := { side.actor with pc := .top }, wire }
        events
  | closed {call wire events} (here : side.actor.pc = .queueing call)
    (taken : call.proceed .busyActor side.wire = some (.closed, wire, events))
    : Stepped context side .queue
        (stop { side with actor := { side.actor with pc := .top } } wire)
        (events ++ lose (held { side with actor := { side.actor with pc := .top } }))
  | panicked (live : side.actor.hasEnded = false)
    : Stepped context side .panic (side.stop side.leaveLine)
        (.panicked .busyActor :: lose side.held)
  | cancelled (abort : side.actor.aborted = true) (live : side.actor.hasEnded = false)
    : Stepped context side .cancelled (side.stop side.leaveLine) (lose side.held)

/-- Every enabled step of the actor is one of the view's constructors. -/
theorem stepped_of_step {context : WorkerContext} {side next : BusySide}
    {action : BusyActorAction} {events : List Event}
    (taken : side.step context action = some (next, events))
    : Stepped context side action next events := by
  cases action with
  | finish =>
      simp only [step] at taken
      split at taken
      · next here =>
          split at taken
          · next idle =>
              obtain ⟨closed, empty⟩ := (Bool.and_eq_true _ _).mp idle
              obtain ⟨rfl, rfl⟩ := taken
              exact .finished here (by simpa using closed) (by simpa using empty)
          · cases taken
      · cases taken
  | receive =>
      simp only [step] at taken
      split at taken
      · next here =>
          split at taken
          · next enabled =>
              obtain ⟨opened, room⟩ := (Bool.and_eq_true _ _).mp enabled
              split at taken
              · next response queue queued =>
                  obtain ⟨rfl, rfl⟩ := taken
                  exact .received here opened (by simpa using room) queued
              · next empty =>
                  split at taken
                  · cases taken
                  · next closed =>
                      obtain ⟨rfl, rfl⟩ := taken
                      exact .inputClosed here empty (by simpa using closed)
          · cases taken
      · cases taken
  | post index reply =>
      simp only [step] at taken
      split at taken
      · next post here found =>
          obtain ⟨⟨execution, events'⟩, answered, same⟩ := Option.map_eq_some_iff.mp taken
          obtain ⟨rfl, rfl⟩ := same
          exact .replied here found answered
      · cases taken
  | completed index =>
      simp only [step] at taken
      split at taken
      · next post here found =>
          obtain ⟨result, returned, same⟩ := Option.map_eq_some_iff.mp taken
          cases result with
          | ok =>
              obtain ⟨rfl, rfl⟩ := same
              exact .delivered here found returned
          | error error =>
              obtain ⟨rfl, rfl⟩ := same
              exact .failed here found returned
      · cases taken
  | reply reply =>
      simp only [step] at taken
      split at taken
      · next call here =>
          obtain ⟨⟨call', events'⟩, answered, same⟩ := Option.map_eq_some_iff.mp taken
          obtain ⟨rfl, rfl⟩ := same
          exact .encoding here answered
      · cases taken
  | queue =>
      simp only [step] at taken
      split at taken
      · next call here =>
          obtain ⟨⟨result, wire, events'⟩, proceeded, same⟩ :=
            Option.map_eq_some_iff.mp taken
          cases result with
          | again call' =>
              obtain ⟨rfl, rfl⟩ := same
              exact .queueing here proceeded
          | finished =>
              obtain ⟨rfl, rfl⟩ := same
              exact .queued here proceeded
          | closed =>
              obtain ⟨rfl, rfl⟩ := same
              exact .closed here proceeded
      · cases taken
  | panic =>
      simp only [step] at taken
      split at taken
      · cases taken
      · next live =>
          obtain ⟨rfl, rfl⟩ := taken
          exact .panicked (by simpa using live)
  | cancelled =>
      simp only [step] at taken
      split at taken
      · next both =>
          obtain ⟨abort, awaits⟩ := (Bool.and_eq_true _ _).mp both
          obtain ⟨rfl, rfl⟩ := taken
          refine .cancelled abort ?_
          unfold BusyActor.hasEnded
          cases here : side.actor.pc with
          | top | queueing => rfl
          | ended => simp [BusyActor.awaits, here] at awaits
      · cases taken

end BusySide

end ProxyClient
