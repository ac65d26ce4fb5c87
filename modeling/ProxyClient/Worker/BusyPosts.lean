import Mathlib.Data.List.Forall2
import Mathlib.Data.List.Perm.Basic
import ProxyClient.Worker.BusyFallback
import ProxyClient.Worker.Serving

/-! The busy-response actor among any surroundings: whatever arrives on its queue, whenever the
queue is closed, however its POSTs end, and whatever else happens to the writer's queues.
-/

namespace ProxyClient

open Foundations Memory

/-- A step of the actor, or of what surrounds it. -/
inductive SurroundedAction
  | actor (action : BusyActorAction)
  /-- `busy_responses.try_send` puts a response on the actor's queue. -/
  | arrive (response : BudgetedResponse)
  /-- The sender of the actor's queue is dropped. -/
  | close
  | abort
  /-- The session or the writer does something to the writer's queues. -/
  | wire (wire : Wire)

/-- The actor with its queue, and the writer's queues, which anyone may change in any way. -/
def surroundedActor (context : WorkerContext) : Machine BusySide SurroundedAction Event where
  step side
    | .actor action => side.step context action
    | .arrive response =>
        if side.actor.hasEnded = false ∧ side.busy.sender = true
            ∧ side.busy.queue.length < busyResponseQueueCapacity then
          some ({ side with busy := { side.busy with queue := side.busy.queue ++ [response] } }, [])
        else none
    | .close => some ({ side with busy := { side.busy with sender := false } }, [])
    | .abort => some ({ side with actor := { side.actor with aborted := true } }, [])
    | .wire wire => some ({ side with wire }, [])

@[simp] theorem surroundedActor_actor {context : WorkerContext} {side : BusySide}
    {action : BusyActorAction}
    : (surroundedActor context).step side (.actor action) = side.step context action :=
  rfl

/-- A proof view of `surroundedActor`: one constructor for each action. -/
inductive Surrounded (context : WorkerContext) (side : BusySide)
    : SurroundedAction → BusySide → List Event → Prop
  | actor {action next events} (taken : side.step context action = some (next, events))
    : Surrounded context side (.actor action) next events
  | arrive {response} (live : side.actor.hasEnded = false) (sender : side.busy.sender = true)
    (room : side.busy.queue.length < busyResponseQueueCapacity)
    : Surrounded context side (.arrive response)
        { side with busy := { side.busy with queue := side.busy.queue ++ [response] } } []
  | close
    : Surrounded context side .close { side with busy := { side.busy with sender := false } } []
  | abort
    : Surrounded context side .abort { side with actor := { side.actor with aborted := true } } []
  | wire {wire} : Surrounded context side (.wire wire) { side with wire } []

/-- Every step is one of the view's constructors. -/
theorem surrounded_of_step {context : WorkerContext} {side next : BusySide}
    {action : SurroundedAction} {events : List Event}
    (taken : (surroundedActor context).step side action = some (next, events))
    : Surrounded context side action next events := by
  cases action with
  | actor action => exact .actor taken
  | arrive response =>
      simp only [surroundedActor] at taken
      split at taken
      · next accepts =>
          obtain ⟨live, sender, room⟩ := accepts
          obtain ⟨rfl, rfl⟩ := taken
          exact .arrive live sender room
      · cases taken
  | close =>
      obtain ⟨rfl, rfl⟩ := taken
      exact .close
  | abort =>
      obtain ⟨rfl, rfl⟩ := taken
      exact .abort
  | wire wire =>
      obtain ⟨rfl, rfl⟩ := taken
      exact .wire

/-- `run_connection` has spawned the actor, and the writer's queues are in any state. -/
def BusySide.new (wire : Wire) : BusySide :=
  { actor := .new, busy := { queue := [], sender := true }, wire }

/-- A step of the actor among its surroundings. -/
abbrev BusyTransition : Type := Transition BusySide SurroundedAction Event

-----------------------------------------------------------------------------------------
-- The guards of the loop
-----------------------------------------------------------------------------------------

namespace BusyActor

/-- The loop has got past its check and reaches its `select!`. -/
def reachesSelect (actor : BusyActor) : Bool :=
  match actor.pc with
  | .top => actor.inputOpen || !actor.posts.isEmpty
  | .queueing _ | .ended => false

/-- The guard of the `responses.recv` branch. -/
def receives (actor : BusyActor) : Bool :=
  actor.inputOpen && decide (actor.posts.length < busyResponseConcurrency)

/-- The guard of the `posts.next` branch. -/
def polls (actor : BusyActor) : Bool := !actor.posts.isEmpty

/-- Without a free place there is a POST to poll, and without input there is one left. -/
theorem enabled_of_reachesSelect {actor : BusyActor} (reaches : actor.reachesSelect = true)
    : actor.receives = true ∨ actor.polls = true := by
  cases posts : actor.posts with
  | nil =>
      left
      unfold reachesSelect at reaches
      cases here : actor.pc with
      | top => simpa [here, posts, receives, busyResponseConcurrency] using reaches
      | queueing call => simp [here] at reaches
      | ended => simp [here] at reaches
  | cons post rest => exact .inr (by simp [polls, posts])

end BusyActor

-----------------------------------------------------------------------------------------
-- What a history shows
-----------------------------------------------------------------------------------------

/-- A POST that has returned an error. -/
def Post.failed (post : Post) : Bool :=
  match post.execution.result? with
  | some (.error _) => true
  | some (.ok _) | none => false

namespace BusyTransition

/-- The response that arrives. -/
def arrival? (transition : BusyTransition) : Option BudgetedResponse :=
  match transition.action with
  | .arrive response => some response
  | .actor _ | .close | .abort | .wire _ => none

/-- The response whose POST is started: the one that `responses.recv` yields. -/
def started? (transition : BusyTransition) : Option BudgetedResponse :=
  match transition.action with
  | .actor .receive => transition.before.busy.queue.head?
  | .actor _ | .arrive _ | .close | .abort | .wire _ => none

/-- The POST that `posts.next` yields. -/
def completed? (transition : BusyTransition) : Option Post :=
  match transition.action with
  | .actor (.completed index) => transition.before.actor.posts[index]?
  | .actor _ | .arrive _ | .close | .abort | .wire _ => none

end BusyTransition

/-- An event that ends `queue_ws_response`: the text is queued, or cannot be had. -/
def Event.fallsBack : Event → Bool
  | .bulkQueued _ | .dropped .. => true
  | .acquired _ | .refused _ | .released _ | .requested .. | .controlQueued _ | .handed _ | .sent _
  | .sendFailed _ | .posted .. | .abandoned .. | .panicked _ | .writerReturned _ => false

section

variable (history : List BusyTransition)

/-- What has arrived on the queue, in order. -/
def arrivals : List BudgetedResponse := history.filterMap BusyTransition.arrival?

/-- What POSTs have been started for, in order. -/
def startedPosts : List BudgetedResponse := history.filterMap BusyTransition.started?

/-- The POSTs that have returned, in order. -/
def completedPosts : List Post := history.filterMap BusyTransition.completed?

/-- What POSTs have failed for, in order. -/
def failedPosts : List BudgetedResponse :=
  ((completedPosts history).filter Post.failed).map Post.response

/-- How the calls of `queue_ws_response` have ended, in order. -/
def fallbacks : List Event := (Machine.eventsOf history).filter Event.fallsBack

end

-----------------------------------------------------------------------------------------
-- The books of the actor
-----------------------------------------------------------------------------------------

/-- The failed response that the actor is sending, if any. -/
def BusyActorPc.Sends : List BudgetedResponse → BusyActorPc → Prop
  | [], .top => True
  | [response], .queueing call => call.Sends response
  | _, _ => False

/-- Where everything is until the actor ends: what has arrived is posted in order or still queued;
what was posted has returned or is in flight; and what has failed has fallen back, in order, but
for the response that the actor is sending.
-/
structure Accounted (history : List BusyTransition) (side : BusySide) : Prop where
  arrived : arrivals history = startedPosts history ++ side.busy.queue
  posted
    : ((completedPosts history).map Post.response ++ side.actor.posts.map Post.response).Perm
        (startedPosts history)
  fellBack
    : ∃ done pending,
        failedPosts history = done ++ pending
        ∧ side.actor.pc.Sends pending
        ∧ List.Forall₂ FallsBack done (fallbacks history)

section

variable {history : List BusyTransition} {transition : BusyTransition}

/-- One more transition adds at most one item. -/
theorem filterMap_concat {α : Type} (f : BusyTransition → Option α)
    : (history ++ [transition]).filterMap f = history.filterMap f ++ (f transition).toList := by
  rw [List.filterMap_append]
  cases yields : f transition <;> simp [yields]

theorem arrivals_concat
    : arrivals (history ++ [transition]) = arrivals history ++ transition.arrival?.toList :=
  filterMap_concat _

theorem startedPosts_concat
    : startedPosts (history ++ [transition])
      = startedPosts history ++ transition.started?.toList :=
  filterMap_concat _

theorem completedPosts_concat
    : completedPosts (history ++ [transition])
      = completedPosts history ++ transition.completed?.toList :=
  filterMap_concat _

theorem failedPosts_concat
    : failedPosts (history ++ [transition])
      = failedPosts history
        ++ (transition.completed?.toList.filter Post.failed).map Post.response := by
  rw [failedPosts, completedPosts_concat, List.filter_append, List.map_append]
  rfl

theorem fallbacks_concat
    : fallbacks (history ++ [transition])
      = fallbacks history ++ transition.events.filter Event.fallsBack := by
  rw [fallbacks, Machine.eventsOf_append, Machine.eventsOf_singleton, List.filter_append]
  rfl

/-- A transition that moves no response, and ends no call of `queue_ws_response`. -/
theorem Accounted.quiet (books : Accounted history transition.before)
    (arrival : transition.arrival? = none) (started : transition.started? = none)
    (completed : transition.completed? = none)
    (queue : transition.after.busy.queue = transition.before.busy.queue)
    (posts
      : transition.after.actor.posts.map Post.response
        = transition.before.actor.posts.map Post.response)
    (events : transition.events.filter Event.fallsBack = [])
    (sends
      : ∀ pending,
          transition.before.actor.pc.Sends pending
          → transition.after.actor.pc.Sends pending)
    : Accounted (history ++ [transition]) transition.after := by
  obtain ⟨done, pending, failed, sending, fallen⟩ := books.fellBack
  refine { arrived := ?_, posted := ?_, fellBack := ⟨done, pending, ?_, sends _ sending, ?_⟩ }
  · rw [arrivals_concat, startedPosts_concat, arrival, started, queue]
    simpa using books.arrived
  · rw [startedPosts_concat, completedPosts_concat, started, completed, posts]
    simpa using books.posted
  · rw [failedPosts_concat, completed]
    simpa using failed
  · rw [fallbacks_concat, events, List.append_nil]
    exact fallen

end

theorem Event.not_fallsBack_of_moves {event : Event} (moves : event.moves = true)
    : event.fallsBack = false := by
  cases event <;> first | rfl | cases moves

/-- Movements of the budget end no call. -/
theorem filter_fallsBack_of_moves {events : List Event}
    (moves : ∀ event ∈ events, event.moves = true)
    : events.filter Event.fallsBack = [] := by
  apply List.filter_eq_nil_iff.mpr
  intro event listed
  rw [Event.not_fallsBack_of_moves (moves event listed)]
  decide

theorem FallsBack.fallsBack {response : BudgetedResponse} {event : Event}
    (falls : FallsBack response event)
    : event.fallsBack = true := by
  cases falls <;> rfl

/-- An answered operation leaves the responses of the POSTs as they are. -/
theorem map_response_set {posts : List Post} {index : Nat} {post : Post}
    {execution : Execution (Except BoxError Unit)} (found : posts[index]? = some post)
    : (posts.set index { post with execution }).map Post.response = posts.map Post.response := by
  obtain ⟨within, rfl⟩ := List.getElem?_eq_some_iff.mp found
  rw [List.map_set]
  apply List.ext_getElem?
  intro other
  rw [List.getElem?_set]
  split
  · next same =>
      subst same
      simp [within]
  · rfl

/-- A POST that has returned leaves the flight. -/
theorem perm_completed {posts : List Post} {index : Nat} {post : Post}
    {completed started : List BudgetedResponse} (found : posts[index]? = some post)
    (posted : (completed ++ posts.map Post.response).Perm started)
    : (completed ++ [post.response] ++ (posts.eraseIdx index).map Post.response).Perm started := by
  obtain ⟨within, rfl⟩ := List.getElem?_eq_some_iff.mp found
  have taken : (posts[index].response :: (posts.eraseIdx index).map Post.response).Perm
      (posts.map Post.response) :=
    (List.getElem_cons_eraseIdx_perm within).map Post.response
  rw [List.append_assoc]
  exact (taken.append_left completed).trans posted

/-- The books with no call of `queue_ws_response` under way. -/
theorem accounted_of_top {history : List BusyTransition} {side : BusySide}
    (here : side.actor.pc = .top)
    (arrived : arrivals history = startedPosts history ++ side.busy.queue)
    (posted
      : ((completedPosts history).map Post.response ++ side.actor.posts.map Post.response).Perm
          (startedPosts history))
    (fallen : List.Forall₂ FallsBack (failedPosts history) (fallbacks history))
    : Accounted history side := by
  refine ⟨arrived, posted, _, [], (List.append_nil _).symm, ?_, fallen⟩
  rw [here]
  trivial

/-- Between two calls of `queue_ws_response` every failed response has fallen back. -/
theorem Accounted.fellBack_of_top {history : List BusyTransition} {side : BusySide}
    (books : Accounted history side) (here : side.actor.pc = .top)
    : List.Forall₂ FallsBack (failedPosts history) (fallbacks history) := by
  obtain ⟨done, pending, failed, sending, fallen⟩ := books.fellBack
  rw [here] at sending
  cases pending with
  | nil =>
      rw [failed, List.append_nil]
      exact fallen
  | cons response rest => cases rest <;> cases sending

/-- Within such a call, the last one is being sent. -/
theorem Accounted.fellBack_of_queueing {history : List BusyTransition} {side : BusySide}
    {call : Queueing} (books : Accounted history side) (here : side.actor.pc = .queueing call)
    : ∃ done response,
        failedPosts history = done ++ [response]
        ∧ call.Sends response
        ∧ List.Forall₂ FallsBack done (fallbacks history) := by
  obtain ⟨done, pending, failed, sending, fallen⟩ := books.fellBack
  rw [here] at sending
  match pending, sending with
  | [response], sends => exact ⟨done, response, failed, sends, fallen⟩

/-- A call of `queue_ws_response` that goes on keeps its response. -/
theorem BusyActorPc.Sends.goesOn {pending : List BudgetedResponse} {call next : Queueing}
    (sends : (BusyActorPc.queueing call).Sends pending)
    (keeps : ∀ response, call.Sends response → next.Sends response)
    : (BusyActorPc.queueing next).Sends pending := by
  match pending, sends with
  | [response], sends => exact keeps response sends

section

variable {context : WorkerContext} {history : List BusyTransition} {side next : BusySide}
  {events : List Event}

/-- Every step of the actor keeps the books, until it ends. -/
theorem Accounted.actorStep {action : BusyActorAction} (books : Accounted history side)
    (taken : side.step context action = some (next, events))
    (live : next.actor.hasEnded = false)
    : Accounted (history ++ [⟨side, .actor action, events, next⟩]) next := by
  cases BusySide.stepped_of_step taken with
  | finished | closed | panicked | cancelled => cases live
  | @received response queue here opened room queued =>
      refine accounted_of_top ?_ ?_ ?_ ?_
      · exact here
      · rw [arrivals_concat, startedPosts_concat, books.arrived, queued]
        simp [BusyTransition.arrival?, BusyTransition.started?, queued]
      · rw [startedPosts_concat, completedPosts_concat]
        simpa [BusyTransition.started?, BusyTransition.completed?, queued, Post.start]
          using books.posted.append_right [response]
      · rw [failedPosts_concat, fallbacks_concat]
        simpa [BusyTransition.completed?] using books.fellBack_of_top here
  | inputClosed here empty closed =>
      apply books.quiet rfl ?_ rfl rfl rfl rfl
      · intro pending sends
        exact sends
      · simp [BusyTransition.started?, empty]
  | @replied index post next reply events here found answered =>
      apply books.quiet rfl rfl rfl rfl (map_response_set found)
      · exact filter_fallsBack_of_moves (Execution.reply_moves answered)
      · intro pending sends
        exact sends
  | @delivered index post here found returned =>
      have succeeded : post.failed = false := by
        rw [Post.failed, returned]
      refine accounted_of_top ?_ ?_ ?_ ?_
      · exact here
      · rw [arrivals_concat, startedPosts_concat]
        simpa [BusyTransition.arrival?, BusyTransition.started?] using books.arrived
      · rw [startedPosts_concat, completedPosts_concat]
        simpa [BusyTransition.started?, BusyTransition.completed?, found]
          using perm_completed found books.posted
      · rw [failedPosts_concat, fallbacks_concat]
        simpa [BusyTransition.completed?, found, succeeded, Event.fallsBack]
          using books.fellBack_of_top here
  | @failed index post error here found returned =>
      have failed : post.failed = true := by
        rw [Post.failed, returned]
      have fallen := books.fellBack_of_top here
      refine ⟨?_, ?_, failedPosts history, [post.response], ?_, ?_, ?_⟩
      · rw [arrivals_concat, startedPosts_concat]
        simpa [BusyTransition.arrival?, BusyTransition.started?] using books.arrived
      · rw [startedPosts_concat, completedPosts_concat]
        simpa [BusyTransition.started?, BusyTransition.completed?, found]
          using perm_completed found books.posted
      · rw [failedPosts_concat]
        simp [BusyTransition.completed?, found, failed]
      · exact Queueing.sends_start post.response
      · rw [fallbacks_concat]
        simpa using fallen
  | encoding here answered =>
      apply books.quiet rfl rfl rfl rfl rfl
      · exact filter_fallsBack_of_moves (Queueing.reply_moves answered)
      · intro pending sends
        rw [here] at sends
        exact sends.goesOn fun response sends => sends.reply answered
  | queueing here proceeded =>
      obtain ⟨done, response, -, sends, -⟩ := books.fellBack_of_queueing here
      obtain ⟨-, rfl⟩ := sends.proceed proceeded
      apply books.quiet rfl rfl rfl rfl rfl rfl
      intro pending sends
      rw [here] at sends
      exact sends.goesOn fun response sends => (sends.proceed proceeded).1
  | queued here proceeded =>
      obtain ⟨done, response, failed, sends, fallen⟩ := books.fellBack_of_queueing here
      obtain ⟨event, rfl, falls⟩ := sends.proceed proceeded
      refine accounted_of_top rfl ?_ ?_ ?_
      · rw [arrivals_concat, startedPosts_concat]
        simpa [BusyTransition.arrival?, BusyTransition.started?] using books.arrived
      · rw [startedPosts_concat, completedPosts_concat]
        simpa [BusyTransition.started?, BusyTransition.completed?] using books.posted
      · rw [failedPosts_concat, fallbacks_concat, failed]
        simpa [BusyTransition.completed?, falls.fallsBack]
          using List.rel_append fallen (.cons falls .nil)

/-- So does every step of its surroundings. -/
theorem Accounted.step {action : SurroundedAction} (books : Accounted history side)
    (taken : (surroundedActor context).step side action = some (next, events))
    (live : next.actor.hasEnded = false)
    : Accounted (history ++ [⟨side, action, events, next⟩]) next := by
  cases surrounded_of_step taken with
  | actor taken => exact books.actorStep taken live
  | arrive =>
      refine ⟨?_, ?_, ?_⟩
      · rw [arrivals_concat, startedPosts_concat, books.arrived]
        simp [BusyTransition.arrival?, BusyTransition.started?]
      · rw [startedPosts_concat, completedPosts_concat]
        simpa [BusyTransition.started?, BusyTransition.completed?] using books.posted
      · rw [failedPosts_concat, fallbacks_concat]
        simpa [BusyTransition.completed?] using books.fellBack
  | close | abort | wire =>
      apply books.quiet rfl rfl rfl rfl rfl rfl
      intro pending sends
      exact sends

end

/-- The actor has returned with nothing left: its queue is closed and empty, every response that
arrived has been posted, and every one whose POST failed has fallen back.
-/
structure ReturnedIdle (history : List BusyTransition) (side : BusySide) : Prop where
  closed : side.busy.sender = false
  empty : side.busy.queue = []
  started : startedPosts history = arrivals history
  finished : ((completedPosts history).map Post.response).Perm (arrivals history)
  fellBack : List.Forall₂ FallsBack (failedPosts history) (fallbacks history)

-----------------------------------------------------------------------------------------
-- Every run of the actor
-----------------------------------------------------------------------------------------

section

variable {context : WorkerContext} {history : List BusyTransition} {side next : BusySide}
  {action : SurroundedAction} {events : List Event}

/-- A POST is started only where there is a free place. -/
theorem posts_le_of_step (bounded : side.actor.posts.length ≤ busyResponseConcurrency)
    (taken : (surroundedActor context).step side action = some (next, events))
    : next.actor.posts.length ≤ busyResponseConcurrency := by
  cases surrounded_of_step taken with
  | actor taken =>
      cases BusySide.stepped_of_step taken with
      | finished | closed | panicked | cancelled => exact Nat.zero_le _
      | received here opened room queued =>
          rw [List.length_append]
          exact room
      | replied => rwa [List.length_set]
      | delivered | failed => exact Nat.le_trans (List.length_eraseIdx_le _ _) bounded
      | inputClosed | encoding | queueing | queued => exact bounded
  | arrive | close | abort | wire => exact bounded

/-- The actor finds its input closed only when nothing is left on it and nothing can come. -/
def BusySide.InputClosed (side : BusySide) : Prop :=
  side.actor.inputOpen = false → side.busy.queue = [] ∧ side.busy.sender = false

theorem inputClosed_of_step (closed : side.InputClosed)
    (taken : (surroundedActor context).step side action = some (next, events))
    : next.InputClosed := by
  intro shut
  cases surrounded_of_step taken with
  | actor taken =>
      cases BusySide.stepped_of_step taken with
      | finished | panicked | cancelled => exact ⟨rfl, (closed shut).2⟩
      | closed => exact ⟨rfl, (closed shut).2⟩
      | received here opened =>
          rw [shut] at opened
          cases opened
      | inputClosed here empty gone => exact ⟨empty, gone⟩
      | replied | delivered | failed | encoding | queueing | queued => exact closed shut
  | arrive live sender =>
      have gone := (closed shut).2
      rw [sender] at gone
      cases gone
  | close => exact ⟨(closed shut).1, rfl⟩
  | abort | wire => exact closed shut

/-- An ended actor stays where it is, and nothing arrives on its queue. -/
theorem ended_of_step (ended : side.actor.hasEnded = true)
    (taken : (surroundedActor context).step side action = some (next, events))
    : next.actor.hasEnded = true
      ∧ BusyTransition.arrival? ⟨side, action, events, next⟩ = none
      ∧ BusyTransition.started? ⟨side, action, events, next⟩ = none := by
  have gone : side.actor.pc = .ended := by
    unfold BusyActor.hasEnded at ended
    split at ended
    · next here => exact here
    all_goals cases ended
  cases surrounded_of_step taken with
  | actor taken =>
      cases BusySide.stepped_of_step taken with
      | finished here | received here | inputClosed here | replied here | delivered here
      | failed here | encoding here | queueing here | queued here | closed here =>
          rw [gone] at here
          cases here
      | panicked live | cancelled abort live =>
          rw [ended] at live
          cases live
  | arrive live =>
      rw [ended] at live
      cases live
  | close | abort | wire => exact ⟨ended, rfl, rfl⟩

end

/-- The POST that a step starts is for the next response that has arrived. -/
theorem ordered_of_step {history : List BusyTransition} {transition : BusyTransition}
    (arrived
      : arrivals history = startedPosts history ++ transition.before.busy.queue)
    : startedPosts (history ++ [transition]) <+: arrivals (history ++ [transition]) := by
  rw [startedPosts_concat, arrivals_concat, arrived, List.append_assoc]
  apply List.prefix_append_right_inj _ |>.mpr
  cases started : transition.started? with
  | none => exact List.nil_prefix
  | some response =>
      have first : transition.before.busy.queue.head? = some response := by
        unfold BusyTransition.started? at started
        split at started
        · exact started
        all_goals cases started
      obtain ⟨rest, queued⟩ := List.head?_eq_some_iff.mp first
      rw [queued]
      exact List.prefix_append [response] _

/-- What holds of the actor and its past in every state. -/
structure BusyInvariant (history : List BusyTransition) (side : BusySide) : Prop where
  bounded : side.actor.posts.length ≤ busyResponseConcurrency
  closed : side.InputClosed
  ordered : startedPosts history <+: arrivals history
  accounted : side.actor.hasEnded = false → Accounted history side

/-- Every run of the actor among its surroundings keeps the invariant, by induction over it. -/
theorem busyInvariant {context : WorkerContext} {wire : Wire} {history : List BusyTransition}
    {side : BusySide} (run : (surroundedActor context).Run (.new wire) history side)
    : BusyInvariant history side := by
  induction run with
  | start =>
      refine {
        bounded := Nat.zero_le _, closed := ?_, ordered := List.prefix_rfl, accounted := ?_
      }
      · intro shut
        cases shut
      · intro _
        exact ⟨rfl, List.Perm.refl _, [], [], rfl, trivial, .nil⟩
  | @step history before action events next run taken ih =>
      refine {
        bounded := posts_le_of_step ih.bounded taken
        closed := inputClosed_of_step ih.closed taken
        ordered := ?_, accounted := ?_
      }
      · cases live : before.actor.hasEnded with
        | true =>
            obtain ⟨-, arrival, started⟩ := ended_of_step live taken
            rw [startedPosts_concat, arrivals_concat, arrival, started]
            simpa using ih.ordered
        | false => exact ordered_of_step (ih.accounted live).arrived
      · intro live
        cases live' : before.actor.hasEnded with
        | true =>
            obtain ⟨ended, -⟩ := ended_of_step live' taken
            rw [ended] at live
            cases live
        | false => exact (ih.accounted live').step taken live

/-- The actor ends by returning with nothing left, or from a call of `queue_ws_response` that
finds the bulk channel closed; otherwise it has panicked or has been aborted.
-/
theorem returned_of_step {context : WorkerContext} {history : List BusyTransition}
    {side next : BusySide} {action : SurroundedAction} {events : List Event}
    (invariant : BusyInvariant history side)
    (taken : (surroundedActor context).step side action = some (next, events))
    (live : side.actor.hasEnded = false) (ended : next.actor.hasEnded = true)
    (whole : action ≠ .actor .panic) (kept : action ≠ .actor .cancelled)
    : ReturnedIdle history side ∨ side.wire.writer.hasEnded = true := by
  cases surrounded_of_step taken with
  | actor taken =>
      cases BusySide.stepped_of_step taken with
      | finished here shut idle =>
          have books := invariant.accounted live
          obtain ⟨empty, closed⟩ := invariant.closed shut
          have started : startedPosts history = arrivals history := by
            rw [books.arrived, empty, List.append_nil]
          refine .inl {
            closed, empty, started, finished := ?_, fellBack := books.fellBack_of_top here
          }
          rw [← started]
          simpa [idle] using books.posted
      | closed here proceeded =>
          have gone := Queueing.ended_of_closed proceeded
          rw [Queueing.proceed_writer proceeded] at gone
          exact .inr gone
      | panicked => exact absurd rfl whole
      | cancelled => exact absurd rfl kept
      | received | inputClosed | replied | delivered =>
          cases live.symm.trans ended
      | failed | encoding | queueing | queued => cases ended
  | arrive | close | abort | wire => cases live.symm.trans ended

section

variable {context : WorkerContext} {side next : BusySide} {action : SurroundedAction}
  {events : List Event}

/-- `responses.recv` yields a response only to start its POST. -/
theorem started_of_step {response : BudgetedResponse}
    (taken : (surroundedActor context).step side action = some (next, events))
    (started : BusyTransition.started? ⟨side, action, events, next⟩ = some response)
    : next.actor.posts = side.actor.posts ++ [.start context response] := by
  unfold BusyTransition.started? at started
  split at started
  · next received =>
      dsimp only at received started
      subst received
      rw [surroundedActor_actor] at taken
      cases BusySide.stepped_of_step taken with
      | received here opened room queued =>
          simp only [queued, List.head?_cons, Option.some.injEq] at started
          rw [started]
      | inputClosed here empty closed => simp [empty] at started
  all_goals cases started

/-- The `responses.recv` branch is taken only where its guard holds. -/
theorem receives_of_step
    (taken : (surroundedActor context).step side (.actor .receive) = some (next, events))
    : side.actor.receives = true := by
  simp only [surroundedActor_actor, BusySide.step] at taken
  split at taken
  · split at taken
    · next enabled => exact enabled
    · cases taken
  · cases taken

/-- A POST is polled only where there is one. -/
theorem polls_of_step {index : Nat}
    (taken : (surroundedActor context).step side action = some (next, events))
    (polls
      : action = .actor (.completed index) ∨ ∃ reply, action = .actor (.post index reply))
    : side.actor.polls = true := by
  have nonempty {post : Post} (found : side.actor.posts[index]? = some post)
      : side.actor.polls = true := by
    cases posts : side.actor.posts with
    | nil => simp [posts] at found
    | cons post rest => simp [BusyActor.polls, posts]
  rcases polls with rfl | ⟨reply, rfl⟩ <;> rw [surroundedActor_actor] at taken
  · cases BusySide.stepped_of_step taken with
    | delivered here found | failed here found => exact nonempty found
  · cases BusySide.stepped_of_step taken with
    | replied here found => exact nonempty found

end

/-- The law of `run_busy_response_actor`, over every run of it among its surroundings. -/
structure BusyActorCorrect (context : WorkerContext) (history : List BusyTransition)
    (side : BusySide) : Prop where
  /-- At most four POSTs are in flight. -/
  bounded : side.actor.posts.length ≤ busyResponseConcurrency
  /-- POSTs are started in the order of arrival. -/
  ordered : startedPosts history <+: arrivals history
  /-- What is started is `post_response` for that response. -/
  starts
    : ∀ transition ∈ history,
        ∀ response,
          transition.started? = some response
          → transition.after.actor.posts
            = transition.before.actor.posts ++ [.start context response]
  /-- Each response has one POST, which is in flight or has returned. -/
  posted
    : side.actor.hasEnded = false
      → ((completedPosts history).map Post.response ++ side.actor.posts.map Post.response).Perm
          (startedPosts history)
  /-- The `select!` always has an enabled branch. -/
  enabled
    : side.actor.reachesSelect = true
      → side.actor.receives = true ∨ side.actor.polls = true
  /-- A branch is taken only where its guard holds, and the set that is polled is not empty. -/
  guarded
    : ∀ transition ∈ history,
        (transition.action = .actor .receive → transition.before.actor.receives = true)
        ∧ ∀ index,
            (transition.action = .actor (.completed index)
              ∨ ∃ reply, transition.action = .actor (.post index reply))
            → transition.before.actor.polls = true
  /-- The actor returns with nothing left, or because the bulk channel is closed. -/
  returns
    : ∀ earlier transition later,
        history = earlier ++ transition :: later
        → transition.before.actor.hasEnded = false
        → transition.after.actor.hasEnded = true
        → transition.action ≠ .actor .panic
        → transition.action ≠ .actor .cancelled
        → ReturnedIdle earlier transition.before
          ∨ transition.before.wire.writer.hasEnded = true
  /-- Once it has ended, `answer_busy` answers over the WebSocket with the same response. -/
  answers
    : side.actor.hasEnded = true
      → ∀ (c : Connection) response,
          c.actor = side.actor
          → c.answerBusy context response
            = { c with session := .queueing (.start .busy response) }

/-- Every run of the actor among its surroundings obeys the law. -/
theorem busyActor_correct {context : WorkerContext} {wire : Wire} {history : List BusyTransition}
    {side : BusySide} (run : (surroundedActor context).Run (.new wire) history side)
    : BusyActorCorrect context history side := by
  have invariant := busyInvariant run
  refine {
    bounded := invariant.bounded, ordered := invariant.ordered, starts := ?_, posted := ?_,
    enabled := BusyActor.enabled_of_reachesSelect, guarded := ?_, returns := ?_, answers := ?_
  }
  · intro transition listed response started
    obtain ⟨_, _, _, _, taken⟩ := run.transition_mem listed
    exact started_of_step taken started
  · intro live
    exact (invariant.accounted live).posted
  · intro transition listed
    obtain ⟨_, _, _, _, taken⟩ := run.transition_mem listed
    constructor
    · intro received
      rw [received] at taken
      exact receives_of_step taken
    · intro index polls
      exact polls_of_step taken polls
  · rintro earlier transition later rfl live ended whole kept
    obtain ⟨reached, taken⟩ := run.split
    exact returned_of_step (busyInvariant reached) taken live ended whole kept
  · intro ended c response same
    have closed : c.actor.hasEnded = true := by
      rw [same]
      exact ended
    rw [Connection.answerBusy, if_neg]
    rw [closed]
    rintro ⟨-, absent, -⟩
    cases absent

def thirdUid : RustString := ⟨"third", 8, by decide, by decide⟩
def fourthUid : RustString := ⟨"fourth", 8, by decide, by decide⟩
def fifthUid : RustString := ⟨"fifth", 8, by decide, by decide⟩

/-- The busy answer to a request. -/
def busyAnswer (uid : RustString) : BudgetedResponse :=
  { response := .new uid 503 .new, retained := ⟨uid.capacity⟩ }

/-- A POST of such an answer succeeds. -/
def postSucceeds (index : Nat) : List SurroundedAction :=
  [.actor (.post index .granted), .actor (.post index (.capacity 16)),
    .actor (.post index (.posted (.ok 200))), .actor (.post index .done),
    .actor (.completed index)]

/-- Five answers arrive and four are started; the second POST returns, so the fifth is started;
the first fails for want of memory and falls back; the others succeed in reverse order.
-/
def fiveArrive : List SurroundedAction :=
  [firstUid, secondUid, thirdUid, fourthUid, fifthUid].map (fun uid => .arrive (busyAnswer uid))
  ++ List.replicate 4 (.actor .receive)
  ++ postSucceeds 1 ++ [.actor .receive]
  ++ [.actor (.post 0 (.refused { requested := 16, available := 0 })), .actor (.completed 0),
    .actor (.reply .granted), .actor (.reply (.capacity 56)), .actor (.reply .done),
    .actor .queue, .actor .queue]
  ++ postSucceeds 2 ++ postSucceeds 1 ++ postSucceeds 0
  ++ [.close, .actor .receive, .actor .finish]

/-- In that run the limit is reached, and POSTs return in another order than they were started. -/
theorem busyActor_correct_fiveArrive
    : ∃ history side,
        (surroundedActor (.bare 3)).exec (.new (.new (Connection.register (.bare 3) "instance")))
          fiveArrive
          = some (history, side)
        ∧ side.actor.hasEnded = true
        ∧ (∃ transition ∈ history,
            transition.after.actor.posts.length = busyResponseConcurrency)
        ∧ (startedPosts history).map (fun response => response.response.uid.text)
          = ["first", "second", "third", "fourth", "fifth"]
        ∧ (completedPosts history).map (fun post => post.response.response.uid.text)
          = ["second", "first", "fifth", "fourth", "third"]
        ∧ (fallbacks history).length = 1
        ∧ BusyActorCorrect (.bare 3) history side := by
  have passed
      : ((surroundedActor (.bare 3)).exec
          (.new (.new (Connection.register (.bare 3) "instance"))) fiveArrive).any
            (fun ran => ran.2.actor.hasEnded
              && ran.1.any (fun transition =>
                transition.after.actor.posts.length == busyResponseConcurrency)
              && (startedPosts ran.1).map (fun response => response.response.uid.text)
                == ["first", "second", "third", "fourth", "fifth"]
              && (completedPosts ran.1).map (fun post => post.response.response.uid.text)
                == ["second", "first", "fifth", "fourth", "third"]
              && (fallbacks ran.1).length == 1)
        = true := by
    decide
  obtain ⟨history, side, executed, checked⟩ := Machine.exec_checked passed
  simp only [Bool.and_eq_true, beq_iff_eq, List.any_eq_true] at checked
  obtain ⟨⟨⟨⟨ended, full⟩, started⟩, completed⟩, fellBack⟩ := checked
  exact ⟨history, side, executed, ended, full, started, completed, fellBack,
    busyActor_correct (Machine.exec_run executed)⟩

-----------------------------------------------------------------------------------------
-- The actor of a connection
-----------------------------------------------------------------------------------------

namespace Connection

section

variable {context : WorkerContext} {side : BusySide}

theorem surrounds_wire (wire : Wire)
    : ∃ matching, (surroundedActor context).Run side matching { side with wire } := by
  have changes : (surroundedActor context).step side (.wire wire)
      = some ({ side with wire }, []) := rfl
  exact ⟨_, .single changes⟩

theorem surrounds_close
    : ∃ matching,
        (surroundedActor context).Run side matching
          { side with busy := { side.busy with sender := false } } := by
  have closes : (surroundedActor context).step side .close
      = some ({ side with busy := { side.busy with sender := false } }, []) := rfl
  exact ⟨_, .single closes⟩

theorem surrounds_abort
    : ∃ matching,
        (surroundedActor context).Run side matching
          { side with actor := { side.actor with aborted := true } } := by
  have aborts : (surroundedActor context).step side .abort
      = some ({ side with actor := { side.actor with aborted := true } }, []) := rfl
  exact ⟨_, .single aborts⟩

end

variable {context : WorkerContext} {c next : Connection} {events : List Event}

/-- To the actor, a step of the session is something that its surroundings may do. -/
theorem surrounds_sessionStep {action : SessionAction} (kept : c.Kept)
    (taken : c.sessionStep context action = some (next, events))
    : ∃ matching, (surroundedActor context).Run c.side matching next.side := by
  cases stepped_of_sessionStep taken with
  | idle | left | channelClosed | writerEnded | spawned | busy | received | reserving | encoding
  | refused | reserved | answered | joinedEmpty | joined | joinFailed | aborted | noFarewell
  | writerJoined | flushTimeout | returned => exact ⟨[], .start⟩
  | leftIdle | leftTask =>
      unfold leaveTasks
      split <;> exact ⟨[], .start⟩
  | offered | readied | farewell | queueing | queued | closed | droppedBulk | flushing | notQueued
  | abortedWriter => exact surrounds_wire _
  | @posted response here http live room =>
      have running : c.session.running = true := by
        rw [here]
        rfl
      have sender := (kept.serving running).busySender
      have arrives : (surroundedActor context).step c.side (.arrive response)
          = some (side
            { c with session := .select,
                     busy := { c.busy with queue := c.busy.queue ++ [response] } }, []) :=
        if_pos ⟨live, sender, room⟩
      exact ⟨_, .single arrives⟩
  | droppedBusy => exact surrounds_close
  | droppedSelf =>
      obtain ⟨first, closes⟩ := @surrounds_close context c.side
      obtain ⟨second, changes⟩ := surrounds_wire c.wire.dropBulkSender.dropControlSender
      exact ⟨first ++ second, closes.trans changes⟩
  | abortedActor => exact surrounds_abort

/-- So is a step of any other task, and a step of the actor is itself. -/
theorem surrounds_step {action : ConnectionAction} (kept : c.Kept)
    (taken : c.step context action = some (next, events))
    : ∃ matching, (surroundedActor context).Run c.side matching next.side := by
  cases moved_of_step taken with
  | session taken => exact surrounds_sessionStep kept taken
  | scrape found stepped => exact ⟨[], .start⟩
  | @busyActor action side events stepped =>
      have moves : (surroundedActor context).step c.side (.actor action) = some (side, events) :=
        stepped
      exact ⟨_, .single moves⟩
  | writer stepped => exact surrounds_wire _

/-- Every run of a connection is, to its busy-response actor, a run among surroundings. -/
theorem surrounds {name : String}
    {history : List (Transition Connection ConnectionAction Event)}
    (run : (connectionMachine context).Run (new context name) history c)
    : ∃ matching,
        (surroundedActor context).Run (.new (.new (register context name))) matching c.side :=
  run.simulated Connection.side fun reached taken => surrounds_step (kept_of_run reached) taken

/-- So no connection ever has more than four busy POSTs in flight. -/
theorem busyPosts_le {name : String}
    {history : List (Transition Connection ConnectionAction Event)}
    (run : (connectionMachine context).Run (new context name) history c)
    : c.actor.posts.length ≤ busyResponseConcurrency := by
  obtain ⟨matching, surrounded⟩ := surrounds run
  exact (busyInvariant surrounded).bounded

end Connection

end ProxyClient
