import ProxyClient.Resource
import ProxyClient.Worker.Queueing

/-! The scrape task that `handle_text` spawns: one exporter call, for wire v3 one POST, and
the completion it sends back to the session.
-/

namespace ProxyClient

open Foundations

def fallbackAfterTimeoutLimit : Nat := 256 * 1024

/-- A response kept beside the `post_response` call that borrows it. -/
structure Post where
  response : BudgetedResponse
  execution : Execution (Except BoxError Unit)

/-- The call `post_response(context, &response)` up to its first step. -/
def Post.start (context : WorkerContext) (response : BudgetedResponse) : Post :=
  { response, execution := .begin (postResponse context response.response) }

/-- A POST holds its response and what its form has reserved. -/
def Post.piece (origin : Origin) (post : Post) : Piece :=
  ⟨origin, post.response.response.uid.text,
    post.response.retained.bytes + post.execution.ghost⟩

/-- `deliver_by_post` once `post_response` has returned: the response to send over the
WebSocket instead, if any. Otherwise the response is dropped here.
-/
def deliverByPost (response : BudgetedResponse)
    : Except BoxError Unit → Option BudgetedResponse × List Event
  | .ok () =>
      (none, [.posted .scrape response.response, .released response.retained.bytes])
  | .error error =>
      let bodyLength := response.response.body.len
      if error.isTimeout ∧ bodyLength > fallbackAfterTimeoutLimit then
        (none,
          [.dropped .scrape response.response.uid.text (.postTimedOut bodyLength),
            .released response.retained.bytes])
      else (some response, [])

/-- How a spawned task has ended. -/
inductive TaskResult
  | completed
  | panicked
  | cancelled
deriving DecidableEq, Repr

/-- Where a scrape task stands. -/
inductive ScrapePc
  /-- Spawned and not polled yet. -/
  | spawned (uid resource : RustString)
  | calling (uid : RustString) (execution : Execution (Option BudgetedResponse))
  | posting (post : Post)
  /-- `task_completion_tx.send` is next. -/
  | completing (response : Option BudgetedResponse)
  | returning
  | ended (result : TaskResult)

namespace ScrapePc

def hasEnded : ScrapePc → Bool
  | .ended _ => true
  | .spawned .. | .calling .. | .posting _ | .completing _ | .returning => false

/-- The exporter call or the POST is still ahead or under way. -/
def working : ScrapePc → Bool
  | .spawned .. | .calling .. | .posting _ => true
  | .completing _ | .returning | .ended _ => false

/-- The completion has not been sent. -/
def beforeSend : ScrapePc → Bool
  | .spawned .. | .calling .. | .posting _ | .completing _ => true
  | .returning | .ended _ => false

/-- The task is suspended, so an abort takes effect here. -/
def awaits : ScrapePc → Bool
  | .spawned .. | .completing _ => true
  | .calling _ execution => execution.pending?.any Op.awaits
  | .posting post => post.execution.pending?.any Op.awaits
  | .returning | .ended _ => false

/-- The operation that the task performs next. -/
def computes : ScrapePc → Option Op
  | .calling _ execution => execution.pending?
  | .posting post => post.execution.pending?
  | .spawned .. | .completing _ | .returning | .ended _ => none

/-- What the task holds. -/
def pieces : ScrapePc → List Piece
  | .spawned uid _ => [⟨.scrape, uid.text, 0⟩]
  | .calling uid execution => [⟨.scrape, uid.text, execution.ghost⟩]
  | .posting post => [post.piece .scrape]
  | .completing response => response.toList.map (BudgetedResponse.piece .scrape)
  | .returning | .ended _ => []

end ScrapePc

/-- A scrape task and its abort flag. -/
structure ScrapeTask where
  pc : ScrapePc
  aborted : Bool

/-- A step of a scrape task. -/
inductive ScrapeAction
  /-- The task is polled for the first time. -/
  | start
  /-- An operation of `call_resource` or `post_response` is answered. -/
  | reply (reply : Reply)
  /-- `call_resource` has returned. -/
  | called
  /-- `post_response` has returned. -/
  | delivered
  /-- `task_completion_tx.send`. -/
  | send
  | finish
  | panic
  | cancelled

/-- The completion channel as its senders see it. -/
structure Completions where
  queue : List (Nat × Option BudgetedResponse)
  /-- The receiver exists, that is, `Session::run` runs. -/
  received : Bool

/-- What a lost completion held. -/
def Completions.pieces (completions : Completions) : List Piece :=
  completions.queue.flatMap fun (_, response) =>
    response.toList.map (BudgetedResponse.piece .scrape)

namespace ScrapePc

/-- The scrape task, one step at a time. `task` is its number, which its completion carries
as a proof-only mark.
-/
def step (context : WorkerContext) (task : Nat) (aborted : Bool) (completions : Completions)
    (pc : ScrapePc)
    : ScrapeAction → Option (ScrapePc × Completions × List Event)
  | .start =>
      match pc with
      | .spawned uid resource =>
          let program := callResource context.resources uid resource.text
          some (.calling uid (.begin program), completions, [])
      | _ => none
  | .reply reply =>
      match pc with
      | .calling uid execution =>
          (execution.reply reply).map fun (execution, events) =>
            (.calling uid execution, completions, events)
      | .posting post =>
          (post.execution.reply reply).map fun (execution, events) =>
            (.posting { post with execution }, completions, events)
      | _ => none
  | .called =>
      match pc with
      | .calling uid execution =>
          execution.result?.map fun
            | none =>
                (.completing none, completions, [.dropped .scrape uid.text .callResource])
            | some response =>
                if context.protocol = 3 then
                  (.posting (.start context response), completions, [])
                else (.completing (some response), completions, [])
      | _ => none
  | .delivered =>
      match pc with
      | .posting post =>
          post.execution.result?.map fun result =>
            let (response, events) := deliverByPost post.response result
            (.completing response, completions, events)
      | _ => none
  | .send =>
      match pc with
      | .completing response =>
          if !completions.received then
            some (.returning, completions, lose pc.pieces)
          else if completions.queue.length < 1 then
            let queue := completions.queue ++ [(task, response)]
            some (.returning, { completions with queue }, [])
          else none
      | _ => none
  | .finish =>
      match pc with
      | .returning => some (.ended .completed, completions, [])
      | _ => none
  | .panic =>
      if pc.beforeSend then
        some (.ended .panicked, completions, .panicked (.scrape task) :: lose pc.pieces)
      else none
  | .cancelled =>
      if aborted && pc.awaits then some (.ended .cancelled, completions, lose pc.pieces)
      else none

-----------------------------------------------------------------------------------------
-- What one step of a scrape task can do
-----------------------------------------------------------------------------------------

/-- A proof view of `ScrapePc.step`: one constructor for each outcome. -/
inductive Stepped (context : WorkerContext) (task : Nat) (aborted : Bool)
    (completions : Completions)
    : ScrapePc → ScrapeAction → ScrapePc → Completions → List Event → Prop
  | start {uid resource}
    : Stepped context task aborted completions (.spawned uid resource) .start
        (.calling uid (.begin (callResource context.resources uid resource.text)))
        completions []
  | callReplied {uid execution next reply events}
    (replied : execution.reply reply = some (next, events))
    : Stepped context task aborted completions (.calling uid execution) (.reply reply)
        (.calling uid next) completions events
  | postReplied {post next reply events}
    (replied : post.execution.reply reply = some (next, events))
    : Stepped context task aborted completions (.posting post) (.reply reply)
        (.posting { post with execution := next }) completions events
  | refused {uid execution} (returned : execution.result? = some none)
    : Stepped context task aborted completions (.calling uid execution) .called
        (.completing none) completions [.dropped .scrape uid.text .callResource]
  | posting {uid execution response} (returned : execution.result? = some (some response))
    (http : context.protocol = 3)
    : Stepped context task aborted completions (.calling uid execution) .called
        (.posting (.start context response)) completions []
  | called {uid execution response} (returned : execution.result? = some (some response))
    (socket : context.protocol ≠ 3)
    : Stepped context task aborted completions (.calling uid execution) .called
        (.completing (some response)) completions []
  | delivered {post result} (returned : post.execution.result? = some result)
    : Stepped context task aborted completions (.posting post) .delivered
        (.completing (deliverByPost post.response result).1) completions
        (deliverByPost post.response result).2
  | sent {response} (received : completions.received = true)
    (empty : completions.queue = [])
    : Stepped context task aborted completions (.completing response) .send .returning
        { completions with queue := [(task, response)] } []
  | lost {response} (gone : completions.received = false)
    : Stepped context task aborted completions (.completing response) .send .returning
        completions (lose (pieces (.completing response)))
  | finished
    : Stepped context task aborted completions .returning .finish (.ended .completed)
        completions []
  | panicked {pc} (before : pc.beforeSend = true)
    : Stepped context task aborted completions pc .panic (.ended .panicked) completions
        (.panicked (.scrape task) :: lose pc.pieces)
  | cancelled {pc} (abort : aborted = true) (awaits : pc.awaits = true)
    : Stepped context task aborted completions pc .cancelled (.ended .cancelled) completions
        (lose pc.pieces)

/-- Every enabled step of a scrape task is one of the view's constructors. -/
theorem stepped_of_step {context : WorkerContext} {task : Nat} {aborted : Bool}
    {completions next : Completions} {pc pc' : ScrapePc} {action : ScrapeAction}
    {events : List Event}
    (taken : pc.step context task aborted completions action = some (pc', next, events))
    : Stepped context task aborted completions pc action pc' next events := by
  cases action with
  | start =>
      cases pc with
      | spawned uid resource =>
          obtain ⟨rfl, rfl, rfl⟩ := taken
          exact .start
      | calling | posting | completing | returning | ended => cases taken
  | reply reply =>
      cases pc with
      | calling uid execution =>
          obtain ⟨⟨execution', events'⟩, replied, same⟩ := Option.map_eq_some_iff.mp taken
          obtain ⟨rfl, rfl, rfl⟩ := same
          exact .callReplied replied
      | posting post =>
          obtain ⟨⟨execution', events'⟩, replied, same⟩ := Option.map_eq_some_iff.mp taken
          obtain ⟨rfl, rfl, rfl⟩ := same
          exact .postReplied replied
      | spawned | completing | returning | ended => cases taken
  | called =>
      cases pc with
      | calling uid execution =>
          obtain ⟨result, returned, same⟩ := Option.map_eq_some_iff.mp taken
          cases result with
          | none =>
              obtain ⟨rfl, rfl, rfl⟩ := same
              exact .refused returned
          | some response =>
              simp only at same
              split at same
              · next http =>
                  obtain ⟨rfl, rfl, rfl⟩ := same
                  exact .posting returned http
              · next socket =>
                  obtain ⟨rfl, rfl, rfl⟩ := same
                  exact .called returned socket
      | spawned | posting | completing | returning | ended => cases taken
  | delivered =>
      cases pc with
      | posting post =>
          obtain ⟨result, returned, same⟩ := Option.map_eq_some_iff.mp taken
          obtain ⟨rfl, rfl, rfl⟩ := same
          exact .delivered returned
      | spawned | calling | completing | returning | ended => cases taken
  | send =>
      cases pc with
      | completing response =>
          simp only [step] at taken
          split at taken
          · next gone =>
              obtain ⟨rfl, rfl, rfl⟩ := taken
              exact .lost (by simpa using gone)
          · next received =>
              split at taken
              · next empty =>
                  have none : completions.queue = [] :=
                    List.eq_nil_of_length_eq_zero (by omega)
                  obtain ⟨rfl, rfl, rfl⟩ := taken
                  rw [none]
                  exact .sent (by simpa using received) none
              · cases taken
      | spawned | calling | posting | returning | ended => cases taken
  | finish =>
      cases pc with
      | returning =>
          obtain ⟨rfl, rfl, rfl⟩ := taken
          exact .finished
      | spawned | calling | posting | completing | ended => cases taken
  | panic =>
      simp only [step] at taken
      split at taken
      · next before =>
          obtain ⟨rfl, rfl, rfl⟩ := taken
          exact .panicked before
      · cases taken
  | cancelled =>
      simp only [step] at taken
      split at taken
      · next both =>
          obtain ⟨abort, awaits⟩ := (Bool.and_eq_true _ _).mp both
          obtain ⟨rfl, rfl, rfl⟩ := taken
          exact .cancelled abort awaits
      · cases taken

end ScrapePc

end ProxyClient
