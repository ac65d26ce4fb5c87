import ProxyClient.Suspension
import ProxyClient.Worker.Line
import ProxyClient.Worker.Schedule

/-! When reading waits for a network write.
The session serialises responses inside the branches of its `select!` and then sends them
into the bulk queue, which the writer drains. It returns to the `select!` on its own as long
as that queue has a place for it, and is suspended with the writer otherwise.
-/

namespace ProxyClient

open Foundations

/-- The program of a branch runs without an await. -/
def Execution.Unsuspended {α : Type} (execution : Execution α) : Prop :=
  Running.Sound unsuspended (fun _ _ => True) execution

theorem Execution.Unsuspended.reply {α : Type} {execution next : Execution α} {reply : Reply}
    {events : List Event} (runs : execution.Unsuspended)
    (replied : execution.reply reply = some (next, events))
    : next.Unsuspended :=
  Running.Sound.advance runs replied

/-- What a call of `queue_ws_response` computes before its send runs without an await. -/
def Queueing.Unsuspended : Queueing → Prop
  | .encoding _ _ execution => execution.Unsuspended
  | .sending _ | .suspended _ => True

theorem Queueing.unsuspended_start (origin : Origin) (response : BudgetedResponse)
    : (Queueing.start origin response).Unsuspended :=
  unsuspended_encodeForQueue origin response _

theorem Queueing.Unsuspended.reply {call next : Queueing} {answer : Reply}
    {events : List Event} (runs : call.Unsuspended)
    (replied : call.reply answer = some (next, events))
    : next.Unsuspended := by
  cases call with
  | encoding origin uid execution =>
      obtain ⟨⟨execution', events'⟩, answered, same⟩ := Option.map_eq_some_iff.mp replied
      obtain ⟨rfl, rfl⟩ := same
      exact Execution.Unsuspended.reply runs answered
  | sending | suspended => cases replied

/-- Once it is encoded, a response only waits for its place. -/
theorem Queueing.unsuspended_of_proceed {who : Sender} {wire next : Wire}
    {call again : Queueing} {events : List Event}
    (taken : call.proceed who wire = some (.again again, next, events))
    : again.Unsuspended := by
  cases proceeded_of_proceed taken with
  | encoded | joined => trivial

/-- What the session computes inside a branch of its `select!` runs without an await. -/
def SessionPc.Unsuspended : SessionPc → Prop
  | .reserving _ execution => execution.Unsuspended
  | .queueing call => call.Unsuspended
  | .select | .pinging | .answering _ | .joining .. | .exited _ | .cancelling ..
  | .droppingBulk _ | .droppingBusy _ | .farewelling _ | .droppingControl .. | .flushing _
  | .abortingWriter _ | .awaitingWriter _ | .droppingSelf _ | .abortingActor _
  | .awaitingActor _ | .returned _ => True

namespace Connection

/-- Only its own steps move the session. -/
theorem session_of_step {context : WorkerContext} {c next : Connection}
    {action : ConnectionAction} {events : List Event}
    (taken : c.step context action = some (next, events))
    (other : ∀ step, action ≠ .session step)
    : next.session = c.session := by
  cases moved_of_step taken with
  | @session step next events taken => exact absurd rfl (other step)
  | scrape => rfl
  | busyActor | writer =>
      rfl

theorem unsuspended_of_sessionStep {context : WorkerContext} {c next : Connection}
    {action : SessionAction} {events : List Event} (runs : c.session.Unsuspended)
    (taken : c.sessionStep context action = some (next, events))
    : next.session.Unsuspended := by
  cases stepped_of_sessionStep taken with
  | idle => exact runs
  | @spawned action uid resource here =>
      simp only [here]
      trivial
  | busy => exact unsuspended_tryNew _ _ _ _
  | reserving here answered =>
      rw [here] at runs
      exact Execution.Unsuspended.reply runs answered
  | encoding here answered =>
      rw [here] at runs
      exact Queueing.Unsuspended.reply runs answered
  | answered | joined => exact Queueing.unsuspended_start _ _
  | queueing here proceeded => exact Queueing.unsuspended_of_proceed proceeded
  | offered here next =>
      rcases next with rfl | rfl <;> trivial
  | leftIdle | leftTask =>
      unfold leaveTasks
      split <;> trivial
  | left | channelClosed | writerEnded | readied | received | refused | reserved | posted
  | queued | closed | joinedEmpty | joinFailed | aborted | droppedBulk | droppedBusy
  | farewell | noFarewell | flushing | notQueued | writerJoined | flushTimeout
  | abortedWriter | droppedSelf | abortedActor | returned => trivial

theorem unsuspended_of_run {context : WorkerContext} {name : String}
    {history : List (Transition Connection ConnectionAction Event)} {c : Connection}
    (run : (connectionMachine context).Run (new context name) history c)
    : c.session.Unsuspended := by
  refine run.invariant (fun c => c.session.Unsuspended) trivial ?_
  intro before action after events runs taken
  by_cases own : ∃ step, action = .session step
  · obtain ⟨step, rfl⟩ := own
    exact unsuspended_of_sessionStep runs taken
  · rw [session_of_step taken fun step same => own ⟨step, same⟩]
    exact runs

-----------------------------------------------------------------------------------------
-- Returning to the `select!`
-----------------------------------------------------------------------------------------

/-- The session can go on by itself: it has an enabled step, or it performs an operation of
the budget or of the allocator.
-/
def GoesOn (context : WorkerContext) (c : Connection) : Prop :=
  (∃ action, (c.sessionStep context action).isSome = true)
  ∨ ∃ op, c.session.computes = some op ∧ op.awaits = false

/-- The session returns to its `select!`, or out of `run`, by its own steps, whatever their
outcomes, and by the return of the scrape task it awaits: no step of the writer, of the
busy-response actor or of the sink is needed.
-/
inductive Returns (context : WorkerContext) : Connection → Prop
  | back {c} (here : c.session = .select ∨ c.session.running = false) : Returns context c
  | moves {c} (goesOn : c.GoesOn context)
    (next
      : ∀ action after events,
          c.sessionStep context action = some (after, events) → Returns context after)
    : Returns context c
  | joins {c task response} (here : c.session = .joining task response)
    (finishes : (c.scrapeStep context task .finish).isSome = true)
    (next
      : ∀ after events,
          c.scrapeStep context task .finish = some (after, events) → Returns context after)
    : Returns context c

/-- The branch of the `select!` for this event is ready. -/
def Ready (c : Connection) : SessionAction → Prop
  | .shutdown | .heartbeat _ | .read _ => True
  | .completion => c.activeTask.isSome = true ∧ c.completions ≠ []
  | .writerEnded => c.wire.writer.hasEnded = true
  | .reply _ | .proceed | .flushTimeout => False

/-- The session is not suspended on the capacity of the bulk queue, it returns to its `select!`
from whatever it is handling, and from the `select!` it handles every event that it can take
next and returns.
-/
structure ReadsFreely (context : WorkerContext) (c : Connection) : Prop where
  unsuspended : ∀ response, c.session ≠ .queueing (.suspended response)
  returns : c.Returns context
  handles
    : c.session = .select
      → ∀ event,
          c.Ready event
          → ∃ after events,
              c.sessionStep context event = some (after, events) ∧ after.Returns context

-----------------------------------------------------------------------------------------
-- Where another response can follow
-----------------------------------------------------------------------------------------

/-- A busy answer goes to the busy-response actor. -/
def Posts (context : WorkerContext) (c : Connection) : Prop :=
  context.protocol = 3 ∧ c.actor.hasEnded = false
    ∧ c.busy.queue.length < busyResponseQueueCapacity

/-- Another response may reach `bulk.send` before the session is back at its `select!`: a busy
answer that the actor does not take, or the response of a finished scrape.
-/
def MaySend (context : WorkerContext) (c : Connection) : Prop :=
  match c.session with
  | .select =>
      (c.activeTask.isSome = true ∧ ¬ c.Posts context)
      ∨ ∃ task response rest,
          c.completions = (task, some response) :: rest ∧ response.Encodable
  | .reserving _ execution =>
      ¬ c.Posts context
      ∧ MayReturn (fun result => ∃ response, result = .ok response ∧ response.Encodable)
          execution.rest
  | .answering response => ¬ c.Posts context ∧ response.Encodable
  | .joining _ (some response) => response.Encodable
  | .queueing (.encoding _ _ execution) => MayReturn Succeeds execution.rest
  | .queueing (.sending _) => True
  | .joining _ none | .queueing (.suspended _) | .pinging | .exited _ | .cancelling ..
  | .droppingBulk _ | .droppingBusy _ | .farewelling _ | .droppingControl .. | .flushing _
  | .abortingWriter _ | .awaitingWriter _ | .droppingSelf _ | .abortingActor _
  | .awaitingActor _ | .returned _ => False

/-- Fewer responses than the bulk queue has places are queued, or held by senders that are
suspended on it; or the writer has ended, and a send fails at once.
-/
def HasPlace (c : Connection) : Prop :=
  c.wire.bulk.length + c.suspended.length < bulkQueueCapacity ∨ c.wire.writer.hasEnded = true

/-- Whenever another response can follow, there is a place for it. -/
def FindsPlace (context : WorkerContext) (c : Connection) : Prop :=
  c.MaySend context → c.HasPlace

end Connection

/-- A send into the bulk queue ends at once. -/
def Wire.Accepts (wire : Wire) : Prop := 0 < wire.slots.permits ∨ wire.writer.hasEnded = true

namespace Connection

/-- There is a place in this sense when the channel has a free one, since whoever is suspended
keeps one or waits for one.
-/
theorem Lined.hasPlace_iff {c : Connection} (lined : c.Lined) : c.HasPlace ↔ c.wire.Accepts := by
  unfold HasPlace Wire.Accepts
  cases live : c.wire.writer.hasEnded with
  | true => simp
  | false =>
      have line := lined live
      have placed := line.placed
      have fair := line.fair
      constructor
      · rintro (few | ended)
        · exact .inl (by omega)
        · cases ended
      · rintro (free | ended)
        · have none : c.wire.slots.waiting = [] := by
            by_contra waits
            have full := fair waits
            omega
          rw [none, List.length_nil] at placed
          exact .inl (by omega)
        · cases ended

section Returning

variable {context : WorkerContext} {c : Connection}

/-- Only what the session computes is answered. -/
theorem computes_of_reply {next : Connection} {reply : Reply} {events : List Event}
    (taken : c.sessionStep context (.reply reply) = some (next, events))
    : c.session.computes.isSome = true := by
  simp only [sessionStep] at taken
  split at taken
  · next uid execution here =>
      obtain ⟨after, answered, -⟩ := Option.map_eq_some_iff.mp taken
      obtain ⟨op, continue', answer, rest, -⟩ := Running.advance_eq_some answered
      simp [here, SessionPc.computes, Running.pending?, rest]
  · next call here =>
      obtain ⟨after, replied, -⟩ := Option.map_eq_some_iff.mp taken
      cases call with
      | encoding origin uid execution =>
          obtain ⟨after, answered, -⟩ := Option.map_eq_some_iff.mp replied
          obtain ⟨op, continue', answer, rest, -⟩ := Running.advance_eq_some answered
          simp [here, SessionPc.computes, Queueing.computes, Running.pending?, rest]
      | sending | suspended => cases replied
  · cases taken

/-- Inside a branch of `run`, a step of the session goes on with it or answers what it computes. -/
theorem proceeds_or_replies {next : Connection} {action : SessionAction} {events : List Event}
    (running : c.session.running = true) (branch : c.session ≠ .select)
    (taken : c.sessionStep context action = some (next, events))
    : c.proceed context = some (next, events)
      ∨ ∃ reply, c.sessionStep context (.reply reply) = some (next, events) := by
  cases action with
  | proceed => exact .inl taken
  | reply reply => exact .inr ⟨reply, taken⟩
  | shutdown | heartbeat | completion | read | writerEnded =>
      simp [sessionStep, branch] at taken
  | flushTimeout =>
      cases here : c.session with
      | flushing result =>
          rw [here] at running
          cases running
      | _ => simp [sessionStep, here] at taken

/-- A branch that computes nothing only goes on. -/
theorem proceeded_of_idle {next : Connection} {action : SessionAction} {events : List Event}
    (running : c.session.running = true) (branch : c.session ≠ .select)
    (idle : c.session.computes = none)
    (taken : c.sessionStep context action = some (next, events))
    : c.proceed context = some (next, events) := by
  rcases proceeds_or_replies running branch taken with proceeded | ⟨reply, replied⟩
  · exact proceeded
  · have computes := computes_of_reply replied
    simp [idle] at computes

/-- A branch that returns goes on by itself, or joins its scrape task. -/
theorem Returns.moves_or_joins (returns : c.Returns context)
    (running : c.session.running = true) (branch : c.session ≠ .select)
    : (c.GoesOn context
        ∧ ∀ action after events,
            c.sessionStep context action = some (after, events) → after.Returns context)
      ∨ ∃ task response,
          c.session = .joining task response
          ∧ (c.scrapeStep context task .finish).isSome = true
          ∧ ∀ after events,
              c.scrapeStep context task .finish = some (after, events)
              → after.Returns context := by
  cases returns with
  | back here =>
      rcases here with same | left
      · exact absurd same branch
      · simp [running] at left
  | moves goesOn next => exact .inl ⟨goesOn, next⟩
  | joins here finishes next => exact .inr ⟨_, _, here, finishes, next⟩

/-- A branch that goes on without a scrape task returns when what it goes on to does. -/
theorem returns_iff_of_proceed {next : Connection} {events : List Event}
    (running : c.session.running = true) (branch : c.session ≠ .select)
    (idle : c.session.computes = none)
    (alone
      : ∀ task response,
          c.session = .joining task response → c.scrapeStep context task .finish = none)
    (proceeded : c.proceed context = some (next, events))
    : c.Returns context ↔ next.Returns context := by
  constructor
  · intro returns
    rcases returns.moves_or_joins running branch with ⟨-, later⟩ | ⟨_, _, here, finishes, -⟩
    · exact later .proceed next events proceeded
    · rw [alone _ _ here] at finishes
      cases finishes
  · intro returns
    have enabled : (c.sessionStep context .proceed).isSome = true := by
      simp [sessionStep, proceeded]
    refine .moves (.inl ⟨.proceed, enabled⟩) ?_
    intro action after events' taken
    have same := proceeded_of_idle running branch idle taken
    rw [proceeded] at same
    obtain ⟨rfl, rfl⟩ := Prod.mk.inj (Option.some.inj same)
    exact returns

/-- A branch that computes returns when what every answer leaves of it does. -/
theorem returns_iff_of_computes {op : Op} (running : c.session.running = true)
    (branch : c.session ≠ .select) (computes : c.session.computes = some op)
    (awaitless : op.awaits = false) (stays : c.proceed context = none)
    : c.Returns context
      ↔ ∀ reply next events,
          c.sessionStep context (.reply reply) = some (next, events) → next.Returns context := by
  constructor
  · intro returns reply next events taken
    rcases returns.moves_or_joins running branch with ⟨-, later⟩ | ⟨_, _, here, -⟩
    · exact later (.reply reply) next events taken
    · rw [here] at computes
      cases computes
  · intro every
    refine .moves (.inr ⟨op, computes, awaitless⟩) ?_
    intro action next events taken
    rcases proceeds_or_replies running branch taken with proceeded | ⟨reply, replied⟩
    · rw [stays] at proceeded
      cases proceeded
    · exact every reply next events replied

/-- A session in the line of the bulk queue has no step before the writer accepts a response. -/
theorem stays_of_waiting {response : EncodedResponse}
    (here : c.session = .queueing (.suspended response)) (live : c.wire.writer.hasEnded = false)
    (waits : .session ∈ c.wire.slots.waiting) (action : SessionAction)
    : c.sessionStep context action = none := by
  apply Option.eq_none_iff_forall_ne_some.mpr
  intro after taken
  have proceeded := proceeded_of_idle (by rw [here]; rfl) (by simp [here]) (by rw [here]; rfl) taken
  simp [proceed, here, Queueing.proceed, live, waits] at proceeded

/-- So it does not return by itself. -/
theorem not_returns_of_waiting {response : EncodedResponse}
    (here : c.session = .queueing (.suspended response)) (live : c.wire.writer.hasEnded = false)
    (waits : .session ∈ c.wire.slots.waiting)
    : ¬ c.Returns context := by
  intro returns
  rcases returns.moves_or_joins (by rw [here]; rfl) (by simp [here]) with
    ⟨⟨action, enabled⟩ | ⟨op, computes, -⟩, -⟩ | ⟨_, _, joining, -⟩
  · rw [stays_of_waiting here live waits] at enabled
    cases enabled
  · rw [here] at computes
    cases computes
  · rw [here] at joining
    cases joining

/-- The poll of `bulk.send` ends at once, or suspends the session. -/
theorem returns_sending_iff {response : EncodedResponse}
    (here : c.session = .queueing (.sending response))
    : c.Returns context ↔ c.wire.Accepts := by
  have enabled : (c.proceed context).isSome = true := by
    simp only [proceed, here, Queueing.proceed, Option.isSome_map]
    split
    · rfl
    · split <;> rfl
  obtain ⟨⟨next, events⟩, proceeded⟩ := Option.isSome_iff_exists.mp enabled
  rw [returns_iff_of_proceed (by rw [here]; rfl) (by simp [here]) (by rw [here]; rfl)
    (by simp [here]) proceeded]
  simp only [proceed, here] at proceeded
  obtain ⟨⟨result, wire, events'⟩, sent, same⟩ := Option.map_eq_some_iff.mp proceeded
  cases Queueing.proceeded_of_proceed sent with
  | closed ended =>
      obtain ⟨rfl, rfl⟩ := same
      exact ⟨fun _ => .inr ended, fun _ => .back (.inr rfl)⟩
  | placed live free =>
      obtain ⟨rfl, rfl⟩ := same
      exact ⟨fun _ => .inl free, fun _ => .back (.inl rfl)⟩
  | joined live full =>
      obtain ⟨rfl, rfl⟩ := same
      constructor
      · intro returns
        exact absurd returns (not_returns_of_waiting rfl live (by simp))
      · rintro (free | ended)
        · omega
        · simp [live] at ended

/-- A program that the session runs in one of its branches, by induction over what is left of
it: the session returns when it does so from every end that some replies lead to.
-/
theorem returns_running_iff {α : Type} (place : Execution α → SessionPc) {post : α → Prop}
    {free : Prop} {held : Nat} {program : Proc α}
    (running : ∀ execution, (place execution).running = true)
    (computes : ∀ execution, (place execution).computes = execution.pending?)
    (branch : ∀ execution, place execution ≠ .select)
    (replied
      : ∀ execution reply,
          sessionStep context { c with session := place execution } (.reply reply)
          = (execution.reply reply).map fun (execution, events) =>
              ({ c with session := place execution }, events))
    (stays
      : ∀ execution,
          execution.result? = none → proceed context { c with session := place execution } = none)
    (ends
      : ∀ held value,
          Returns context { c with session := place ⟨held, .pure value⟩ } ↔ (post value → free))
    (runs : program.Meets unsuspended (fun _ _ => True) held)
    : Returns context { c with session := place ⟨held, program⟩ }
      ↔ (MayReturn post program → free) := by
  induction program generalizing held with
  | pure value => exact ends held value
  | perform op next ih =>
      rw [returns_iff_of_computes (running _) (branch _) (computes _) runs.1 (stays _ rfl)]
      constructor
      · intro every ⟨answer, ⟨reply, read⟩, later⟩
        refine (ih answer (runs.2 answer)).mp (every reply _ (op.report answer) ?_) later
        simp only [replied, Execution.reply, Running.advance, read, Option.map_some]
        rfl
      · intro place' reply after events taken
        rw [replied] at taken
        obtain ⟨⟨execution, events'⟩, answered, same⟩ := Option.map_eq_some_iff.mp taken
        obtain ⟨rfl, rfl⟩ := same
        obtain ⟨other, continue', answer, rest, read, rfl, -⟩ := Running.advance_eq_some answered
        obtain ⟨rfl, rfl⟩ := Program.perform.inj rest
        exact (ih answer (runs.2 answer)).mpr fun later => place' ⟨answer, ⟨reply, read⟩, later⟩

/-- `queue_ws_response` returns by itself when its send does, if it comes to that. -/
theorem returns_encoding_iff {origin : Origin} {uid : String}
    {execution : Execution (Except BoxError EncodedResponse)} (runs : execution.Unsuspended)
    (here : c.session = .queueing (.encoding origin uid execution))
    : c.Returns context ↔ (MayReturn Succeeds execution.rest → c.wire.Accepts) := by
  obtain ⟨held, program⟩ := execution
  have same : c = { c with session := .queueing (.encoding origin uid ⟨held, program⟩) } := by
    rw [← here]
  rw [same]
  refine returns_running_iff (fun execution => .queueing (.encoding origin uid execution))
    (fun _ => rfl) (fun _ => rfl) (fun _ => by simp) ?_ ?_ ?_ runs
  · intro execution reply
    simp only [sessionStep, Queueing.reply, Option.map_map]
    rfl
  · intro execution unfinished
    simp [proceed, Queueing.proceed, unfinished]
  · intro held value
    cases value with
    | error error =>
        refine ⟨fun _ => ?_, fun _ => ?_⟩
        · rintro ⟨_, absent⟩
          cases absent
        · exact (returns_iff_of_proceed rfl (by simp) rfl (by simp) rfl).mpr (.back (.inl rfl))
    | ok response =>
        have next
            : proceed context
                { c with session := .queueing (.encoding origin uid ⟨held, .pure (.ok response)⟩) }
              = some ({ c with session := .queueing (.sending response) }, []) :=
          rfl
        rw [returns_iff_of_proceed rfl (by simp) rfl (by simp) next, returns_sending_iff rfl]
        exact ⟨fun accepts _ => accepts, fun accepts => accepts ⟨response, rfl⟩⟩

theorem returns_start_iff {origin : Origin} {response : BudgetedResponse}
    (here : c.session = .queueing (.start origin response))
    : c.Returns context ↔ (response.Encodable → c.wire.Accepts) := by
  have runs : (Queueing.start origin response).Unsuspended := Queueing.unsuspended_start _ _
  rw [returns_encoding_iff runs here, mayReturn_encodeForQueue]

/-- A busy answer is posted, or sent over the WebSocket. -/
theorem returns_answering_iff {response : BudgetedResponse}
    (here : c.session = .answering response)
    : c.Returns context ↔ (¬ c.Posts context ∧ response.Encodable → c.wire.Accepts) := by
  have next : c.proceed context = some (c.answerBusy context response, []) := by
    simp [proceed, here]
  rw [returns_iff_of_proceed (by rw [here]; rfl) (by simp [here]) (by rw [here]; rfl)
    (by simp [here]) next]
  unfold answerBusy
  split
  · next posts =>
      refine ⟨fun _ absent => absurd posts absent.1, fun _ => .back (.inl rfl)⟩
  · next full =>
      rw [returns_start_iff rfl]
      exact ⟨fun accepts both => accepts both.2, fun accepts encodable => accepts ⟨full, encodable⟩⟩

/-- A request too many is refused its reservation or answered. -/
theorem returns_reserving_iff {uid : RustString}
    {execution : Execution (Except Memory.MemoryBudgetError BudgetedResponse)}
    (runs : execution.Unsuspended) (here : c.session = .reserving uid execution)
    : c.Returns context
      ↔ (MayReturn (fun result => ∃ response, result = .ok response ∧ response.Encodable)
            execution.rest
          → ¬ c.Posts context
          → c.wire.Accepts) := by
  obtain ⟨held, program⟩ := execution
  have same : c = { c with session := .reserving uid ⟨held, program⟩ } := by rw [← here]
  rw [same]
  refine returns_running_iff (.reserving uid) (fun _ => rfl) (fun _ => rfl) (fun _ => by simp)
    (fun _ _ => rfl) ?_ ?_ runs
  · intro execution unfinished
    simp [proceed, unfinished]
  · intro held value
    cases value with
    | error error =>
        refine ⟨fun _ => ?_, fun _ => ?_⟩
        · rintro ⟨_, absent, -⟩
          cases absent
        · exact (returns_iff_of_proceed rfl (by simp) rfl (by simp) rfl).mpr (.back (.inl rfl))
    | ok response =>
        have next
            : proceed context { c with session := .reserving uid ⟨held, .pure (.ok response)⟩ }
              = some ({ c with session := .answering response }, []) :=
          rfl
        rw [returns_iff_of_proceed rfl (by simp) rfl (by simp) next, returns_answering_iff rfl]
        constructor
        · rintro accepts ⟨_, same, encodable⟩ unposted
          obtain rfl := Except.ok.inj same
          exact accepts ⟨unposted, encodable⟩
        · rintro accepts ⟨unposted, encodable⟩
          exact accepts ⟨response, rfl, encodable⟩ unposted

theorem unsuspended_busy (uid : RustString)
    : (Execution.begin (BudgetedResponse.tryNew uid 503 .new)).Unsuspended :=
  unsuspended_tryNew uid 503 .new _

/-- The heartbeat branch goes on with its ping frame. -/
theorem returns_pinging (here : c.session = .pinging) : c.Returns context := by
  have next : c.proceed context = some (c.offer (.ping context.workerName) .select) := by
    simp [proceed, here]
  rw [returns_iff_of_proceed (by rw [here]; rfl) (by simp [here]) (by rw [here]; rfl)
    (by simp [here]) next]
  exact .back (.inl rfl)

/-- A scrape task that has ended with its completion sent is joined at once. -/
theorem returns_ended_iff {task : Nat} {response : Option BudgetedResponse}
    (here : c.session = .joining task response) (ended : c.taskResult? task = some .completed)
    : c.Returns context ↔ ∀ kept, response = some kept → kept.Encodable → c.wire.Accepts := by
  obtain ⟨scrape, found, stands⟩ := taskResult?_eq_some ended
  have alone (other : Nat) (kept : Option BudgetedResponse)
      (same : c.session = .joining other kept)
      : c.scrapeStep context other .finish = none := by
    obtain ⟨rfl, -⟩ := SessionPc.joining.inj (here.symm.trans same)
    simp [Connection.scrapeStep, found, stands, ScrapePc.step]
  have next : c.proceed context = some (c.handleJoined response .completed) := by
    simp [proceed, here, ended]
  rw [returns_iff_of_proceed (by rw [here]; rfl) (by simp [here]) (by rw [here]; rfl) alone next]
  cases response with
  | none =>
      refine ⟨fun _ _ absent => ?_, fun _ => .back (.inl rfl)⟩
      cases absent
  | some response =>
      change Returns context { c with session := .queueing (.start .scrape response) } ↔ _
      rw [returns_start_iff rfl]
      constructor
      · intro accepts kept same encodable
        obtain rfl := Option.some.inj same
        exact accepts encodable
      · intro accepts encodable
        exact accepts response rfl encodable

/-- A scrape task that is awaited has sent its completion and only has to return. -/
theorem Scheduled.returns_joining_iff (scheduled : c.Scheduled) {task : Nat}
    {response : Option BudgetedResponse} (here : c.session = .joining task response)
    : c.Returns context ↔ ∀ kept, response = some kept → kept.Encodable → c.wire.Accepts := by
  obtain ⟨-, scrape, found, sent⟩ := scheduled.joining task (by rw [here]; rfl) (by rw [here]; rfl)
  cases at_ : scrape.pc with
  | returning =>
      have within : task < c.tasks.length := (List.getElem?_eq_some_iff.mp found).1
      have finishes
          : c.scrapeStep context task .finish
            = some ({ c with tasks := c.tasks.set task { scrape with pc := .ended .completed } },
                []) := by
        simp [Connection.scrapeStep, found, at_, ScrapePc.step, channel]
      have ended
          : taskResult?
              { c with tasks := c.tasks.set task { scrape with pc := .ended .completed } } task
            = some .completed := by
        simp [taskResult?, within]
      have joined
          : Returns context
              { c with tasks := c.tasks.set task { scrape with pc := .ended .completed } }
            ↔ ∀ kept, response = some kept → kept.Encodable → c.wire.Accepts :=
        returns_ended_iff here ended
      constructor
      · intro returns
        rcases returns.moves_or_joins (by rw [here]; rfl) (by simp [here]) with
          ⟨⟨action, enabled⟩ | ⟨op, computes, -⟩, -⟩ | ⟨_, _, joining, -, later⟩
        · obtain ⟨⟨next, events⟩, taken⟩ := Option.isSome_iff_exists.mp enabled
          have proceeded :=
            proceeded_of_idle (by rw [here]; rfl) (by simp [here]) (by rw [here]; rfl) taken
          simp only [proceed, here] at proceeded
          obtain ⟨result, ended, -⟩ := Option.map_eq_some_iff.mp proceeded
          obtain ⟨other, same, stands⟩ := taskResult?_eq_some ended
          obtain rfl := Option.some.inj (found.symm.trans same)
          rw [at_] at stands
          cases stands
        · rw [here] at computes
          cases computes
        · obtain ⟨rfl, rfl⟩ := SessionPc.joining.inj (here.symm.trans joining)
          exact joined.mp (later _ _ finishes)
      · intro accepts
        refine .joins here (by simp [finishes]) ?_
        intro after events taken
        rw [finishes] at taken
        obtain ⟨rfl, rfl⟩ := taken
        exact joined.mpr accepts
  | ended result =>
      obtain rfl : result = .completed := by
        simpa [ScrapePc.sent_of_ended at_] using sent
      obtain ⟨pc, aborted⟩ := scrape
      obtain rfl : pc = .ended .completed := at_
      exact returns_ended_iff here (by simp [taskResult?, found])
  | spawned | calling | posting | completing => simp [at_, ScrapePc.sent] at sent

/-- Outside its `select!` and the line of the bulk queue, the session returns by itself exactly
when there is a place for the response that can follow, if one can.
-/
theorem Scheduled.returns_iff (scheduled : c.Scheduled) (lined : c.Lined)
    (runs : c.session.Unsuspended) (branch : c.session ≠ .select)
    (free : ∀ response, c.session ≠ .queueing (.suspended response))
    : c.Returns context ↔ c.FindsPlace context := by
  rw [FindsPlace, lined.hasPlace_iff, MaySend]
  cases here : c.session with
  | select => exact absurd here branch
  | pinging => exact ⟨fun _ absent => absent.elim, fun _ => returns_pinging here⟩
  | reserving uid execution =>
      rw [here] at runs
      rw [returns_reserving_iff runs here]
      constructor
      · intro accepts both
        exact accepts both.2 both.1
      · intro accepts may unposted
        exact accepts ⟨unposted, may⟩
  | answering response => exact returns_answering_iff here
  | queueing call =>
      cases call with
      | encoding origin uid execution =>
          rw [here] at runs
          exact returns_encoding_iff runs here
      | sending response =>
          rw [returns_sending_iff here]
          exact ⟨fun accepts _ => accepts, fun accepts => accepts trivial⟩
      | suspended response => exact absurd here (free response)
  | joining task response =>
      rw [scheduled.returns_joining_iff here]
      cases response with
      | none => exact ⟨fun _ absent => absent.elim, fun _ _ absent => nomatch absent⟩
      | some response =>
          constructor
          · exact fun accepts => accepts response rfl
          · intro accepts kept same
            obtain rfl := Option.some.inj same
            exact accepts
  | exited | cancelling | droppingBulk | droppingBusy | farewelling | droppingControl | flushing
  | abortingWriter | awaitingWriter | droppingSelf | abortingActor | awaitingActor
  | returned => exact ⟨fun _ absent => absent.elim, fun _ => .back (.inr (by rw [here]; rfl))⟩

/-- A ready branch has a step. -/
theorem taken_of_ready (here : c.session = .select) {event : SessionAction}
    (ready : c.Ready event)
    : (c.sessionStep context event).isSome = true := by
  cases event with
  | shutdown | read => simp [sessionStep, here]
  | heartbeat timedOut => cases timedOut <;> simp [sessionStep, here]
  | completion =>
      obtain ⟨active, queued⟩ := ready
      obtain ⟨task, active⟩ := Option.isSome_iff_exists.mp active
      obtain ⟨⟨sender, response⟩, rest, queued⟩ := List.exists_cons_of_ne_nil queued
      simp [sessionStep, here, handleCompletion, active, queued]
  | writerEnded =>
      cases ended : c.wire.writer with
      | ended result => simp [sessionStep, here, ended]
      | _ => simp [Ready, WriterPc.hasEnded, ended] at ready
  | reply | proceed | flushTimeout => exact ready.elim

/-- With a place for what can follow, the session returns from every event. -/
theorem Scheduled.returns_of_select (scheduled : c.Scheduled) (lined : c.Lined)
    (here : c.session = .select) (place : c.FindsPlace context) {event : SessionAction}
    {after : Connection} {events : List Event}
    (taken : c.sessionStep context event = some (after, events))
    : after.Returns context := by
  rw [FindsPlace, lined.hasPlace_iff, MaySend, here] at place
  have later := scheduled.sessionStep taken
  cases stepped_of_sessionStep taken with
  | busy _ active =>
      refine (returns_reserving_iff (unsuspended_busy _) rfl).mpr ?_
      intro _ unposted
      exact place (.inl ⟨active, unposted⟩)
  | received _ active queued =>
      refine (later.returns_joining_iff rfl).mpr ?_
      intro kept same encodable
      rw [same] at queued
      exact place (.inr ⟨_, kept, _, queued, encodable⟩)
  | offered _ goal =>
      rcases goal with rfl | rfl
      · exact .back (.inl rfl)
      · exact returns_pinging rfl
  | idle | spawned => exact .back (.inl here)
  | readied => exact .back (.inl rfl)
  | left | channelClosed | writerEnded => exact .back (.inr rfl)
  | reserving away | encoding away | refused away | reserved away | posted away | answered away
  | queueing away | queued away | closed away | joinedEmpty away | joined away | joinFailed away
  | aborted away | leftIdle away | leftTask away | droppedBulk away | droppedBusy away
  | farewell away | noFarewell away | flushing away | notQueued away | flushTimeout away
  | abortedWriter away | droppedSelf away | abortedActor away | returned away =>
      rw [here] at away
      cases away
  | writerJoined away => rcases away with away | away <;> rw [here] at away <;> cases away

/-- Without one, it does not return from the next request, or from the completion. -/
theorem Scheduled.findsPlace_of_select (scheduled : c.Scheduled) (lined : c.Lined)
    (here : c.session = .select)
    (handles
      : ∀ event,
          c.Ready event
          → ∃ after events,
              c.sessionStep context event = some (after, events) ∧ after.Returns context)
    : c.FindsPlace context := by
  rw [FindsPlace, lined.hasPlace_iff, MaySend, here]
  rintro (⟨active, unposted⟩ | ⟨task, response, rest, queued, encodable⟩)
  · obtain ⟨after, events, taken, returns⟩ := handles (.read (requestFrame secondUid)) trivial
    have valid : (IncomingMessage.request secondUid absentResource).validate = .ok () := rfl
    simp only [Connection.sessionStep, here, requestFrame, handleFrame, handleText, valid,
      handleMessage, active, if_true, Option.some.injEq, Prod.mk.injEq] at taken
    obtain ⟨rfl, -⟩ := taken
    have answers := (returns_reserving_iff (unsuspended_busy _) rfl).mp returns
    have short : secondUid.len ≤ maxUidSize := by decide
    exact answers (mayReturn_tryNew short) unposted
  · have active : c.activeTask.isSome = true := by
      have slot := scheduled.slot (by rw [here]; rfl)
      unfold CompletionSlot at slot
      split at slot
      · rw [slot] at queued
        cases queued
      · next same => simp [same]
    obtain ⟨after, events, taken, returns⟩ := handles .completion ⟨active, by simp [queued]⟩
    have next := scheduled.sessionStep taken
    obtain ⟨owner, active⟩ := Option.isSome_iff_exists.mp active
    simp only [Connection.sessionStep, here, handleCompletion, active, queued,
      Option.some.injEq, Prod.mk.injEq] at taken
    obtain ⟨rfl, -⟩ := taken
    exact (next.returns_joining_iff rfl).mp returns response rfl encodable

/-- A session that does not wait in line reads freely exactly when it finds a place. -/
theorem readsFreely_of_unsuspended (scheduled : c.Scheduled) (lined : c.Lined)
    (runs : c.session.Unsuspended)
    (free : ∀ response, c.session ≠ .queueing (.suspended response))
    : c.ReadsFreely context ↔ c.FindsPlace context := by
  by_cases here : c.session = .select
  · constructor
    · exact fun reads => scheduled.findsPlace_of_select lined here (reads.handles here)
    · intro place
      refine { unsuspended := free, returns := .back (.inl here), handles := ?_ }
      intro _ event ready
      obtain ⟨⟨after, events⟩, taken⟩ := Option.isSome_iff_exists.mp (taken_of_ready here ready)
      exact ⟨after, events, taken, scheduled.returns_of_select lined here place taken⟩
  · have returns : c.Returns context ↔ c.FindsPlace context :=
      scheduled.returns_iff lined runs here free
    constructor
    · exact fun reads => returns.mp reads.returns
    · intro place
      exact {
        unsuspended := free, returns := returns.mpr place
        handles := fun same => absurd same here
      }

/-- A poll of `bulk.send` is the only way into the line of the bulk queue. -/
theorem unsuspended_of_step {next : Connection} {action : SessionAction} {events : List Event}
    (lined : c.Lined) (free : ∀ response, c.session ≠ .queueing (.suspended response))
    (place : c.FindsPlace context) (taken : c.sessionStep context action = some (next, events))
    : ∀ response, next.session ≠ .queueing (.suspended response) := by
  cases stepped_of_sessionStep taken with
  | idle | spawned => exact free
  | encoding here answered =>
      rintro response ⟨⟩
      have idle := (Queueing.line_of_reply answered .session).2
      cases idle
  | queueing here proceeded =>
      cases Queueing.proceeded_of_proceed proceeded with
      | encoded => exact fun _ absent => nomatch absent
      | joined live full =>
          rw [FindsPlace, lined.hasPlace_iff, MaySend, here] at place
          rcases place trivial with free | ended
          · omega
          · simp [live] at ended
  | offered here next =>
      rcases next with rfl | rfl <;> exact fun _ absent => nomatch absent
  | leftIdle | leftTask =>
      unfold leaveTasks
      split <;> exact fun _ absent => nomatch absent
  | left | channelClosed | writerEnded | readied | busy | received | reserving | refused
  | reserved | posted | answered | queued | closed | joinedEmpty | joined | joinFailed
  | aborted | droppedBulk | droppedBusy | farewell | noFarewell | flushing | notQueued
  | writerJoined | flushTimeout | abortedWriter | droppedSelf | abortedActor | returned =>
      exact fun _ absent => nomatch absent

end Returning

-----------------------------------------------------------------------------------------
-- Reading never waits for the writer, or when it does
-----------------------------------------------------------------------------------------

/-- In every state of a run the session reads without waiting for the writer, exactly when in
every state of the run there is a place for the response that can follow.
-/
theorem readsFreely_iff {context : WorkerContext} {name : String}
    {history : List (Transition Connection ConnectionAction Event)} {c : Connection}
    (run : (connectionMachine context).Run (new context name) history c)
    : (∀ visited ∈ Machine.statesOf (new context name) history, visited.FindsPlace context)
      ↔ ∀ visited ∈ Machine.statesOf (new context name) history,
          visited.ReadsFreely context := by
  have pointwise {visited : Connection}
      (listed : visited ∈ Machine.statesOf (new context name) history)
      (free : ∀ response, visited.session ≠ .queueing (.suspended response))
      : visited.ReadsFreely context ↔ visited.FindsPlace context := by
    obtain ⟨earlier, rest, -, reached⟩ := run.state_mem listed
    exact readsFreely_of_unsuspended (scheduled_of_run reached) (lined_of_run reached)
      (unsuspended_of_run reached) free
  constructor
  · intro places visited listed
    refine (pointwise listed ?_).mpr (places visited listed)
    refine run.visited (fun transition => transition.before.FindsPlace context) ?_
      (fun c => ∀ response, c.session ≠ .queueing (.suspended response)) ?_ ?_ visited listed
    · exact fun transition member => places _ (run.before_mem member)
    · exact fun _ absent => nomatch absent
    · intro earlier before action after events reached free taken place
      by_cases own : ∃ step, action = .session step
      · obtain ⟨step, rfl⟩ := own
        exact unsuspended_of_step (lined_of_run reached) free place taken
      · rw [session_of_step taken fun step same => own ⟨step, same⟩]
        exact free
  · intro reads visited listed
    have here := reads visited listed
    exact (pointwise listed here.unsuspended).mp here

/-- A scrape is under way and its worker refuses another request: the busy answer is made,
and put on the bulk queue if it finds a place.
-/
def rejectedRequest : List ConnectionAction :=
  [.session (.read (requestFrame secondUid)), .session (.reply .granted), .session .proceed,
    .session .proceed, .session (.reply .granted), .session (.reply (.capacity 57)),
    .session (.reply .done), .session .proceed, .session .proceed]

/-- So many requests come in while the writer sends the register message. -/
def rejectedRequests (count : Nat) : List ConnectionAction :=
  [.writer .pollControl, .session (.read (requestFrame firstUid))]
    ++ (List.replicate count rejectedRequest).flatten

/-- While seven busy answers are made, each state has a place for another one. -/
theorem readsFreely_iff_seven
    : ∃ history c,
        Connection.exec (.bare 1) (rejectedRequests 7) = some (history, c)
        ∧ c.wire.bulk.length = 7
        ∧ ∀ visited ∈ Machine.statesOf (new (.bare 1) "instance") history,
            visited.ReadsFreely (.bare 1) := by
  have passed
      : (Connection.exec (.bare 1) (rejectedRequests 7)).any (fun (history, c) =>
          c.wire.bulk.length == 7
            && (Machine.statesOf (new (.bare 1) "instance") history).all fun visited =>
                decide (visited.wire.bulk.length + visited.suspended.length < bulkQueueCapacity))
        = true := by
    decide +kernel
  obtain ⟨history, c, executed, checked⟩ := Machine.exec_checked passed
  simp only [Bool.and_eq_true, beq_iff_eq, List.all_eq_true, decide_eq_true_eq] at checked
  obtain ⟨queued, places⟩ := checked
  refine ⟨history, c, executed, queued, (readsFreely_iff (Machine.exec_run executed)).mp ?_⟩
  exact fun visited listed _ => .inl (places visited listed)

/-- A session whose line is its own is suspended. -/
theorem suspended_of_line {session : SessionPc} (line : session.line = [.session])
    : ∃ response, session = .queueing (.suspended response) := by
  cases session with
  | queueing call =>
      cases call with
      | suspended response => exact ⟨response, rfl⟩
      | encoding | sending => cases line
  | select | pinging | reserving | answering | joining | exited | cancelling | droppingBulk
  | droppingBusy | farewelling | droppingControl | flushing | abortingWriter | awaitingWriter
  | droppingSelf | abortingActor | awaitingActor | returned => cases line

/-- The ninth busy answer suspends the session while the writer is inside its send: no frame,
tick, completion or shutdown is handled any more, until the writer accepts a response.
-/
theorem not_readsFreely_nine
    : ∃ history c,
        Connection.exec (.bare 1) (rejectedRequests 9) = some (history, c)
        ∧ ¬ c.ReadsFreely (.bare 1)
        ∧ c.wire.writer = .sendingControl (register (.bare 1) "instance")
        ∧ ∀ step, c.sessionStep (.bare 1) step = none := by
  have passed
      : (Connection.exec (.bare 1) (rejectedRequests 9)).any (fun (_, c) =>
          c.session.line == [.session] && c.wire.slots.waiting == [.session]
            && match c.wire.writer with
              | .sendingControl message => message == register (.bare 1) "instance"
              | _ => false)
        = true := by
    decide +kernel
  obtain ⟨history, c, executed, checked⟩ := Machine.exec_checked passed
  simp only [Bool.and_eq_true, beq_iff_eq] at checked
  obtain ⟨⟨line, waiting⟩, sending⟩ := checked
  obtain ⟨response, here⟩ := suspended_of_line line
  have writer : c.wire.writer = .sendingControl (register (.bare 1) "instance") := by
    split at sending
    · next message inside => rw [inside, beq_iff_eq.mp sending]
    · cases sending
  have live : c.wire.writer.hasEnded = false := by rw [writer]; rfl
  exact ⟨history, c, executed, fun reads => reads.unsuspended response here, writer,
    stays_of_waiting here live (by simp [waiting])⟩

end Connection

end ProxyClient
