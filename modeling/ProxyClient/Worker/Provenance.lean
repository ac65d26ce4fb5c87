import ProxyClient.Fetching
import ProxyClient.Worker.Buffers
import ProxyClient.Worker.Carrying
import ProxyClient.Worker.OneScrape

/-! Where the responses come from that leave a connection.
The history of a run says what the session has read and what each exporter call was answered.
Every response that leaves the connection is what `call_resource` returned for one request,
after exactly the answers that the task of that request was given, or the rejection of a
request too many. Neither tasks nor requests are ever mixed up.
-/

namespace ProxyClient

open Foundations Memory

/-- The operation of `call_resource` that a reply answers. -/
def ScrapePc.answered (pc : ScrapePc) (reply : Reply) : List Step :=
  match pc with
  | .calling _ execution => execution.answered Op.read reply
  | .spawned .. | .posting _ | .completing _ | .returning | .ended _ => []

/-- The exporter call is over. -/
def ScrapePc.called : ScrapePc → Bool
  | .spawned .. | .calling .. => false
  | .posting _ | .completing _ | .returning | .ended _ => true

theorem ScrapePc.answered_of_called {pc : ScrapePc} (called : pc.called = true) (reply : Reply)
    : pc.answered reply = [] := by
  cases pc with
  | spawned | calling => cases called
  | posting | completing | returning | ended => rfl

/-- A call that is over stays over. -/
theorem ScrapePc.Stepped.staysCalled {context : WorkerContext} {task : Nat} {aborted : Bool}
    {completions next : Completions} {pc pc' : ScrapePc} {action : ScrapeAction}
    {events : List Event}
    (stepped : Stepped context task aborted completions pc action pc' next events)
    (called : pc.called = true)
    : pc'.called = true := by
  cases stepped with
  | start | callReplied | refused | posting | called => cases called
  | postReplied | delivered | sent | lost | finished | panicked | cancelled => rfl

namespace Connection

-----------------------------------------------------------------------------------------
-- What a history records
-----------------------------------------------------------------------------------------

/-- The operation of a scrape task's exporter call that a transition answers. -/
def callStep (task : Nat) (transition : Transition Connection ConnectionAction Event)
    : List Step :=
  match transition.action with
  | .scrape number (.reply reply) =>
      if number = task then
        transition.before.tasks[task]?.toList.flatMap fun scrape => scrape.pc.answered reply
      else []
  | _ => []

/-- What the exporter call of a scrape task has performed, with every answer to it. -/
def callOf (task : Nat) (history : List (Transition Connection ConnectionAction Event))
    : List Step :=
  history.flatMap (callStep task)

@[simp] theorem callOf_append (task : Nat)
    (left right : List (Transition Connection ConnectionAction Event))
    : callOf task (left ++ right) = callOf task left ++ callOf task right :=
  List.flatMap_append

@[simp] theorem callOf_singleton (task : Nat)
    (transition : Transition Connection ConnectionAction Event)
    : callOf task [transition] = callStep task transition := by
  simp [callOf]

/-- The session, without an active task, has read this valid request: scrape task `task` was
spawned for it.
-/
def Asked (history : List (Transition Connection ConnectionAction Event)) (task : Nat)
    (uid resource : RustString)
    : Prop :=
  ∃ transition ∈ history,
    transition.action = .session (.read (.text (some (.request uid resource))))
    ∧ (IncomingMessage.request uid resource).validate = .ok ()
    ∧ transition.before.activeTask = none
    ∧ transition.before.tasks.length = task

/-- The session has read a valid request with this uid while a task was active. -/
def Rejected (history : List (Transition Connection ConnectionAction Event)) (uid : RustString)
    : Prop :=
  ∃ transition ∈ history, ∃ resource,
    transition.action = .session (.read (.text (some (.request uid resource))))
    ∧ (IncomingMessage.request uid resource).validate = .ok ()
    ∧ transition.before.activeTask.isSome = true

section

variable {earlier later : List (Transition Connection ConnectionAction Event)}

theorem Asked.append {task : Nat} {uid resource : RustString}
    (asked : Asked earlier task uid resource)
    : Asked (earlier ++ later) task uid resource := by
  obtain ⟨transition, listed, reads⟩ := asked
  exact ⟨transition, List.mem_append_left _ listed, reads⟩

theorem Rejected.append {uid : RustString} (rejected : Rejected earlier uid)
    : Rejected (earlier ++ later) uid := by
  obtain ⟨transition, listed, reads⟩ := rejected
  exact ⟨transition, List.mem_append_left _ listed, reads⟩

end

/-- The answers that a history accounts for: what `call_resource` returned for the request of
a scrape task after the answers which that task was given, and the rejection of a request too
many.
-/
inductive Answers (context : WorkerContext)
    (history : List (Transition Connection ConnectionAction Event))
    : Origin → ResourceResponse → Prop
  | scrape {task uid resource response} (asked : Asked history task uid resource)
    (returned
      : (callResource context.resources uid resource.text).Returns (callOf task history)
          (some response))
    : Answers context history .scrape response.response
  | busy {uid} (rejected : Rejected history uid)
    : Answers context history .busy (.new uid 503 .new)

-----------------------------------------------------------------------------------------
-- What one step does to one scrape task
-----------------------------------------------------------------------------------------

/-- How the scrape task with number `task` came to be what it is after a step. -/
inductive TaskStep (context : WorkerContext) (c : Connection) (action : ConnectionAction)
    (events : List Event) (task : Nat) (scrape : ScrapeTask)
    : Prop
  | kept {old} (found : c.tasks[task]? = some old) (same : scrape.pc = old.pc)
    (elsewhere : ∀ step, action ≠ .scrape task step)
  | spawned {uid resource} (new : c.tasks.length = task) (here : scrape.pc = .spawned uid resource)
    (reads : action = .session (.read (.text (some (.request uid resource)))))
    (valid : (IncomingMessage.request uid resource).validate = .ok ())
    (idle : c.activeTask = none)
  | stepped {old step completions} (found : c.tasks[task]? = some old)
    (acts : action = .scrape task step)
    (stepped
      : ScrapePc.Stepped context task old.aborted c.channel old.pc step scrape.pc completions
          events)

theorem taskStep_of_sessionStep {context : WorkerContext} {c next : Connection}
    {action : SessionAction} {events : List Event} {task : Nat} {scrape : ScrapeTask}
    (taken : c.sessionStep context action = some (next, events))
    (found : next.tasks[task]? = some scrape)
    : TaskStep context c (.session action) events task scrape := by
  have kept {old : ScrapeTask} (before : c.tasks[task]? = some old) (same : scrape.pc = old.pc)
      : TaskStep context c (.session action) events task scrape :=
    .kept before same (by simp)
  cases stepped_of_sessionStep taken with
  | @spawned action uid resource here idle =>
      obtain ⟨asked, wanted, rfl, valid, handled⟩ := read_of_requested taken List.mem_cons_self
      simp only [handleMessage, idle, Option.isSome_none, Bool.false_eq_true, if_false,
        Prod.mk.injEq] at handled
      have same := List.append_cancel_left (congrArg Connection.tasks handled.1)
      simp only [List.cons.injEq, ScrapeTask.mk.injEq, ScrapePc.spawned.injEq, and_true] at same
      obtain ⟨rfl, rfl⟩ := same
      rcases Nat.lt_trichotomy task c.tasks.length with older | new | beyond
      · rw [List.getElem?_append_left older] at found
        exact kept found rfl
      · rw [List.getElem?_append_right (Nat.le_of_eq new.symm), new, Nat.sub_self] at found
        obtain rfl := Option.some.inj found
        exact .spawned new.symm rfl rfl valid idle
      · rw [List.getElem?_eq_none (by simp; omega)] at found
        cases found
  | aborted here active =>
      obtain ⟨old, before, same⟩ := abortTask_found found
      exact kept before same.symm
  | leftIdle | leftTask =>
      unfold leaveTasks at found
      split at found <;> exact kept found rfl
  | idle | left | channelClosed | writerEnded | offered | readied | busy | received
  | reserving | encoding | refused | reserved | posted | answered | queueing | queued
  | closed | joinedEmpty | joined | joinFailed | droppedBulk | droppedBusy | farewell
  | noFarewell | flushing | notQueued | writerJoined | flushTimeout | abortedWriter
  | droppedSelf | abortedActor | returned => exact kept found rfl

theorem taskStep_of_step {context : WorkerContext} {c next : Connection}
    {action : ConnectionAction} {events : List Event} {task : Nat} {scrape : ScrapeTask}
    (taken : c.step context action = some (next, events))
    (found : next.tasks[task]? = some scrape)
    : TaskStep context c action events task scrape := by
  cases moved_of_step taken with
  | session taken => exact taskStep_of_sessionStep taken found
  | @scrape number action old pc completions events before stepped =>
      rw [List.getElem?_set] at found
      split at found
      · next same =>
          subst same
          split at found
          · obtain rfl := Option.some.inj found
            exact .stepped before rfl (ScrapePc.stepped_of_step stepped)
          · cases found
      · next other =>
          refine .kept found rfl ?_
          intro step same
          exact other (ConnectionAction.scrape.inj same).1
  | busyActor | writer => exact .kept found rfl (by simp)

/-- Scrape tasks are only added. -/
theorem tasks_length_of_step {context : WorkerContext} {c next : Connection}
    {action : ConnectionAction} {events : List Event}
    (taken : c.step context action = some (next, events))
    : c.tasks.length ≤ next.tasks.length := by
  cases moved_of_step taken with
  | session taken =>
      cases stepped_of_sessionStep taken with
      | spawned => simp
      | aborted =>
          simp only [abortTask]
          split <;> simp
      | leftIdle | leftTask =>
          unfold leaveTasks
          split <;> exact Nat.le_refl _
      | idle | left | channelClosed | writerEnded | offered | readied | busy | received
      | reserving | encoding | refused | reserved | posted | answered | queueing | queued
      | closed | joinedEmpty | joined | joinFailed | droppedBulk | droppedBusy | farewell
      | noFarewell | flushing | notQueued | writerJoined | flushTimeout | abortedWriter
      | droppedSelf | abortedActor | returned => exact Nat.le_refl _
  | scrape => simp
  | busyActor | writer => exact Nat.le_refl _

/-- The exporter call of a scrape task is over. -/
def Settled (c : Connection) (task : Nat) : Prop :=
  ∃ scrape, c.tasks[task]? = some scrape ∧ scrape.pc.called = true

/-- A call that is over stays over, and no step answers anything of it. -/
theorem Settled.step {context : WorkerContext} {c next : Connection}
    {action : ConnectionAction} {events : List Event} {task : Nat} (settled : c.Settled task)
    (taken : c.step context action = some (next, events))
    : next.Settled task ∧ callStep task ⟨c, action, events, next⟩ = [] := by
  obtain ⟨old, before, called⟩ := settled
  constructor
  · have within : task < next.tasks.length :=
      Nat.lt_of_lt_of_le (List.getElem?_eq_some_iff.mp before).1 (tasks_length_of_step taken)
    refine ⟨next.tasks[task], List.getElem?_eq_getElem within, ?_⟩
    cases taskStep_of_step taken (List.getElem?_eq_getElem within) with
    | kept found same =>
        obtain rfl := Option.some.inj (before.symm.trans found)
        rw [same]
        exact called
    | spawned new =>
        rw [List.getElem?_eq_none (Nat.le_of_eq new)] at before
        cases before
    | stepped found acts stepped =>
        obtain rfl := Option.some.inj (before.symm.trans found)
        exact stepped.staysCalled called
  · unfold callStep
    split
    · split
      · simp [before, ScrapePc.answered_of_called called]
      · rfl
    · rfl

-----------------------------------------------------------------------------------------
-- The calls under way
-----------------------------------------------------------------------------------------

/-- The network operations that fetch a resource. -/
def GetsOnly (context : WorkerContext) (resource : RustString) (op : Op) : Prop :=
  op.network = true → ∃ url, op = .get url ∧ context.resources resource.text = some url

theorem performs_getsOnly {context : WorkerContext} {uid resource : RustString}
    : Performs (GetsOnly context resource) (callResource context.resources uid resource.text) := by
  refine performs_callResource ?_ ?_
  · exact fun op here network => Bool.noConfusion (here.symm.trans network)
  · exact fun url known _ => ⟨url, rfl, known⟩

/-- A scrape task has performed nothing before it is polled, and then has left of its call
what the answers recorded for it leave.
-/
def TracedBy (context : WorkerContext)
    (history : List (Transition Connection ConnectionAction Event)) (task : Nat)
    : ScrapePc → Prop
  | .spawned uid resource => Asked history task uid resource ∧ callOf task history = []
  | .calling uid execution =>
      ∃ resource,
        Asked history task uid resource
        ∧ (callResource context.resources uid resource.text).Leaves (callOf task history)
            execution.rest
        ∧ execution.Within (GetsOnly context resource)
  | .posting _ | .completing _ | .returning | .ended _ => True

/-- Every scrape task is traced, and nothing is recorded of tasks to come. -/
structure Traced (context : WorkerContext)
    (history : List (Transition Connection ConnectionAction Event)) (c : Connection)
    : Prop where
  tasks : ∀ task scrape, c.tasks[task]? = some scrape → TracedBy context history task scrape.pc
  fresh : ∀ task, c.tasks.length ≤ task → callOf task history = []

/-- A step that is not one of the task's answers records nothing of it. -/
theorem callStep_eq_nil {task : Nat} {transition : Transition Connection ConnectionAction Event}
    (unanswered : ∀ reply, transition.action ≠ .scrape task (.reply reply))
    : callStep task transition = [] := by
  unfold callStep
  split
  · next number reply acts =>
      split
      · next same => exact absurd (same ▸ acts) (unanswered reply)
      · rfl
  · rfl

/-- A step that answers nothing of the task leaves its trace as it was. -/
theorem TracedBy.kept {context : WorkerContext}
    {history : List (Transition Connection ConnectionAction Event)} {task : Nat} {pc : ScrapePc}
    {transition : Transition Connection ConnectionAction Event}
    (traced : TracedBy context history task pc) (unanswered : callStep task transition = [])
    : TracedBy context (history ++ [transition]) task pc := by
  have same : callOf task (history ++ [transition]) = callOf task history := by
    rw [callOf_append, callOf_singleton, unanswered, List.append_nil]
  cases pc with
  | spawned uid resource => exact ⟨traced.1.append, same.trans traced.2⟩
  | calling uid execution =>
      obtain ⟨resource, asked, left, within⟩ := traced
      exact ⟨resource, asked.append, same ▸ left, within⟩
  | posting | completing | returning | ended => trivial

/-- What a reply to a calling task records. -/
theorem callStep_replied {c next : Connection} {task : Nat} {uid : RustString} {flag : Bool}
    {execution : Execution (Option BudgetedResponse)} {reply : Reply} {events : List Event}
    (found : c.tasks[task]? = some ⟨.calling uid execution, flag⟩)
    : callStep task ⟨c, .scrape task (.reply reply), events, next⟩
      = execution.answered Op.read reply := by
  simp [callStep, found, ScrapePc.answered]

/-- A step of a scrape task leaves it traced. -/
theorem TracedBy.stepped {context : WorkerContext}
    {history : List (Transition Connection ConnectionAction Event)} {c next : Connection}
    {task : Nat} {before after : ScrapePc} {flag : Bool} {completions : Completions}
    {step : ScrapeAction} {events : List Event}
    (traced : TracedBy context history task before)
    (found : c.tasks[task]? = some ⟨before, flag⟩)
    (stepped
      : ScrapePc.Stepped context task flag c.channel before step after completions events)
    : TracedBy context (history ++ [⟨c, .scrape task step, events, next⟩]) task after := by
  cases stepped with
  | @start uid resource =>
      obtain ⟨asked, empty⟩ := traced
      refine ⟨resource, asked.append, ?_, performs_getsOnly.within 0⟩
      rw [callOf_append, callOf_singleton, empty, callStep_eq_nil (by simp)]
      exact .nothing
  | callReplied replied =>
      obtain ⟨resource, asked, left, within⟩ := traced
      refine ⟨resource, asked.append, ?_, within.reply replied⟩
      rw [callOf_append, callOf_singleton, callStep_replied found]
      exact Running.leaves_advance left replied
  | postReplied | refused | posting | called | delivered | sent | lost | finished | panicked
  | cancelled => trivial

theorem Traced.step {context : WorkerContext}
    {history : List (Transition Connection ConnectionAction Event)} {c next : Connection}
    {action : ConnectionAction} {events : List Event} (traced : Traced context history c)
    (taken : c.step context action = some (next, events))
    : Traced context (history ++ [⟨c, action, events, next⟩]) next where
  tasks := by
    intro task scrape found
    cases taskStep_of_step taken found with
    | kept before same elsewhere =>
        rw [same]
        exact (traced.tasks task _ before).kept
          (callStep_eq_nil fun reply => elsewhere (.reply reply))
    | spawned new here reads valid idle =>
        rw [here]
        constructor
        · exact ⟨_, List.mem_append_right _ (List.mem_singleton_self _), reads, valid, idle, new⟩
        · rw [callOf_append, callOf_singleton, traced.fresh task (Nat.le_of_eq new),
            callStep_eq_nil (by simp [reads]), List.append_nil]
    | @stepped old step completions before acts stepped =>
        subst acts
        exact (traced.tasks task old before).stepped before stepped
  fresh := by
    intro task beyond
    have new : c.tasks.length ≤ task := Nat.le_trans (tasks_length_of_step taken) beyond
    rw [callOf_append, callOf_singleton, traced.fresh task new]
    simp only [callStep, List.getElem?_eq_none new]
    split
    · split <;> rfl
    · rfl

-----------------------------------------------------------------------------------------
-- What was made so far
-----------------------------------------------------------------------------------------

/-- The answers that a history accounts for, while the calls behind them are over. -/
inductive Made (context : WorkerContext)
    (history : List (Transition Connection ConnectionAction Event)) (c : Connection)
    : Origin → ResourceResponse → Prop
  | scrape {task uid resource response} (settled : c.Settled task)
    (asked : Asked history task uid resource)
    (returned
      : (callResource context.resources uid resource.text).Returns (callOf task history)
          (some response))
    : Made context history c .scrape response.response
  | busy {uid} (rejected : Rejected history uid)
    : Made context history c .busy (.new uid 503 .new)

section Made

variable {context : WorkerContext} {c next : Connection} {action : ConnectionAction}
  {events : List Event} {history : List (Transition Connection ConnectionAction Event)}
  {origin : Origin} {response : ResourceResponse}

theorem Made.answers (made : Made context history c origin response)
    : Answers context history origin response := by
  cases made with
  | scrape settled asked returned => exact .scrape asked returned
  | busy rejected => exact .busy rejected

/-- What was made before a step was made after it. -/
theorem Made.step (made : Made context history c origin response)
    (taken : c.step context action = some (next, events))
    : Made context (history ++ [⟨c, action, events, next⟩]) next origin response := by
  cases made with
  | scrape settled asked returned =>
      obtain ⟨still, silent⟩ := settled.step taken
      refine .scrape still asked.append ?_
      rw [callOf_append, callOf_singleton, silent, List.append_nil]
      exact returned
  | busy rejected => exact .busy rejected.append

/-- What a step makes is accounted for by the history with that step. -/
theorem Traced.makes (traced : Traced context history c)
    (taken : c.step context action = some (next, events))
    : Makes (Made context (history ++ [⟨c, action, events, next⟩]) next) c action where
  rejects := by
    intro uid resource reads valid active
    exact .busy ⟨_, List.mem_append_right _ (List.mem_singleton_self _), resource, reads, valid,
      active⟩
  returns := by
    rintro task ⟨pc, flag⟩ uid execution response rfl found rfl returned
    obtain ⟨resource, asked, left, -⟩ := traced.tasks task _ found
    rw [Running.rest_of_result returned] at left
    have unanswered
        : callStep task ⟨c, .scrape task .called, events, next⟩ = [] :=
      callStep_eq_nil (by simp)
    have within : task < next.tasks.length :=
      Nat.lt_of_lt_of_le (List.getElem?_eq_some_iff.mp found).1 (tasks_length_of_step taken)
    have settled : next.Settled task := by
      refine ⟨next.tasks[task], List.getElem?_eq_getElem within, ?_⟩
      cases taskStep_of_step taken (List.getElem?_eq_getElem within) with
      | kept _ _ elsewhere => exact absurd rfl (elsewhere .called)
      | spawned new =>
          rw [List.getElem?_eq_none (Nat.le_of_eq new)] at found
          cases found
      | stepped before acts stepped =>
          obtain ⟨-, rfl⟩ := ConnectionAction.scrape.inj acts
          obtain rfl := Option.some.inj (found.symm.trans before)
          generalize next.tasks[task].pc = after at stepped ⊢
          cases stepped with
          | refused | posting | called => rfl
    refine .scrape settled asked.append ?_
    rw [callOf_append, callOf_singleton, unanswered, List.append_nil]
    exact left.returns

end Made

-----------------------------------------------------------------------------------------
-- Runs
-----------------------------------------------------------------------------------------

/-- Everything a connection carries and shows was made by the calls in its history. -/
structure Provenance (context : WorkerContext)
    (history : List (Transition Connection ConnectionAction Event)) (c : Connection)
    : Prop where
  traced : Traced context history c
  carries : c.Carries (Made context history c) context
  shown : Shows (Made context history c) (Machine.eventsOf history)

theorem provenance_of_run {context : WorkerContext} {name : String}
    {history : List (Transition Connection ConnectionAction Event)} {c : Connection}
    (run : (connectionMachine context).Run (new context name) history c)
    : Provenance context history c := by
  refine run.recorded (Provenance context) ?_ ?_
  · refine { traced := ?_, carries := carries_new, shown := shows_nil }
    exact ⟨fun _ _ absent => by simp [new] at absent, fun _ _ => rfl⟩
  · intro earlier before action after events reached provenance taken
    have grown {origin response} (made : Made context earlier before origin response) :=
      made.step taken
    obtain ⟨carries, shown⟩ :=
      (provenance.carries.mono fun _ _ => grown).step (sound_of_run reached)
        (provenance.traced.makes taken) taken
    refine { traced := provenance.traced.step taken, carries, shown := ?_ }
    rw [Machine.eventsOf_append, Machine.eventsOf_singleton]
    exact (provenance.shown.mono fun _ _ => grown).append shown

/-- The response is what the request of a scrape task is answered with: the text for an unknown
resource, the status and body that the exporter of a configured one has given to that task, or an
empty error.
-/
structure AnswersRequest (context : WorkerContext) (trace : List Step) (uid resource : RustString)
    (response : ResourceResponse)
    : Prop where
  named : response.uid = uid
  unknown : context.resources resource.text = none → AnsweredUnknown uid trace response
  configured
    : ∀ url, context.resources resource.text = some url → AnsweredConfigured uid url trace response

/-- A response to a scrape answers the request of its task. -/
theorem Answers.asked {context : WorkerContext}
    {history : List (Transition Connection ConnectionAction Event)} {response : ResourceResponse}
    (answers : Answers context history .scrape response)
    : ∃ task uid resource,
        Asked history task uid resource
        ∧ AnswersRequest context (callOf task history) uid resource response := by
  cases answers with
  | @scrape task uid resource budgeted asked returned =>
      have ended := (callResource_correct context.resources uid resource.text).ends _ _ returned
      refine ⟨task, uid, resource, asked, ?_⟩
      exact {
        named := (ended.retains budgeted rfl).1
        unknown := fun unknown => ended.unknown unknown budgeted rfl
        configured := fun url known => ended.configured url known budgeted rfl
      }

/-- What a connection does on the network and delivers, accounted for by its history: it gets
the configured URL of a resource that was asked for, it posts the form of an answer to the URL for
its uid, what `post_response` has delivered is an answer, and the writer is handed the JSON of an
answer or of its downgraded form. An answer of a scrape answers the request of its task.
-/
structure Faithful (context : WorkerContext)
    (history : List (Transition Connection ConnectionAction Event)) (c : Connection)
    : Prop where
  gets
    : ∀ url,
        .get url ∈ c.performs
        → ∃ task uid resource,
            Asked history task uid resource ∧ context.resources resource.text = some url
  posts
    : ∀ prepared,
        .post prepared ∈ c.performs
        → ∃ origin response,
            Answers context history origin response
            ∧ context.responseUrl response.uid.text = .ok prepared.url
            ∧ prepared.form.text = encodeForm response
  posted
    : ∀ origin response,
        .posted origin response ∈ Machine.eventsOf history
        → Answers context history origin response
  handed
    : ∀ encoded,
        .handed (.bulk encoded) ∈ Machine.eventsOf history
        → ∃ response,
            Answers context history encoded.origin response
            ∧ (encoded.source = response ∨ encoded.source = response.downgraded)
            ∧ encoded.json.text = responseJson encoded.source
  scraped
    : ∀ response,
        Answers context history .scrape response
        → ∃ task uid resource,
            Asked history task uid resource
            ∧ AnswersRequest context (callOf task history) uid resource response

/-- The network operations that a history accounts for. -/
inductive Accounted (context : WorkerContext)
    (history : List (Transition Connection ConnectionAction Event))
    : Op → Prop
  | gets {task uid resource url} (asked : Asked history task uid resource)
    (known : context.resources resource.text = some url)
    : Accounted context history (.get url)
  | posts {origin response prepared} (answers : Answers context history origin response)
    (form : prepared.IsFormOf context response)
    : Accounted context history (.post prepared)

section Performing

variable {context : WorkerContext} {c : Connection} {op : Op}
  {history : List (Transition Connection ConnectionAction Event)}

/-- A call of `queue_ws_response` stays inside the process. -/
theorem local_of_queueing {made : Origin → ResourceResponse → Prop} {call : Queueing}
    (carries : call.Carries made) (next : call.computes = some op)
    : op.Local := by
  cases call with
  | encoding origin uid execution =>
      obtain ⟨response, new, running, within⟩ := carries
      exact within.pending next
  | sending | suspended => cases next

theorem Post.accounted {origin : Origin} {post : Post}
    (carries : post.Carries (Made context history c) context origin)
    (next : post.execution.pending? = some op) (network : op.network = true)
    : Accounted context history op := by
  obtain ⟨prepared, rfl, form⟩ := carries.form.pending next network
  exact .posts carries.response.answers form

/-- Every network operation that a connection performs next is accounted for. -/
theorem Provenance.accounted (provenance : Provenance context history c)
    (performed : op ∈ c.performs) (network : op.network = true)
    : Accounted context history op := by
  have never (here : op.Local) : Accounted context history op :=
    Bool.noConfusion (here.symm.trans network)
  simp only [performs, List.mem_append, List.mem_flatMap, Option.mem_toList] at performed
  rcases performed with ((session | ⟨task, listed, next⟩) | actor) | ⟨post, listed, next⟩
  · have held := provenance.carries.session
    unfold SessionPc.computes at session
    split at session
    · next here =>
        rw [here] at held
        exact never (held.2.2.pending session)
    · next here =>
        rw [here] at held
        exact never (local_of_queueing held session)
    all_goals cases session
  · have held := provenance.carries.tasks task listed
    obtain ⟨index, found⟩ := List.getElem?_of_mem listed
    have traced := provenance.traced.tasks index task found
    unfold ScrapePc.computes at next
    split at next
    · next here =>
        rw [here] at traced
        obtain ⟨resource, asked, -, within⟩ := traced
        obtain ⟨url, rfl, known⟩ := within.pending next network
        exact .gets asked known
    · next here =>
        rw [here] at held
        exact Post.accounted held next network
    all_goals cases next
  · unfold BusyActorPc.computes at actor
    split at actor
    · next here => exact never (local_of_queueing (provenance.carries.side.call _ here) actor)
    all_goals cases actor
  · exact Post.accounted (provenance.carries.side.posts post listed) next network

end Performing

/-- What a connection posts next is the form of an answer. -/
theorem posts_of_run {context : WorkerContext} {name : String}
    {history : List (Transition Connection ConnectionAction Event)} {c : Connection}
    {prepared : PreparedFormRequest}
    (run : (connectionMachine context).Run (new context name) history c)
    (performed : .post prepared ∈ c.performs)
    : ∃ origin response,
        Answers context history origin response ∧ prepared.IsFormOf context response := by
  cases (provenance_of_run run).accounted performed rfl with
  | posts answers form => exact ⟨_, _, answers, form⟩

/-- What the writer was handed is the JSON text of an answer or of its downgraded form. -/
theorem handed_of_run {context : WorkerContext} {name : String}
    {history : List (Transition Connection ConnectionAction Event)} {c : Connection}
    {encoded : EncodedResponse}
    (run : (connectionMachine context).Run (new context name) history c)
    (listed : .handed (.bulk encoded) ∈ Machine.eventsOf history)
    : ∃ response,
        Answers context history encoded.origin response
        ∧ (encoded.source = response ∨ encoded.source = response.downgraded)
        ∧ encoded.json.text = responseJson encoded.source := by
  obtain ⟨response, made, source⟩ := (provenance_of_run run).shown _ listed
  have sound : encoded.Sound := (exchange_of_run run).shown _ listed
  exact ⟨response, made.answers, source, sound.encodes⟩

/-- A connection delivers the answers to what it was asked, and nothing else. -/
theorem answers_of_run {context : WorkerContext} {name : String}
    {history : List (Transition Connection ConnectionAction Event)} {c : Connection}
    (run : (connectionMachine context).Run (new context name) history c)
    : Faithful context history c where
  gets := by
    intro url performed
    cases (provenance_of_run run).accounted performed rfl with
    | gets asked known => exact ⟨_, _, _, asked, known⟩
  posts prepared performed := by
    obtain ⟨origin, response, answers, form⟩ := posts_of_run run performed
    exact ⟨origin, response, answers, form.url, form.form⟩
  posted origin response listed := by
    have made : Made context history c origin response :=
      (provenance_of_run run).shown _ listed
    exact made.answers
  handed _ listed := handed_of_run run listed
  scraped _ answers := answers.asked

/-- What the receiver of an answer sees: the uid, the status and the body. -/
def delivery (answer : Origin × ResourceResponse) : Origin × String × UInt16 × String :=
  (answer.1, answer.2.uid.text, answer.2.status, answer.2.body.text)

/-- A scrape of an absent resource, up to the delivery of its answer by a POST. -/
def postedScrape : List ConnectionAction :=
  [.session (.read (requestFrame firstUid)), .scrape 0 .start,
    .scrape 0 (.reply .granted), .scrape 0 (.reply .granted), .scrape 0 (.reply .done),
    .scrape 0 .called, .scrape 0 (.reply .granted), .scrape 0 (.reply (.capacity 32)),
    .scrape 0 (.reply (.posted (.ok 200))), .scrape 0 (.reply .done), .scrape 0 .delivered]

theorem answers_of_run_postedScrape
    : ∃ history c,
        Connection.exec (.bare 3) postedScrape = some (history, c)
        ∧ Faithful (.bare 3) history c
        ∧ ((Machine.eventsOf history).filterMap Event.answer?).map delivery
          = [(.scrape, "first", 404, "No such resource")] := by
  have passed
      : (Connection.exec (.bare 3) postedScrape).any (fun (history, _) =>
          ((Machine.eventsOf history).filterMap Event.answer?).map delivery
            == [(.scrape, "first", 404, "No such resource")])
        = true := by
    decide
  obtain ⟨history, c, executed, checked⟩ := Machine.exec_checked passed
  exact ⟨history, c, executed, answers_of_run (Machine.exec_run executed),
    by simpa using checked⟩

end Connection

end ProxyClient
