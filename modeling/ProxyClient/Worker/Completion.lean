import ProxyClient.Worker.Schedule
import ProxyClient.Worker.Serving

/-! A finished scrape frees the worker, unless its task panics.
`run` waits for the active task's completion on a channel of which it holds a sender itself,
so the channel is never seen closed: a task that panics before its send leaves the session
with an active task that is dead.
-/

namespace ProxyClient

open Foundations

/-- Only a panic or an abort ends a task before it has sent its completion. -/
theorem ScrapePc.Stepped.completes {context : WorkerContext} {task : Nat} {aborted : Bool}
    {completions next : Completions} {pc pc' : ScrapePc} {action : ScrapeAction}
    {events : List Event} {result : TaskResult}
    (stepped : Stepped context task aborted completions pc action pc' next events)
    (ended : pc' = .ended result) (calm : action ≠ .panic) (unaborted : aborted = false)
    : result = .completed := by
  cases stepped with
  | finished =>
      cases ended
      rfl
  | panicked => exact absurd rfl calm
  | cancelled abort => simp [unaborted] at abort
  | start | callReplied | postReplied | refused | posting | called | delivered | sent | lost =>
      cases ended

namespace Connection

/-- A step at which no scrape task panics before its send while `Session::run` runs. A scrape
task panics nowhere else.
-/
def NoScrapePanic (transition : Transition Connection ConnectionAction Event) : Prop :=
  transition.before.session.running = true
  → ∀ task, transition.action ≠ .scrape task .panic

/-- The active task's end reaches the session: when the task has ended, its completion is
queued or the channel is closed, so that the completion branch of the `select!` is enabled,
and it clears the active task or ends `run`.
-/
def FreesWorker (context : WorkerContext) (c : Connection) : Prop :=
  ∀ task result,
    c.session.running = true
    → c.activeTask = some task
    → c.taskResult? task = some result
    → (c.completions ≠ [] ∨ c.completionSenders = 0)
      ∧ (c.session = .select
        → ∃ next events,
            c.sessionStep context .completion = some (next, events)
            ∧ (next.activeTask = none ∨ next.session.running = false))

/-- While `run` runs, every scrape task that has ended has sent its completion. -/
def EndsCompleted (c : Connection) : Prop :=
  c.session.running = true
  → ∀ scrape ∈ c.tasks, ∀ result, scrape.pc = .ended result → result = .completed

/-- Where a step leaves the scrape tasks. -/
theorem tasks_of_step {context : WorkerContext} {c next : Connection}
    {action : ConnectionAction} {events : List Event}
    (taken : c.step context action = some (next, events)) (running : next.session.running = true)
    {scrape : ScrapeTask} (listed : scrape ∈ next.tasks)
    : scrape ∈ c.tasks
      ∨ (∃ uid resource, scrape.pc = .spawned uid resource)
      ∨ ∃ task before step completions,
          action = .scrape task step
          ∧ before ∈ c.tasks
          ∧ ScrapePc.Stepped context task before.aborted c.channel before.pc step scrape.pc
              completions events := by
  cases moved_of_step taken with
  | session taken =>
      cases stepped_of_sessionStep taken with
      | spawned =>
          rcases List.mem_append.mp listed with older | new
          · exact .inl older
          · exact .inr (.inl ⟨_, _, congrArg ScrapeTask.pc (List.mem_singleton.mp new)⟩)
      | aborted => cases running
      | leftIdle | leftTask =>
          unfold leaveTasks at running
          split at running <;> cases running
      | idle | left | channelClosed | writerEnded | offered | readied | busy | received
      | reserving | encoding | refused | reserved | posted | answered | queueing | queued
      | closed | joinedEmpty | joined | joinFailed | droppedBulk | droppedBusy | farewell
      | noFarewell | flushing | notQueued | writerJoined | flushTimeout | abortedWriter
      | droppedSelf | abortedActor | returned => exact .inl listed
  | @scrape task step before pc completions events found stepped =>
      rcases List.mem_or_eq_of_mem_set listed with older | rfl
      · exact .inl older
      · exact .inr (.inr ⟨task, before, step, completions, rfl, List.mem_of_getElem? found,
          ScrapePc.stepped_of_step stepped⟩)
  | busyActor | writer =>
      exact .inl listed

/-- A step without a panic keeps every ended task a completed one. -/
theorem EndsCompleted.step {context : WorkerContext} {c next : Connection}
    {action : ConnectionAction} {events : List Event} (ends : c.EndsCompleted) (kept : c.Kept)
    (taken : c.step context action = some (next, events))
    (calm : NoScrapePanic ⟨c, action, events, next⟩)
    : next.EndsCompleted := by
  intro running scrape listed result ended
  have before := running_of_step taken running
  rcases tasks_of_step taken running listed
    with older | ⟨uid, resource, new⟩ | ⟨task, moved, step, completions, rfl, found, stepped⟩
  · exact ends before scrape older result ended
  · cases new.symm.trans ended
  · refine stepped.completes ended ?_ ((kept.serving before).tasks moved found)
    exact fun panics => calm before task (panics ▸ rfl)

/-- A connection whose ended tasks have completed frees the worker: the completion of an
ended active task is in its channel.
-/
theorem Scheduled.freesWorker {context : WorkerContext} {c : Connection}
    (scheduled : c.Scheduled) (ends : c.EndsCompleted)
    : c.FreesWorker context := by
  intro task result running active ended
  obtain ⟨scrape, found, here⟩ := taskResult?_eq_some ended
  obtain rfl := ends running scrape (List.mem_of_getElem? found) result here
  have slot := scheduled.slot running
  simp only [CompletionSlot, active] at slot
  obtain ⟨other, same, state⟩ := slot
  obtain rfl := Option.some.inj (found.symm.trans same)
  have sent : scrape.pc.sent = true := by rw [here]; rfl
  rcases state with ⟨unsent, -⟩ | ⟨-, response, queued⟩
  · simp [sent] at unsent
  · refine ⟨.inl (by simp [queued]), fun select => ?_⟩
    have taken
        : c.sessionStep context .completion
          = some ({ c with session := .joining task response, activeTask := none,
                           completions := [] }, []) := by
      simp only [Connection.sessionStep, select, handleCompletion, active, queued]
    exact ⟨_, _, taken, .inl rfl⟩

/-- A panic of the active task strands the session: the completion channel is empty, and open
because `run` holds a sender of it.
-/
theorem Scheduled.stranded {context : WorkerContext} {c next : Connection} {task : Nat}
    {events : List Event} (scheduled : c.Scheduled) (running : c.session.running = true)
    (taken : c.step context (.scrape task .panic) = some (next, events))
    : ¬ next.FreesWorker context := by
  cases moved_of_step taken with
  | @scrape task action scrape pc completions events found stepped =>
      simp only [ScrapePc.step] at stepped
      split at stepped
      · next before =>
          obtain ⟨rfl, rfl, rfl⟩ := stepped
          have live : scrape.pc.hasEnded = false := by
            cases here : scrape.pc <;> first | rfl | simp [here, ScrapePc.beforeSend] at before
          have unsent : scrape.pc.sent = false := by
            cases here : scrape.pc <;> first | rfl | simp [here, ScrapePc.beforeSend] at before
          have active := scheduled.moving found live unsent running
          have slot := scheduled.slot running
          simp only [CompletionSlot, active] at slot
          obtain ⟨other, same, state⟩ := slot
          obtain rfl := Option.some.inj (found.symm.trans same)
          have empty : c.completions = [] := by
            rcases state with ⟨-, empty⟩ | ⟨sent, -⟩
            · exact empty
            · simp [unsent] at sent
          intro frees
          have within : task < c.tasks.length := (List.getElem?_eq_some_iff.mp found).1
          have dead
              : taskResult?
                  { c with
                    tasks := c.tasks.set task { scrape with pc := .ended .panicked },
                    completions := c.channel.queue } task
                = some .panicked := by
            simp [taskResult?, within]
          rcases (frees task .panicked running active dead).1 with queued | closed
          · exact queued empty
          · simp [completionSenders, running] at closed
      · cases stepped

/-- A finished scrape frees the worker, in every state of a run, exactly when no scrape task
panics before its send while `Session::run` runs.
-/
theorem freesWorker_iff {context : WorkerContext} {name : String}
    {history : List (Transition Connection ConnectionAction Event)} {c : Connection}
    (run : (connectionMachine context).Run (new context name) history c)
    : (∀ transition ∈ history, NoScrapePanic transition)
      ↔ ∀ visited ∈ Machine.statesOf (new context name) history,
          visited.FreesWorker context := by
  constructor
  · intro calm visited listed
    have ends : visited.EndsCompleted := by
      refine run.visited NoScrapePanic calm EndsCompleted ?_ ?_ visited listed
      · exact fun _ scrape absent => absurd absent List.not_mem_nil
      · exact fun run ends taken calm => ends.step (kept_of_run run) taken calm
    obtain ⟨earlier, rest, -, reached⟩ := run.state_mem listed
    exact (scheduled_of_run reached).freesWorker ends
  · rintro frees transition listed running task panics
    obtain ⟨earlier, rest, split, reached, taken⟩ := run.transition_mem listed
    have visited : transition.after ∈ Machine.statesOf (new context name) history :=
      List.mem_cons_of_mem _ (List.mem_map_of_mem listed)
    rw [panics] at taken
    exact (scheduled_of_run reached).stranded running taken (frees _ visited)

/-- A scrape of an absent resource, up to the end of its task. -/
def finishedScrape : List ConnectionAction :=
  [.session (.read (requestFrame firstUid)), .scrape 0 .start,
    .scrape 0 (.reply .granted), .scrape 0 (.reply .granted), .scrape 0 (.reply .done),
    .scrape 0 .called, .scrape 0 .send, .scrape 0 .finish]

theorem freesWorker_iff_finishedScrape
    : ∃ history c,
        Connection.exec (.bare 1) finishedScrape = some (history, c)
        ∧ c.taskResult? 0 = some .completed
        ∧ ((∀ transition ∈ history, NoScrapePanic transition)
          ↔ ∀ visited ∈ Machine.statesOf (new (.bare 1) "instance") history,
              visited.FreesWorker (.bare 1)) := by
  have passed
      : (Connection.exec (.bare 1) finishedScrape).any (fun (_, c) =>
          c.taskResult? 0 == some .completed)
        = true := by
    decide
  obtain ⟨history, c, executed, checked⟩ := Machine.exec_checked passed
  exact ⟨history, c, executed, by simpa using checked,
    freesWorker_iff (Machine.exec_run executed)⟩

/-- A request comes in, and the exporter call it starts panics. -/
def panickedScrape : List ConnectionAction :=
  [.session (.read (requestFrame firstUid)), .scrape 0 .panic]

/-- The connection is stranded by the panic: its active task is dead, the completion channel
is empty and has a sender left, and the completion branch is pending.
-/
theorem not_freesWorker_panickedScrape
    : ∃ history c,
        Connection.exec (.bare 1) panickedScrape = some (history, c)
        ∧ ¬ c.FreesWorker (.bare 1)
        ∧ c.sessionStep (.bare 1) .completion = none := by
  have passed
      : (Connection.exec (.bare 1) panickedScrape).any (fun (_, c) =>
          c.session.running && c.activeTask == some 0 && c.taskResult? 0 == some .panicked
            && c.completions.isEmpty && c.completionSenders == 1
            && (c.sessionStep (.bare 1) .completion).isNone)
        = true := by
    decide
  obtain ⟨history, c, executed, checked⟩ := Machine.exec_checked passed
  simp only [Bool.and_eq_true, beq_iff_eq, List.isEmpty_iff, Option.isNone_iff_eq_none]
    at checked
  obtain ⟨⟨⟨⟨⟨running, active⟩, dead⟩, empty⟩, senders⟩, pending⟩ := checked
  refine ⟨history, c, executed, fun frees => ?_, pending⟩
  rcases (frees 0 .panicked running active dead).1 with queued | closed
  · exact queued empty
  · simp [senders] at closed

end Connection

end ProxyClient
