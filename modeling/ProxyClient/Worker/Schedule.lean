import ProxyClient.Foundations.Position
import ProxyClient.Worker.SessionSteps

/-! One scrape at a time.
The session's `active_task`, the scrape task itself and the completion channel change at
different times; this module relates the three in every state of a connection.
-/

namespace ProxyClient

open Foundations

namespace ScrapePc

/-- The task has sent its completion. -/
def sent : ScrapePc → Bool
  | .returning | .ended .completed => true
  | .spawned .. | .calling .. | .posting _ | .completing _ | .ended .panicked
  | .ended .cancelled => false

theorem sent_of_ended {pc : ScrapePc} {result : TaskResult} (here : pc = .ended result)
    : pc.sent = decide (result = .completed) := by
  subst here
  cases result <;> rfl

/-- A task that moves is live, and sends its completion into an empty channel or keeps it. -/
theorem Stepped.phases {context : WorkerContext} {task : Nat} {aborted : Bool}
    {completions next : Completions} {pc pc' : ScrapePc} {action : ScrapeAction}
    {events : List Event}
    (stepped : Stepped context task aborted completions pc action pc' next events)
    : pc.hasEnded = false
      ∧ ((pc'.sent = pc.sent ∧ next = completions)
        ∨ (completions.received = false ∧ next = completions)
        ∨ (completions.received = true ∧ completions.queue = []
          ∧ pc.sent = false ∧ pc'.sent = true
          ∧ ∃ response, next = { completions with queue := [(task, response)] })) := by
  cases stepped with
  | start | callReplied | postReplied | refused | posting | called | delivered | finished =>
      exact ⟨rfl, .inl ⟨rfl, rfl⟩⟩
  | sent received empty => exact ⟨rfl, .inr (.inr ⟨received, empty, rfl, rfl, _, rfl⟩)⟩
  | lost gone => exact ⟨rfl, .inr (.inl ⟨gone, rfl⟩)⟩
  | panicked before => cases pc <;> first | exact ⟨rfl, .inl ⟨rfl, rfl⟩⟩ | cases before
  | cancelled abort awaits => cases pc <;> first | exact ⟨rfl, .inl ⟨rfl, rfl⟩⟩ | cases awaits

end ScrapePc

/-- The scrape task that the session awaits. -/
def SessionPc.awaited : SessionPc → Option Nat
  | .joining task _ | .cancelling task _ => some task
  | .select | .pinging | .reserving .. | .answering _ | .queueing _ | .exited _
  | .droppingBulk _ | .droppingBusy _ | .farewelling _ | .droppingControl .. | .flushing _
  | .abortingWriter _ | .awaitingWriter _ | .droppingSelf _ | .abortingActor _
  | .awaitingActor _ | .returned _ => none

/-- `finish` has taken the active task. -/
def SessionPc.finishing : SessionPc → Bool
  | .exited _ => false
  | session => !session.running

namespace Connection

/-- The scrape task that is active or awaited. -/
def owner (c : Connection) : Option Nat := c.session.awaited.or c.activeTask

/-- The completion channel holds the completion of the active task, once that is sent, and
nothing else.
-/
def CompletionSlot (c : Connection) : Prop :=
  match c.activeTask with
  | none => c.completions = []
  | some task =>
      ∃ scrape,
        c.tasks[task]? = some scrape
        ∧ (scrape.pc.sent = false ∧ c.completions = []
          ∨ scrape.pc.sent = true ∧ ∃ response, c.completions = [(task, response)])

/-- How `active_task`, the scrape tasks and the completion channel fit together. -/
structure Scheduled (c : Connection) : Prop where
  alone
    : ∀ task scrape,
        c.tasks[task]? = some scrape → scrape.pc.hasEnded = false → c.owner = some task
  slot : c.session.running = true → c.CompletionSlot
  joining
    : ∀ task,
        c.session.running = true
        → c.session.awaited = some task
        → c.activeTask = none ∧ ∃ scrape, c.tasks[task]? = some scrape ∧ scrape.pc.sent = true
  gone : c.session.running = false → c.completions = []
  taken : c.session.finishing = true → c.activeTask = none

theorem scheduled_new {context : WorkerContext} {name : String}
    : (new context name).Scheduled where
  alone task scrape found := by simp [new] at found
  slot _ := rfl
  joining _ _ absent := by cases absent
  gone absent := by cases absent
  taken absent := by cases absent

/-- The session goes on with `run` and leaves the scrape to itself. -/
theorem Scheduled.inside {c next : Connection} (scheduled : c.Scheduled)
    (before : c.session.running = true) (unjoined : c.session.awaited = none)
    (after : next.session.running = true) (unjoining : next.session.awaited = none)
    (tasks : next.tasks = c.tasks) (active : next.activeTask = c.activeTask)
    (completions : next.completions = c.completions)
    : next.Scheduled where
  alone task scrape found live := by
    have owned := scheduled.alone task scrape (tasks ▸ found) live
    rwa [owner, unjoining, active, ← unjoined]
  slot _ := by
    have slot := scheduled.slot before
    simp only [CompletionSlot, tasks, active, completions] at slot ⊢
    exact slot
  joining _ _ absent := by simp [unjoining] at absent
  gone absent := by simp [after] at absent
  taken finishing := by
    have running : next.session.finishing = false := by
      cases here : next.session <;> first | rfl | simp [here, SessionPc.running] at after
    simp [running] at finishing

/-- `run` returns from a branch that awaits no task. -/
theorem Scheduled.exit {c : Connection} {ending : Ending} (scheduled : c.Scheduled)
    (unjoined : c.session.awaited = none)
    : (c.exit ending).1.Scheduled where
  alone task scrape found live := by
    have owned := scheduled.alone task scrape found live
    rwa [owner, unjoined] at owned
  slot absent := by cases absent
  joining _ absent := by cases absent
  gone _ := rfl
  taken absent := by cases absent

/-- The end of an awaited task, read off the list of tasks. -/
theorem taskResult?_eq_some {c : Connection} {task : Nat} {result : TaskResult}
    (ended : c.taskResult? task = some result)
    : ∃ scrape, c.tasks[task]? = some scrape ∧ scrape.pc = .ended result := by
  unfold taskResult? at ended
  split at ended
  · next found =>
      obtain rfl := Option.some.inj ended
      exact ⟨_, found, rfl⟩
  · cases ended

/-- Every scrape task has ended. -/
def AllEnded (c : Connection) : Prop := ∀ scrape ∈ c.tasks, scrape.pc.hasEnded = true

/-- Every task has ended when whoever owns the scrape has. -/
theorem Scheduled.allEnded_of_owner {c : Connection} (scheduled : c.Scheduled)
    (ended
      : ∀ task scrape,
          c.owner = some task → c.tasks[task]? = some scrape → scrape.pc.hasEnded = true)
    : c.AllEnded := by
  intro scrape listed
  obtain ⟨task, found⟩ := List.getElem?_of_mem listed
  cases live : scrape.pc.hasEnded with
  | true => rfl
  | false =>
      have owned := scheduled.alone task scrape found live
      simp [ended task scrape owned found] at live

/-- Once the awaited task has ended, none is live. -/
theorem Scheduled.allEnded {c : Connection} {task : Nat} {result : TaskResult}
    (scheduled : c.Scheduled) (awaited : c.session.awaited = some task)
    (ended : c.taskResult? task = some result)
    : c.AllEnded := by
  apply scheduled.allEnded_of_owner
  intro index scrape owned found
  rw [owner, awaited] at owned
  obtain rfl : task = index := Option.some.inj owned
  obtain ⟨other, same, here⟩ := taskResult?_eq_some ended
  obtain rfl := Option.some.inj (found.symm.trans same)
  rw [here]
  rfl

/-- `task.await` of the completion branch returns only when nothing is left of the scrape. -/
theorem Scheduled.joined {c : Connection} {result : TaskResult} (scheduled : c.Scheduled)
    (task : Nat) (running : c.session.running = true)
    (awaited : c.session.awaited = some task) (ended : c.taskResult? task = some result)
    : c.activeTask = none ∧ c.completions = [] ∧ c.AllEnded := by
  have idle := (scheduled.joining task running awaited).1
  have empty := scheduled.slot running
  rw [CompletionSlot, idle] at empty
  exact ⟨idle, empty, scheduled.allEnded awaited ended⟩

/-- No task is active or live, and the session awaits none. -/
theorem scheduled_idle {c : Connection} (active : c.activeTask = none)
    (completions : c.completions = [])
    (ended : c.AllEnded) (unjoined : c.session.awaited = none)
    : c.Scheduled where
  alone task scrape found live := by
    simp [ended scrape (List.mem_of_getElem? found)] at live
  slot _ := by
    simp only [CompletionSlot, active]
    exact completions
  joining _ _ absent := by simp [unjoined] at absent
  gone _ := completions
  taken _ := active

/-- While nothing is active or awaited, no task is live. -/
theorem Scheduled.allEnded_of_idle {c : Connection} (scheduled : c.Scheduled)
    (active : c.activeTask = none) (unjoined : c.session.awaited = none)
    : c.AllEnded := by
  apply scheduled.allEnded_of_owner
  intro index scrape owned
  simp [owner, unjoined, active] at owned

/-- `finish` goes on after it has taken the active task. -/
theorem Scheduled.finishing {c next : Connection} (scheduled : c.Scheduled)
    (before : c.session.finishing = true) (unjoined : c.session.awaited = none)
    (unjoining : next.session.awaited = none) (tasks : next.tasks = c.tasks)
    (active : next.activeTask = c.activeTask) (completions : next.completions = c.completions)
    : next.Scheduled := by
  have stopped : c.session.running = false := by
    cases here : c.session <;>
      first | rfl | simp [here, SessionPc.finishing, SessionPc.running] at before
  have idle := scheduled.taken before
  have ended : next.AllEnded := by
    rw [AllEnded, tasks]
    exact scheduled.allEnded_of_idle idle unjoined
  exact scheduled_idle (active.trans idle) (completions.trans (scheduled.gone stopped)) ended
    unjoining

/-- `finish` goes on behind the scrape tasks. -/
theorem scheduled_leaveTasks {c : Connection} {ending : Ending} (active : c.activeTask = none)
    (completions : c.completions = []) (ended : c.AllEnded)
    : (c.leaveTasks ending).Scheduled := by
  unfold leaveTasks
  split <;> exact scheduled_idle active completions ended rfl

/-- An abort leaves every task where it stands. -/
theorem abortTask_found {c : Connection} {task index : Nat} {scrape : ScrapeTask}
    (found : (c.abortTask task)[index]? = some scrape)
    : ∃ before, c.tasks[index]? = some before ∧ before.pc = scrape.pc := by
  unfold abortTask at found
  split at found
  · next aborted listed =>
      rw [List.getElem?_set] at found
      split at found
      · next same =>
          subst same
          split at found
          · obtain rfl := Option.some.inj found
            exact ⟨aborted, listed, rfl⟩
          · cases found
      · exact ⟨scrape, found, rfl⟩
  · exact ⟨scrape, found, rfl⟩

/-- Every step of the session keeps the schedule. -/
theorem Scheduled.sessionStep {context : WorkerContext} {c next : Connection}
    {action : SessionAction} {events : List Event} (scheduled : c.Scheduled)
    (taken : c.sessionStep context action = some (next, events))
    : next.Scheduled := by
  cases stepped_of_sessionStep taken with
  | idle => exact scheduled
  | left here | channelClosed here => exact scheduled.exit (by rw [here]; rfl)
  | writerEnded here =>
      exact { scheduled.exit (by rw [here]; rfl) with }
  | @offered action message session here next plain =>
      rcases here with here | here <;> rcases next with rfl | rfl <;>
        exact scheduled.inside (by rw [here]; rfl) (by rw [here]; rfl) rfl rfl rfl rfl rfl
  | readied here | busy here | reserving here | encoding here | refused here | reserved here
  | posted here | answered here | queueing here | queued here =>
      exact scheduled.inside (by rw [here]; rfl) (by rw [here]; rfl) rfl rfl rfl rfl rfl
  | @closed call wire events error here =>
      have rest : Scheduled { c with session := .select, wire } :=
        scheduled.inside (by rw [here]; rfl) (by rw [here]; rfl) rfl rfl rfl rfl rfl
      exact rest.exit rfl
  | @spawned action uid resource here idle =>
      have running : c.session.running = true := by rw [here]; rfl
      have unjoined : c.session.awaited = none := by rw [here]; rfl
      have settled := scheduled.allEnded_of_idle idle unjoined
      have empty := scheduled.slot running
      rw [CompletionSlot, idle] at empty
      refine {
        alone := ?_
        slot := fun _ => ?_
        joining := fun _ _ absent => by simp [unjoined] at absent
        gone := fun absent => by simp [running] at absent
        taken := fun absent => by simp [here, SessionPc.finishing, SessionPc.running] at absent
      }
      · intro task scrape found live
        rw [owner, unjoined]
        rcases Nat.lt_or_ge task c.tasks.length with older | new
        · rw [List.getElem?_append_left older] at found
          simp [settled scrape (List.mem_of_getElem? found)] at live
        · have last := (List.getElem?_eq_some_iff.mp found).1
          simp only [List.length_append, List.length_singleton] at last
          obtain rfl : task = c.tasks.length := by omega
          rfl
      · exact ⟨{ pc := .spawned uid resource, aborted := false }, by simp, .inl ⟨rfl, empty⟩⟩
  | @received task sender response rest here active queued =>
      have slot := scheduled.slot (by rw [here]; rfl)
      simp only [CompletionSlot, active, queued] at slot
      obtain ⟨scrape, found, state⟩ := slot
      rcases state with ⟨-, empty⟩ | ⟨sent, response', same⟩
      · cases empty
      · obtain ⟨-, rfl⟩ := List.cons.inj same
        refine {
          alone := ?_
          slot := fun _ => rfl
          joining := ?_
          gone := fun absent => by cases absent
          taken := fun absent => by cases absent
        }
        · intro index other listed live
          have owned := scheduled.alone index other listed live
          rw [owner, here] at owned
          exact active.symm.trans owned
        · rintro index - ⟨⟩
          exact ⟨rfl, scrape, found, sent⟩
  | @joinedEmpty task here ended =>
      obtain ⟨idle, empty, settled⟩ :=
        scheduled.joined task (by rw [here]; rfl) (by rw [here]; rfl) ended
      exact scheduled_idle idle empty settled rfl
  | @joined task response here ended =>
      obtain ⟨idle, empty, settled⟩ :=
        scheduled.joined task (by rw [here]; rfl) (by rw [here]; rfl) ended
      exact scheduled_idle idle empty settled rfl
  | @joinFailed task response result error here ended =>
      obtain ⟨idle, empty, settled⟩ :=
        scheduled.joined task (by rw [here]; rfl) (by rw [here]; rfl) ended
      exact scheduled_idle idle rfl settled rfl
  | @aborted ending task here active =>
      refine {
        alone := ?_
        slot := fun absent => by cases absent
        joining := fun _ absent => by cases absent
        gone := fun _ => scheduled.gone (by rw [here]; rfl)
        taken := fun _ => rfl
      }
      intro index scrape found live
      obtain ⟨before, listed, same⟩ := abortTask_found found
      have owned := scheduled.alone index before listed (same ▸ live)
      rw [owner, here] at owned
      exact active.symm.trans owned
  | leftIdle here idle =>
      have empty := scheduled.gone (by rw [here]; rfl)
      have settled := scheduled.allEnded_of_idle idle (by rw [here]; rfl)
      exact scheduled_leaveTasks idle empty settled
  | @leftTask ending task result here ended =>
      have awaited : c.session.awaited = some task := by rw [here]; rfl
      have idle := scheduled.taken (by rw [here]; rfl)
      have empty := scheduled.gone (by rw [here]; rfl)
      have settled := scheduled.allEnded awaited ended
      exact scheduled_leaveTasks idle empty settled
  | writerJoined here =>
      rcases here with here | here <;>
        exact scheduled.finishing (by rw [here]; rfl) (by rw [here]; rfl) rfl rfl rfl rfl
  | noFarewell here | flushing here | notQueued here | flushTimeout here | droppedBulk here
  | droppedBusy here | droppedSelf here | farewell here | abortedWriter here | abortedActor here
  | returned here =>
      exact scheduled.finishing (by rw [here]; rfl) (by rw [here]; rfl) rfl rfl rfl rfl

/-- A task that moves is the owner's, and one the session does not await is still active. -/
theorem Scheduled.moving {c : Connection} (scheduled : c.Scheduled) {task : Nat}
    {scrape : ScrapeTask} (found : c.tasks[task]? = some scrape)
    (live : scrape.pc.hasEnded = false) (unsent : scrape.pc.sent = false)
    (running : c.session.running = true)
    : c.activeTask = some task := by
  have owned := scheduled.alone task scrape found live
  cases awaited : c.session.awaited with
  | none => rwa [owner, awaited] at owned
  | some joined =>
      rw [owner, awaited] at owned
      obtain rfl := Option.some.inj owned
      obtain ⟨other, same, sent⟩ := (scheduled.joining joined running awaited).2
      obtain rfl := Option.some.inj (found.symm.trans same)
      simp [unsent] at sent

/-- Every step of a scrape task keeps the schedule: only the owner moves, and it sends its
completion while it is active, into an empty channel.
-/
theorem Scheduled.scrapeStep {context : WorkerContext} {c next : Connection} {task : Nat}
    {action : ScrapeAction} {events : List Event} (scheduled : c.Scheduled)
    (taken : c.step context (.scrape task action) = some (next, events))
    : next.Scheduled := by
  cases moved_of_step taken with
  | @scrape task action scrape pc completions events found stepped =>
      obtain ⟨live, phases⟩ := (ScrapePc.stepped_of_step stepped).phases
      have owned := scheduled.alone task scrape found live
      have within : task < c.tasks.length := (List.getElem?_eq_some_iff.mp found).1
      have here : (c.tasks.set task { scrape with pc })[task]? = some { scrape with pc } := by
        simp [within]
      have elsewhere {other : Nat} (different : other ≠ task)
          : (c.tasks.set task { scrape with pc })[other]? = c.tasks[other]? := by
        simp [different.symm]
      have alone
          : ∀ index other,
              (c.tasks.set task { scrape with pc })[index]? = some other
              → other.pc.hasEnded = false
              → c.owner = some index := by
        intro index other listed moving
        by_cases same : index = task
        · exact same ▸ owned
        · exact scheduled.alone index other (elsewhere same ▸ listed) moving
      rcases phases with ⟨sent, rfl⟩ | ⟨gone, rfl⟩ | ⟨received, empty, unsent, sent, response, rfl⟩
      · have kept {index : Nat} {other : ScrapeTask} (listed : c.tasks[index]? = some other)
            : ∃ after,
                (c.tasks.set task { scrape with pc })[index]? = some after
                ∧ after.pc.sent = other.pc.sent := by
          by_cases same : index = task
          · subst same
            obtain rfl := Option.some.inj (found.symm.trans listed)
            exact ⟨_, here, sent⟩
          · exact ⟨other, (elsewhere same).trans listed, rfl⟩
        refine {
          alone
          slot := fun running => ?_
          joining := fun joined running awaited => ?_
          gone := scheduled.gone
          taken := scheduled.taken
        }
        · have slot := scheduled.slot running
          cases active : c.activeTask with
          | none =>
              simp only [CompletionSlot, active] at slot ⊢
              exact slot
          | some index =>
              simp only [CompletionSlot, active] at slot ⊢
              obtain ⟨other, listed, state⟩ := slot
              obtain ⟨after, moved, same⟩ := kept listed
              exact ⟨after, moved, same ▸ state⟩
        · obtain ⟨idle, other, listed, settled⟩ := scheduled.joining joined running awaited
          obtain ⟨after, moved, same⟩ := kept listed
          exact ⟨idle, after, moved, same ▸ settled⟩
      · have stopped : c.session.running = false := gone
        exact {
          alone
          slot := fun running => by simp [stopped] at running
          joining := fun _ running => by simp [stopped] at running
          gone := scheduled.gone
          taken := scheduled.taken
        }
      · have running : c.session.running = true := received
        have active := scheduled.moving found live unsent running
        refine {
          alone
          slot := fun _ => ?_
          joining := fun joined _ awaited => ?_
          gone := fun stopped => by simp [running] at stopped
          taken := scheduled.taken
        }
        · simp only [CompletionSlot, active]
          exact ⟨_, here, .inr ⟨sent, response, rfl⟩⟩
        · have idle := (scheduled.joining joined running awaited).1
          simp [active] at idle

theorem Scheduled.step {context : WorkerContext} {c next : Connection}
    {action : ConnectionAction} {events : List Event} (scheduled : c.Scheduled)
    (taken : c.step context action = some (next, events))
    : next.Scheduled := by
  cases moved_of_step taken with
  | session taken => exact scheduled.sessionStep taken
  | scrape => exact scheduled.scrapeStep taken
  | busyActor | writer => exact { scheduled with }

theorem scheduled_of_run {context : WorkerContext} {name : String}
    {history : List (Transition Connection ConnectionAction Event)} {c : Connection}
    (run : (connectionMachine context).Run (new context name) history c)
    : c.Scheduled :=
  run.invariant Scheduled scheduled_new Scheduled.step

end Connection

end ProxyClient
