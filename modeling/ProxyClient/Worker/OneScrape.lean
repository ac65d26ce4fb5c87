import ProxyClient.Worker.Accounts
import ProxyClient.Worker.Handshake
import ProxyClient.Worker.Schedule

/-! One scrape at a time, and ready only when idle.
The active task, the scrape tasks and the completion channel never contradict each other, so
at most one scrape is live in any state of a connection.
-/

namespace ProxyClient

open Foundations

namespace Connection

/-- At most one scrape task is live, and nothing but its own completion is ever queued. -/
structure OneScrape (context : WorkerContext) (c : Connection) : Prop where
  single
    : ∀ (index other : Nat) (first second : ScrapeTask),
        c.tasks[index]? = some first
        → c.tasks[other]? = some second
        → first.pc.hasEnded = false
        → second.pc.hasEnded = false
        → index = other
  /-- Without an active task, a live one is the one that `finish` has taken to abort it, or
  the one that the completion branch awaits, which has only to return.
  -/
  idle
    : c.activeTask = none
      → c.completions = []
        ∧ ∀ (task : Nat) (scrape : ScrapeTask),
            c.tasks[task]? = some scrape
            → scrape.pc.hasEnded = false
            → (∃ ending, c.session = .cancelling task ending)
              ∨ (∃ response, c.session = .joining task response) ∧ scrape.pc = .returning
  one : c.completions.length ≤ 1
  own : ∀ completion ∈ c.completions, c.activeTask = some completion.1
  /-- The send of a completion is never suspended. -/
  sends
    : ∀ (task : Nat) (scrape : ScrapeTask) (response : Option BudgetedResponse),
        c.tasks[task]? = some scrape
        → scrape.pc = .completing response
        → (c.scrapeStep context task .send).isSome

theorem awaited_eq_some {session : SessionPc} {task : Nat} (awaited : session.awaited = some task)
    : (∃ response, session = .joining task response)
      ∨ ∃ ending, session = .cancelling task ending := by
  cases session with
  | joining other response =>
      obtain rfl := Option.some.inj awaited
      exact .inl ⟨response, rfl⟩
  | cancelling other ending =>
      obtain rfl := Option.some.inj awaited
      exact .inr ⟨ending, rfl⟩
  | select | pinging | reserving | answering | queueing | exited | droppingBulk | droppingBusy
  | farewelling | droppingControl | flushing | abortingWriter | awaitingWriter | droppingSelf
  | abortingActor | awaitingActor | returned => cases awaited

/-- The completion channel holds at most the completion of the active task. -/
theorem Scheduled.completions_cases {c : Connection} (scheduled : c.Scheduled)
    : c.completions = []
      ∨ ∃ task response,
          c.activeTask = some task
          ∧ c.completions = [(task, response)]
          ∧ ∃ scrape, c.tasks[task]? = some scrape ∧ scrape.pc.sent = true := by
  cases running : c.session.running with
  | false => exact .inl (scheduled.gone running)
  | true =>
      have slot := scheduled.slot running
      cases active : c.activeTask with
      | none =>
          simp only [CompletionSlot, active] at slot
          exact .inl slot
      | some task =>
          simp only [CompletionSlot, active] at slot
          obtain ⟨scrape, found, ⟨-, empty⟩ | ⟨sent, response, queued⟩⟩ := slot
          · exact .inl empty
          · exact .inr ⟨task, response, rfl, queued, scrape, found, sent⟩

/-- A live task that has sent its completion is about to return. -/
theorem returning_of_sent {pc : ScrapePc} (sent : pc.sent = true) (live : pc.hasEnded = false)
    : pc = .returning := by
  cases pc with
  | returning => rfl
  | ended => cases live
  | spawned | calling | posting | completing => cases sent

theorem Scheduled.oneScrape {context : WorkerContext} {c : Connection}
    (scheduled : c.Scheduled)
    : c.OneScrape context where
  single index other first second found same live moving :=
    Option.some.inj
      ((scheduled.alone index first found live).symm.trans
        (scheduled.alone other second same moving))
  idle idle := by
    constructor
    · rcases scheduled.completions_cases with empty | ⟨task, response, active, -⟩
      · exact empty
      · simp [idle] at active
    · intro task scrape found live
      have owned := scheduled.alone task scrape found live
      rw [owner, idle, Option.or_none] at owned
      rcases awaited_eq_some owned with ⟨response, here⟩ | cancelling
      · obtain ⟨-, other, same, sent⟩ := scheduled.joining task (by rw [here]; rfl) owned
        obtain rfl := Option.some.inj (found.symm.trans same)
        exact .inr ⟨⟨response, here⟩, returning_of_sent sent live⟩
      · exact .inl cancelling
  one := by
    rcases scheduled.completions_cases with empty | ⟨task, response, -, queued, -⟩
    · simp [empty]
    · simp [queued]
  own completion listed := by
    rcases scheduled.completions_cases with empty | ⟨task, response, active, queued, -⟩
    · simp [empty] at listed
    · obtain rfl := List.mem_singleton.mp (queued ▸ listed)
      exact active
  sends task scrape response found here := by
    unfold Connection.scrapeStep
    rw [found]
    cases running : c.session.running with
    | false => simp [ScrapePc.step, here, channel, running]
    | true =>
        have unsent : scrape.pc.sent = false := by rw [here]; rfl
        have active := scheduled.moving found (by rw [here]; rfl) unsent running
        have empty : c.completions = [] := by
          rcases scheduled.completions_cases
            with empty | ⟨other, sent, same, -, listed, member, placed⟩
          · exact empty
          · obtain rfl := Option.some.inj (active.symm.trans same)
            obtain rfl := Option.some.inj (found.symm.trans member)
            simp [unsent] at placed
        simp [ScrapePc.step, here, channel, running, empty]

/-- Handling a request while a scrape is active starts no exporter call, and a ready answer is
queued only when every scrape task has ended.
-/
structure HandledAlone (context : WorkerContext)
    (transition : Transition Connection ConnectionAction Event) : Prop where
  rejects
    : ∀ uid resource,
        transition.action = .session (.read (.text (some (.request uid resource))))
        → (IncomingMessage.request uid resource).validate = .ok ()
        → transition.before.activeTask.isSome = true
        → transition.events = [.requested .busy uid.text]
          ∧ transition.after.tasks = transition.before.tasks
  readies
    : ∀ message,
        .controlQueued message ∈ transition.events
        → message.isReady = true
        → context.protocol ≥ 2 ∧ transition.before.AllEnded

theorem handledAlone_of_step {context : WorkerContext} {c next : Connection}
    {action : ConnectionAction} {events : List Event} (scheduled : c.Scheduled)
    (taken : c.step context action = some (next, events))
    : HandledAlone context ⟨c, action, events, next⟩ where
  rejects := by
    rintro uid resource rfl valid busy
    simp only [Connection.step, Connection.sessionStep] at taken
    split at taken
    · simp only [handleFrame, handleText, valid, handleMessage, busy, if_true] at taken
      obtain ⟨rfl, rfl⟩ := taken
      exact ⟨rfl, rfl⟩
    · cases taken
  readies := by
    intro message listed ready
    cases handshake_of_step taken with
    | silent silent =>
        have unready : message.isReady = false := silent _ listed
        simp [unready] at ready
    | readied uid handshake here idle still shown =>
        have unjoined : c.session.awaited = none := by rw [here]; rfl
        exact ⟨handshake, scheduled.allEnded_of_idle idle unjoined⟩
    | spawned uid resource here idle tasks active shown =>
        rw [shown] at listed
        cases List.mem_singleton.mp listed
    | rejected uid here busy tasks active shown =>
        rw [shown] at listed
        cases List.mem_singleton.mp listed

end Connection

/-- The answer that an event delivers, and why it exists. -/
def Event.answer? : Event → Option (Origin × ResourceResponse)
  | .posted origin response => some (origin, response)
  | .sent (.bulk response) => some (response.origin, response.source)
  | _ => none

namespace Connection

/-- What holds of a run as to its scrapes: there is one at a time, a request too many starts
none and is answered with an empty error, and ready answers are for idle connections.
-/
structure ScrapesAlone (context : WorkerContext)
    (history : List (Transition Connection ConnectionAction Event)) (c : Connection)
    : Prop where
  alone : c.OneScrape context
  handled : ∀ transition ∈ history, HandledAlone context transition
  answered
    : ∀ event ∈ Machine.eventsOf history, ∀ response,
        event.answer? = some (.busy, response)
        → (response.status = 503 ∨ response.status = 500) ∧ response.body = .new

/-- One scrape at a time, and ready only when idle. -/
theorem scrapes_alone {context : WorkerContext} {name : String}
    {history : List (Transition Connection ConnectionAction Event)} {c : Connection}
    (run : (connectionMachine context).Run (new context name) history c)
    : ScrapesAlone context history c where
  alone := (scheduled_of_run run).oneScrape
  handled transition listed := by
    obtain ⟨earlier, rest, -, reached, taken⟩ := run.transition_mem listed
    exact handledAlone_of_step (scheduled_of_run reached) taken
  answered event listed response answer := by
    have sound := (exchange_of_run run).shown event listed
    cases event with
    | posted origin posted =>
        obtain ⟨rfl, rfl⟩ := Prod.mk.inj (Option.some.inj answer)
        exact sound rfl
    | sent frame =>
        cases frame with
        | control => cases answer
        | bulk encoded =>
            obtain ⟨busy, rfl⟩ := Prod.mk.inj (Option.some.inj answer)
            exact EncodedResponse.Sound.admitted sound busy
    | acquired | refused | released | requested | controlQueued | bulkQueued | handed
    | sendFailed | dropped | abandoned | panicked | writerReturned => cases answer

/-- A scrape is under way while another request comes in, whose rejection is sent over the
WebSocket; then the client shuts down.
-/
def rejectedScrape : List ConnectionAction :=
  let sendControl : List ConnectionAction := [.writer .pollControl, .writer .sendOk]
  [.session (.read (requestFrame firstUid)), .scrape 0 .start, .scrape 0 (.reply .granted),
    .session (.read (requestFrame secondUid)), .session (.reply .granted), .session .proceed,
    .session .proceed, .session (.reply .granted), .session (.reply (.capacity 57)),
    .session (.reply .done), .session .proceed, .session .proceed]
    ++ sendControl ++ [.writer .pollControl, .writer .pollBulk, .writer .sendOk]
    ++ [.session .shutdown, .session .proceed]

theorem scrapes_alone_rejectedScrape
    : ∃ history c,
        Connection.exec (.bare 1) rejectedScrape = some (history, c)
        ∧ ScrapesAlone (.bare 1) history c
        ∧ ∃ event ∈ Machine.eventsOf history, ∃ response,
            event.answer? = some (.busy, response) ∧ response.status = 503 := by
  have passed
      : (Connection.exec (.bare 1) rejectedScrape).any (fun (history, _) =>
          (Machine.eventsOf history).any fun event =>
            event.answer?.any fun (origin, response) =>
              origin == .busy && response.status == 503)
        = true := by
    decide
  obtain ⟨history, c, executed, checked⟩ := Machine.exec_checked passed
  simp only [Bool.and_eq_true, List.any_eq_true, Option.any_eq_true, beq_iff_eq] at checked
  obtain ⟨event, listed, ⟨origin, response⟩, answer, busy, status⟩ := checked
  obtain rfl : origin = .busy := busy
  exact ⟨history, c, executed, scrapes_alone (Machine.exec_run executed),
    event, listed, response, answer, status⟩

/-- A scrape of the exporter is under way when the client shuts down. -/
def abortedScrape : List ConnectionAction :=
  [.session (.read (requestFrame firstUid)), .scrape 0 .start,
    .scrape 0 (.reply .granted), .session .shutdown, .session .proceed]

/-- `finish` takes the active task before it aborts it: for a while no task is active and
the exporter call goes on.
-/
theorem working_without_activeTask
    : ∃ history c,
        Connection.exec (.bare 3) abortedScrape = some (history, c)
        ∧ c.activeTask = none
        ∧ ∃ scrape ∈ c.tasks, scrape.pc.working = true := by
  have passed
      : (Connection.exec (.bare 3) abortedScrape).any (fun (_, c) =>
          c.activeTask.isNone && c.tasks.any fun scrape => scrape.pc.working)
        = true := by
    decide
  obtain ⟨history, c, executed, checked⟩ := Machine.exec_checked passed
  simp only [Bool.and_eq_true, Option.isNone_iff_eq_none, List.any_eq_true] at checked
  exact ⟨history, c, executed, checked.1, checked.2⟩

end Connection

end ProxyClient
