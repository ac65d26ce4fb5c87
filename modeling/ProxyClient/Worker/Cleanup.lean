import ProxyClient.Worker.Client
import ProxyClient.Worker.Finishing
import ProxyClient.Worker.Schedule

/-! Complete clean-up on every exit.
When `run_connection` returns, its tasks have ended and nothing that belonged to the
connection is left, so the shared budget has got back every byte of it.
-/

namespace ProxyClient

open Foundations Memory

/-- The session polls the writer's `JoinHandle` here. -/
def SessionPc.pollsWriter : SessionPc → Bool
  | .select | .flushing _ | .awaitingWriter _ => true
  | .pinging | .reserving .. | .answering _ | .queueing _ | .joining .. | .exited _
  | .cancelling .. | .droppingBulk _ | .droppingBusy _ | .farewelling _ | .droppingControl ..
  | .abortingWriter _ | .droppingSelf _ | .abortingActor _ | .awaitingActor _
  | .returned _ => false

/-- `run_connection` has returned. -/
def SessionPc.hasReturned : SessionPc → Bool
  | .returned _ => true
  | .select | .pinging | .reserving .. | .answering _ | .queueing _ | .joining .. | .exited _
  | .cancelling .. | .droppingBulk _ | .droppingBusy _ | .farewelling _ | .droppingControl ..
  | .flushing _ | .abortingWriter _ | .awaitingWriter _ | .droppingSelf _ | .abortingActor _
  | .awaitingActor _ => false

/-- A scrape task that has ended holds nothing. -/
theorem ScrapePc.pieces_of_ended {pc : ScrapePc} (ended : pc.hasEnded = true)
    : pc.pieces = [] := by
  cases pc with
  | ended => rfl
  | spawned | calling | posting | completing | returning => cases ended

/-- A writer that has ended holds no response, and nothing is queued for it. -/
theorem Wire.Tidy.pieces_of_ended {wire : Wire} (tidy : wire.Tidy)
    (ended : wire.writer.hasEnded = true)
    : wire.pieces = [] := by
  have empty : wire.writer.inHand = [] := by
    cases here : wire.writer with
    | ended => rfl
    | select | bulkTurn | sendingControl | sendingClose | sendingBulk | closingSink =>
        simp [here, WriterPc.hasEnded] at ended
  simp [pieces, empty, tidy.drained ended]

/-- An actor that has ended leaves what the wire holds. -/
theorem BusySide.Idle.pieces_of_ended {side : BusySide} (idle : side.Idle)
    (ended : side.actor.hasEnded = true)
    : side.pieces = side.wire.pieces := by
  obtain ⟨posts, queue⟩ := idle ended
  have empty : side.actor.pc.pieces = [] := by
    cases here : side.actor.pc with
    | ended => rfl
    | top | queueing => simp [BusyActor.hasEnded, here] at ended
  simp [pieces, BusyActor.pieces, BusyQueue.pieces, empty, posts, queue]

namespace Connection

/-- Every task of the connection has ended, and nothing is held for it. -/
structure CleanedUp (c : Connection) : Prop where
  tasks : c.AllEnded
  writer : c.wire.writer.hasEnded = true
  actor : c.actor.hasEnded = true
  empty : c.pieces = []

/-- A connection whose tasks have ended holds nothing outside its session. -/
theorem pieces_of_ended {c : Connection} (scheduled : c.Scheduled) (finishing : c.Finishing)
    (stopped : c.session.running = false) (session : c.session.pieces = [])
    (tasks : c.AllEnded) (writer : c.wire.writer.hasEnded = true)
    (actor : c.actor.hasEnded = true)
    : c.pieces = [] := by
  have scrapes : c.tasks.flatMap (fun task => task.pc.pieces) = [] :=
    List.flatMap_eq_nil_iff.mpr fun task listed => ScrapePc.pieces_of_ended (tasks task listed)
  have completions : c.channel.pieces = [] := by
    simp [channel, Completions.pieces, scheduled.gone stopped]
  have side : c.side.pieces = [] := by
    have wire : c.side.pieces = c.side.wire.pieces := finishing.side.pieces_of_ended actor
    rw [wire]
    exact finishing.wire.pieces_of_ended writer
  simp [pieces, session, scrapes, completions, side]

section Runs

variable {context : WorkerContext} {name : String}
  {history : List (Transition Connection ConnectionAction Event)} {c : Connection}
  (run : (connectionMachine context).Run (new context name) history c)
include run

/-- Whatever made `run` return, `run_connection` returns with everything ended and dropped. -/
theorem cleanedUp_of_run (returned : c.session.hasReturned = true) : c.CleanedUp := by
  have scheduled := scheduled_of_run run
  have finishing := finishing_of_run run
  have phase := finishing.phase
  cases here : c.session with
  | returned result =>
      rw [here] at phase
      have taken := scheduled.taken (by rw [here]; rfl)
      have tasks := scheduled.allEnded_of_idle taken (by rw [here]; rfl)
      obtain ⟨-, writer, actor⟩ := phase
      have empty :=
        pieces_of_ended scheduled finishing (by rw [here]; rfl) (by rw [here]; rfl) tasks
          writer actor
      exact { tasks, writer, actor, empty }
  | select | pinging | reserving | answering | queueing | joining | exited | cancelling
  | droppingBulk | droppingBusy | farewelling | droppingControl | flushing | abortingWriter
  | awaitingWriter | droppingSelf | abortingActor | awaitingActor =>
      simp [here, SessionPc.hasReturned] at returned

/-- The writer's handle is not polled again after it has yielded its result. -/
theorem unyielded_of_polls (polls : c.session.pollsWriter = true) : c.writerYielded = false := by
  have phase := (finishing_of_run run).phase
  cases here : c.session with
  | select =>
      rw [here] at phase
      exact phase.2
  | flushing =>
      rw [here] at phase
      exact phase
  | awaitingWriter =>
      rw [here] at phase
      exact phase.1
  | pinging | reserving | answering | queueing | joining | exited | cancelling | droppingBulk
  | droppingBusy | farewelling | droppingControl | abortingWriter | droppingSelf
  | abortingActor | awaitingActor | returned =>
      simp [here, SessionPc.pollsWriter] at polls

end Runs

end Connection

namespace Client

/-- The connections that `run_connection` has not returned from. -/
def running (client : Client) : List Link :=
  client.links.filter fun link => !link.connection.session.hasReturned

/-- Every connection that has returned is cleaned up, no handle of a writer is polled after it
has yielded, and the budget holds no byte but those of the other connections.
-/
structure CleanedUp (client : Client) : Prop where
  returned
    : ∀ link ∈ client.links,
        link.connection.session.hasReturned = true → link.connection.CleanedUp
  polled
    : ∀ link ∈ client.links,
        link.connection.session.pollsWriter = true → link.connection.writerYielded = false
  used
    : client.budget.used
      = reservedBytes.total (client.running.flatMap fun link => link.connection.pieces)

/-- Links that hold nothing do not count, by induction over the links. -/
theorem pieces_filter {links : List Link} {counts : Link → Bool}
    (empty : ∀ link ∈ links, counts link = false → link.connection.pieces = [])
    : (links.filter counts).flatMap (fun link => link.connection.pieces)
      = links.flatMap fun link => link.connection.pieces := by
  induction links with
  | nil => rfl
  | cons link rest ih =>
      have later := ih fun other listed => empty other (List.mem_cons_of_mem _ listed)
      cases counted : counts link with
      | true => simp [counted, later]
      | false =>
          have first := empty link List.mem_cons_self counted
          simp [counted, first, later]

/-- Complete clean-up on every exit. -/
theorem cleanedUp {limit : Nat} {history : List (Transition Client ClientAction Event)}
    {client : Client} (run : clientMachine.Run (new limit) history client)
    : client.CleanedUp := by
  have accounted := accounted_of_run run
  have returned
      : ∀ link ∈ client.links,
          link.connection.session.hasReturned = true → link.connection.CleanedUp := by
    intro link listed left
    obtain ⟨name, history, run⟩ := accounted.reached link listed
    exact Connection.cleanedUp_of_run run left
  refine { returned, polled := ?_, used := ?_ }
  · intro link listed polls
    obtain ⟨name, history, run⟩ := accounted.reached link listed
    exact Connection.unyielded_of_polls run polls
  · rw [running, pieces_filter]
    · exact accounted.used
    · intro link listed left
      exact (returned link listed (by simpa using left)).empty

/-- A scrape is under way on a connection when the client shuts down: its task is aborted, the
`Close` is flushed, and `run_connection` returns.
-/
def shutDown (link : Nat) : List ClientAction :=
  [.session .shutdown, .session .proceed, .scrape 0 .cancelled, .session .proceed,
    .session .proceed, .session .proceed, .session .proceed, .session .proceed,
    .writer .pollControl, .writer .sendOk, .writer .pollControl, .writer .sendOk,
    .writer .sinkClosed, .session .proceed, .session .proceed, .busyActor .cancelled,
    .session .proceed].map (.step link)

/-- One of two workers that hold a response each is shut down: its bytes are back. -/
theorem cleanedUp_oneOfTwo
    : ∃ history client,
        exec 64 ([.connect (.bare 1) "first", .connect (.bare 2) "second"]
          ++ scrapeOn 0 ++ scrapeOn 1 ++ shutDown 0) = some (history, client)
        ∧ client.links.map (fun link => link.connection.session.hasReturned) = [true, false]
        ∧ client.budget.used = 21
        ∧ client.CleanedUp := by
  have passed
      : (exec 64 ([.connect (.bare 1) "first", .connect (.bare 2) "second"]
          ++ scrapeOn 0 ++ scrapeOn 1 ++ shutDown 0)).any (fun (_, client) =>
            client.links.map (fun link => link.connection.session.hasReturned) == [true, false]
              && client.budget.used == 21)
        = true := by
    decide +kernel
  obtain ⟨history, client, executed, checked⟩ := Machine.exec_checked passed
  simp only [Bool.and_eq_true, beq_iff_eq] at checked
  exact ⟨history, client, executed, checked.1, checked.2, cleanedUp (Machine.exec_run executed)⟩

end Client

end ProxyClient
