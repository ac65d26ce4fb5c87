import ProxyClient.Worker.Serving

/-! `Session::finish`, phase by phase.
What `finish` has aborted stays aborted, what has ended stays ended and holds nothing, and
the writer's `JoinHandle` yields its result once.
-/

namespace ProxyClient

open Foundations

/-- A bulk queue that is seen closed has no senders left, and one without a receiver is empty. -/
structure Wire.Tidy (wire : Wire) : Prop where
  shut : wire.bulkOpen = false → wire.bulkSenders = 0
  drained : wire.writer.hasEnded = true → wire.bulk = []

namespace Wire

theorem tidy_new (message : Message) : (new message).Tidy where
  shut absent := by cases absent
  drained absent := by cases absent

theorem Tidy.dropBulkSender {wire : Wire} (tidy : wire.Tidy) : wire.dropBulkSender.Tidy where
  shut closed := by
    have none := tidy.shut closed
    simp [Wire.dropBulkSender, none]
  drained := tidy.drained

theorem Tidy.trySend {wire : Wire} (tidy : wire.Tidy) (message : Message)
    : (wire.trySend message).1.Tidy ∧ (wire.trySend message).1.aborted = wire.aborted := by
  unfold Wire.trySend
  split <;> exact ⟨{ tidy with }, rfl⟩

theorem Tidy.step {wire next : Wire} {action : WriterAction} {events : List Event}
    (tidy : wire.Tidy) (taken : wire.step action = some (next, events))
    : next.Tidy ∧ next.aborted = wire.aborted := by
  have live := live_of_step taken
  cases stepped_of_step taken with
  | control | close | controlIdle | bulk | bulkIdle | sentControl | sentClose | sentBulk
  | failedClose =>
      exact ⟨{ shut := tidy.shut, drained := fun ended => by cases ended }, rfl⟩
  | controlClosed =>
      exact ⟨{ shut := tidy.shut, drained := fun ended => by simp [live] at ended }, rfl⟩
  | bulkClosed here empty closed =>
      exact ⟨{ shut := fun _ => closed, drained := fun ended => by cases ended }, rfl⟩
  | drained | failedControl | failedBulk | sinkClosed | panic | cancelled =>
      exact ⟨{ shut := tidy.shut, drained := fun _ => rfl }, rfl⟩

end Wire

theorem Queueing.tidy_of_proceed {who : Sender} {wire next : Wire} {call : Queueing}
    {result : QueueingResult} {events : List Event} (tidy : wire.Tidy)
    (taken : call.proceed who wire = some (result, next, events))
    : next.Tidy ∧ next.aborted = wire.aborted := by
  cases proceeded_of_proceed taken with
  | dropped | encoded | closed | joined | woken => exact ⟨{ tidy with }, rfl⟩
  | placed live | granted live =>
      exact ⟨{ tidy with drained := fun ended => by simp [live] at ended }, rfl⟩

namespace BusySide

theorem leaveLine_tidy {side : BusySide} (tidy : side.wire.Tidy)
    : side.leaveLine.Tidy ∧ side.leaveLine.aborted = side.wire.aborted := by
  unfold leaveLine
  split
  · exact ⟨{ tidy with }, rfl⟩
  · exact ⟨tidy, rfl⟩

/-- An actor that has ended holds nothing, and nothing is queued for it. -/
def Idle (side : BusySide) : Prop :=
  side.actor.hasEnded = true → side.actor.posts = [] ∧ side.busy.queue = []

theorem idle_of_live {side : BusySide} (live : side.actor.hasEnded = false) : side.Idle :=
  fun ended => absurd ended (by simp [live])

theorem idle_stop (side : BusySide) (wire : Wire) : (side.stop wire).Idle := fun _ => ⟨rfl, rfl⟩

/-- Only a live actor moves, and one that ends holds nothing any more. -/
theorem idle_of_step {context : WorkerContext} {side next : BusySide}
    {action : BusyActorAction} {events : List Event}
    (taken : side.step context action = some (next, events))
    : side.actor.hasEnded = false ∧ next.Idle := by
  cases stepped_of_step taken with
  | finished here => exact ⟨BusyActor.hasEnded_of_top here, idle_stop _ _⟩
  | received here | inputClosed here | replied here | delivered here =>
      exact ⟨BusyActor.hasEnded_of_top here, idle_of_live (BusyActor.hasEnded_of_top here)⟩
  | failed here => exact ⟨BusyActor.hasEnded_of_top here, idle_of_live rfl⟩
  | encoding here | queueing here | queued here =>
      exact ⟨BusyActor.hasEnded_of_queueing here, idle_of_live rfl⟩
  | closed here => exact ⟨BusyActor.hasEnded_of_queueing here, idle_stop _ _⟩
  | panicked live | cancelled abort live => exact ⟨live, idle_stop _ _⟩

theorem tidy_of_step {context : WorkerContext} {side next : BusySide}
    {action : BusyActorAction} {events : List Event} (tidy : side.wire.Tidy)
    (taken : side.step context action = some (next, events))
    : next.wire.Tidy ∧ next.wire.aborted = side.wire.aborted := by
  cases stepped_of_step taken with
  | finished => exact ⟨tidy.dropBulkSender, rfl⟩
  | received | inputClosed | replied | delivered | failed | encoding => exact ⟨tidy, rfl⟩
  | queueing here proceeded | queued here proceeded =>
      exact Queueing.tidy_of_proceed tidy proceeded
  | closed here proceeded =>
      obtain ⟨kept, aborted⟩ := Queueing.tidy_of_proceed tidy proceeded
      exact ⟨kept.dropBulkSender, aborted⟩
  | panicked | cancelled =>
      obtain ⟨kept, aborted⟩ := leaveLine_tidy tidy
      exact ⟨kept.dropBulkSender, aborted⟩

end BusySide

namespace Connection

-----------------------------------------------------------------------------------------
-- The phases of `finish`
-----------------------------------------------------------------------------------------

/-- The scrape task with this number has been told to stop. -/
def Aborted (c : Connection) (task : Nat) : Prop :=
  ∃ scrape : ScrapeTask, c.tasks[task]? = some scrape ∧ scrape.aborted = true

/-- What is known in each phase: until the writer is done with, its handle has yielded only
if `run` has seen it end; afterwards the writer has ended, and at last the actor as well.
-/
def Phase (c : Connection) : SessionPc → Prop
  | .select | .pinging | .reserving .. | .answering _ | .queueing _ | .joining .. =>
      c.writerDone = false ∧ c.writerYielded = false
  | .exited _ => c.writerYielded = c.writerDone
  | .cancelling task _ => c.writerYielded = c.writerDone ∧ c.Aborted task
  | .droppingBulk _ | .droppingBusy _ | .farewelling _ | .droppingControl .. | .flushing _
  | .abortingWriter _ => c.writerYielded = false
  | .awaitingWriter _ => c.writerYielded = false ∧ c.wire.aborted = true
  | .droppingSelf _ | .abortingActor _ =>
      c.writerYielded = true ∧ c.wire.writer.hasEnded = true
  | .awaitingActor _ =>
      c.writerYielded = true ∧ c.wire.writer.hasEnded = true ∧ c.actor.aborted = true
  | .returned _ =>
      c.writerYielded = true ∧ c.wire.writer.hasEnded = true ∧ c.actor.hasEnded = true

/-- What holds from `run_connection`'s set-up to its return. -/
structure Finishing (c : Connection) : Prop where
  wire : c.wire.Tidy
  side : c.side.Idle
  listed : ∀ task, c.activeTask = some task → task < c.tasks.length
  done : c.writerDone = true → c.wire.writer.hasEnded = true
  phase : c.Phase c.session

theorem finishing_new {context : WorkerContext} {name : String}
    : (new context name).Finishing where
  wire := Wire.tidy_new _
  side := BusySide.idle_of_live rfl
  listed _ absent := by cases absent
  done absent := by cases absent
  phase := ⟨rfl, rfl⟩

/-- A step of another task changes nothing that the phase of the session rests on: what has
ended or is aborted stays so.
-/
structure Lasts (c next : Connection) : Prop where
  session : next.session = c.session
  active : next.activeTask = c.activeTask
  tasks : next.tasks.length = c.tasks.length
  done : next.writerDone = c.writerDone
  yielded : next.writerYielded = c.writerYielded
  scrape : ∀ task, c.Aborted task → next.Aborted task
  aborted : next.wire.aborted = c.wire.aborted
  ended : c.wire.writer.hasEnded = true → next.wire.writer.hasEnded = true
  actorAborted : next.actor.aborted = c.actor.aborted
  actorEnded : c.actor.hasEnded = true → next.actor.hasEnded = true

theorem Finishing.lasts {c next : Connection} (finishing : c.Finishing) (lasts : c.Lasts next)
    (wire : next.wire.Tidy) (side : next.side.Idle)
    : next.Finishing where
  wire := wire
  side := side
  listed task active := lasts.tasks ▸ finishing.listed task (lasts.active ▸ active)
  done done := lasts.ended (finishing.done (lasts.done ▸ done))
  phase := by
    have phase := finishing.phase
    rw [lasts.session]
    cases here : c.session with
    | select | pinging | reserving | answering | queueing | joining | exited | droppingBulk
    | droppingBusy | farewelling | droppingControl | flushing | abortingWriter =>
        simp only [here, Phase, lasts.done, lasts.yielded] at phase ⊢
        exact phase
    | cancelling task ending =>
        simp only [here, Phase, lasts.done, lasts.yielded] at phase ⊢
        exact ⟨phase.1, lasts.scrape task phase.2⟩
    | awaitingWriter =>
        simp only [here, Phase, lasts.yielded, lasts.aborted] at phase ⊢
        exact phase
    | droppingSelf | abortingActor =>
        simp only [here, Phase, lasts.yielded] at phase ⊢
        exact ⟨phase.1, lasts.ended phase.2⟩
    | awaitingActor =>
        simp only [here, Phase, lasts.yielded, lasts.actorAborted] at phase ⊢
        exact ⟨phase.1, lasts.ended phase.2.1, phase.2.2⟩
    | returned =>
        simp only [here, Phase, lasts.yielded] at phase ⊢
        exact ⟨phase.1, lasts.ended phase.2.1, lasts.actorEnded phase.2.2⟩

/-- The writer does not start again. -/
theorem ended_of_step {context : WorkerContext} {c next : Connection}
    {action : ConnectionAction} {events : List Event}
    (taken : c.step context action = some (next, events))
    (ended : c.wire.writer.hasEnded = true)
    : next.wire.writer.hasEnded = true := by
  cases live : next.wire.writer.hasEnded with
  | true => rfl
  | false => simp [live_of_step taken live] at ended

theorem Finishing.scrapeStep {context : WorkerContext} {c next : Connection} {task : Nat}
    {action : ScrapeAction} {events : List Event} (finishing : c.Finishing)
    (taken : c.step context (.scrape task action) = some (next, events))
    : next.Finishing := by
  cases moved_of_step taken with
  | @scrape task action scrape pc completions events found stepped =>
      refine finishing.lasts ?_ finishing.wire finishing.side
      refine {
        session := rfl, active := rfl, tasks := List.length_set, done := rfl, yielded := rfl
        scrape := ?_, aborted := rfl, ended := id, actorAborted := rfl, actorEnded := id
      }
      rintro index ⟨other, listed, aborted⟩
      by_cases same : index = task
      · subst same
        obtain rfl := Option.some.inj (found.symm.trans listed)
        have within : index < c.tasks.length := (List.getElem?_eq_some_iff.mp found).1
        exact ⟨{ scrape with pc }, by simp [within], aborted⟩
      · exact ⟨other, by simpa [Ne.symm same] using listed, aborted⟩

/-- A step of the session that leaves the wire's bulk queue, the actor, the tasks and the
writer's handle alone.
-/
theorem Finishing.moves {c next : Connection} (finishing : c.Finishing)
    (wire : next.wire.Tidy) (writer : next.wire.writer = c.wire.writer)
    (actor : next.actor.hasEnded = c.actor.hasEnded) (posts : next.actor.posts = c.actor.posts)
    (queue : next.busy.queue = c.busy.queue) (tasks : next.tasks.length = c.tasks.length)
    (active : next.activeTask = c.activeTask ∨ next.activeTask = none)
    (done : next.writerDone = c.writerDone) (phase : next.Phase next.session)
    : next.Finishing where
  wire := wire
  side ended := by
    simp only [Connection.side] at ended ⊢
    rw [posts, queue]
    exact finishing.side (actor ▸ ended)
  listed task owned := by
    rw [tasks]
    rcases active with same | none
    · exact finishing.listed task (same ▸ owned)
    · simp [none] at owned
  done flag := writer ▸ finishing.done (done ▸ flag)
  phase := phase

/-- The session offers a control frame. -/
theorem Finishing.offer {c : Connection} (finishing : c.Finishing) {message : Message}
    {session : SessionPc} (phase : (c.offer message session).1.Phase session)
    : (c.offer message session).1.Finishing :=
  finishing.moves (finishing.wire.trySend message).1 (Wire.trySend_same c.wire message).2.2 rfl
    rfl rfl rfl (.inl rfl) rfl phase

/-- After the scrape task, the session drops what it holds, in the order that the writer's end
decides.
-/
theorem Finishing.leaveTasks {c : Connection} (finishing : c.Finishing) {ending : Ending}
    (agreed : c.writerYielded = c.writerDone)
    : (c.leaveTasks ending).Finishing := by
  unfold Connection.leaveTasks
  split
  · next done =>
      exact finishing.moves finishing.wire rfl rfl rfl rfl rfl (.inl rfl) rfl
        ⟨agreed.trans done, finishing.done done⟩
  · next undone =>
      exact finishing.moves finishing.wire rfl rfl rfl rfl rfl (.inl rfl) rfl
        (agreed.trans (by simpa using undone))

/-- Every step of the session leads to the next phase, by cases on what it can do. -/
theorem Finishing.sessionStep {context : WorkerContext} {c next : Connection}
    {action : SessionAction} {events : List Event} (finishing : c.Finishing)
    (taken : c.sessionStep context action = some (next, events))
    : next.Finishing := by
  have phase := finishing.phase
  cases stepped_of_sessionStep taken with
  | idle => exact finishing
  | left here | channelClosed here | joinFailed here =>
      rw [here] at phase
      exact finishing.moves finishing.wire rfl rfl rfl rfl rfl (.inl rfl) rfl
        (phase.2.trans phase.1.symm)
  | @writerEnded result error here ended =>
      exact {
        wire := finishing.wire, side := finishing.side, listed := finishing.listed
        done := fun _ => by simp only [fail, exit]; rw [ended]; rfl
        phase := rfl
      }
  | @offered action message session here next =>
      have known : c.writerDone = false ∧ c.writerYielded = false := by
        rcases here with here | here <;>
        · rw [here] at phase
          exact phase
      refine finishing.offer ?_
      rcases next with rfl | rfl <;> exact known
  | readied here | farewell here =>
      rw [here] at phase
      exact finishing.offer phase
  | spawned here idle =>
      exact {
        wire := finishing.wire, side := finishing.side
        listed := fun task owned => by
          obtain rfl := Option.some.inj owned
          simp
        done := finishing.done
        phase := by
          simp only [here] at phase ⊢
          exact phase
      }
  | busy here | reserving here | encoding here | refused here | reserved here | answered here
  | joinedEmpty here | joined here =>
      rw [here] at phase
      exact finishing.moves finishing.wire rfl rfl rfl rfl rfl (.inl rfl) rfl phase
  | received here =>
      rw [here] at phase
      exact finishing.moves finishing.wire rfl rfl rfl rfl rfl (.inr rfl) rfl phase
  | posted here http live =>
      rw [here] at phase
      exact {
        wire := finishing.wire, side := BusySide.idle_of_live live
        listed := finishing.listed, done := finishing.done, phase := phase
      }
  | queueing here proceeded | queued here proceeded =>
      rw [here] at phase
      exact finishing.moves (Queueing.tidy_of_proceed finishing.wire proceeded).1
        (Queueing.proceed_writer proceeded) rfl rfl rfl rfl (.inl rfl) rfl phase
  | closed here proceeded =>
      rw [here] at phase
      exact finishing.moves (Queueing.tidy_of_proceed finishing.wire proceeded).1
        (Queueing.proceed_writer proceeded) rfl rfl rfl rfl (.inl rfl) rfl
        (phase.2.trans phase.1.symm)
  | @aborted ending task here active =>
      rw [here] at phase
      have within := finishing.listed task active
      refine finishing.moves finishing.wire rfl rfl rfl rfl ?_ (.inr rfl) rfl ⟨phase, ?_⟩
      · unfold abortTask
        split
        · exact List.length_set
        · rfl
      · refine ⟨{ c.tasks[task] with aborted := true }, ?_, rfl⟩
        simp [abortTask, within]
  | leftIdle here =>
      rw [here] at phase
      exact finishing.leaveTasks phase
  | leftTask here =>
      rw [here] at phase
      exact finishing.leaveTasks phase.1
  | droppedBulk here =>
      rw [here] at phase
      exact finishing.moves finishing.wire.dropBulkSender rfl rfl rfl rfl rfl (.inl rfl) rfl phase
  | droppedBusy here | noFarewell here | notQueued here | flushing here =>
      rw [here] at phase
      exact finishing.moves { finishing.wire with } rfl rfl rfl rfl rfl (.inl rfl) rfl phase
  | writerJoined here ended =>
      exact finishing.moves finishing.wire rfl rfl rfl rfl rfl (.inl rfl) rfl ⟨rfl, ended⟩
  | flushTimeout here =>
      rw [here] at phase
      exact finishing.moves finishing.wire rfl rfl rfl rfl rfl (.inl rfl) rfl phase
  | abortedWriter here =>
      rw [here] at phase
      exact finishing.moves { finishing.wire with } rfl rfl rfl rfl rfl (.inl rfl) rfl
        ⟨phase, rfl⟩
  | droppedSelf here =>
      rw [here] at phase
      exact finishing.moves { finishing.wire.dropBulkSender with } rfl rfl rfl rfl rfl (.inl rfl)
        rfl phase
  | abortedActor here =>
      rw [here] at phase
      exact finishing.moves finishing.wire rfl rfl rfl rfl rfl (.inl rfl) rfl
        ⟨phase.1, phase.2, rfl⟩
  | returned here ended =>
      rw [here] at phase
      exact finishing.moves finishing.wire rfl rfl rfl rfl rfl (.inl rfl) rfl
        ⟨phase.1, phase.2.1, ended⟩

theorem Finishing.step {context : WorkerContext} {c next : Connection}
    {action : ConnectionAction} {events : List Event} (finishing : c.Finishing)
    (taken : c.step context action = some (next, events))
    : next.Finishing := by
  have ended := ended_of_step taken
  cases moved_of_step taken with
  | session taken => exact finishing.sessionStep taken
  | scrape => exact finishing.scrapeStep taken
  | busyActor stepped =>
      obtain ⟨live, idle⟩ := BusySide.idle_of_step stepped
      obtain ⟨tidy, aborted⟩ := BusySide.tidy_of_step finishing.wire stepped
      refine finishing.lasts ?_ tidy idle
      exact {
        session := rfl, active := rfl, tasks := rfl, done := rfl, yielded := rfl
        scrape := fun _ => id, aborted, ended
        actorAborted := (BusySide.serves_of_step stepped).aborted
        actorEnded := fun stopped => by
          have alive : c.actor.hasEnded = false := live
          simp [alive] at stopped
      }
  | writer stepped =>
      obtain ⟨tidy, aborted⟩ := finishing.wire.step stepped
      refine finishing.lasts ?_ tidy finishing.side
      exact {
        session := rfl, active := rfl, tasks := rfl, done := rfl, yielded := rfl
        scrape := fun _ => id, aborted, ended, actorAborted := rfl, actorEnded := id
      }

theorem finishing_of_run {context : WorkerContext} {name : String}
    {history : List (Transition Connection ConnectionAction Event)} {c : Connection}
    (run : (connectionMachine context).Run (new context name) history c)
    : c.Finishing :=
  run.invariant Finishing finishing_new Finishing.step

end Connection

end ProxyClient
