import ProxyClient.Worker.Exchange
import ProxyClient.Worker.SessionSteps

/-! Both ledgers of a connection balance at every step.
Everything a connection holds is sound from its start on, so no program of it ever fails an
assertion, and what its parts exchange is all that it exchanges.
-/

namespace ProxyClient

open Foundations Memory

/-- What `BudgetedResponse::try_new` leaves of a busy answer: itself, or nothing. -/
def Reserved (uid : RustString) (held : Nat)
    : Except MemoryBudgetError BudgetedResponse → Prop
  | .error _ => held = 0
  | .ok response =>
      response.response.uid = uid ∧ response.Sound .busy ∧ held = response.retained.bytes

theorem meets_busyAnswer {outside : Nat} {uid : RustString}
    : (BudgetedResponse.tryNew uid 503 .new).Meets (coverage outside) (Reserved uid) 0 := by
  refine BudgetedResponse.meets_tryNew ?_ fun _ => rfl
  intro response same exactly
  refine ⟨by rw [same]; rfl, ⟨exactly, ?_⟩, Nat.zero_add _⟩
  rw [same]
  exact fun _ => ⟨.inl rfl, rfl⟩

/-- What the session holds is sound. -/
def SessionPc.Sound : SessionPc → Prop
  | .reserving uid execution => Running.Sound (coverage 0) (Reserved uid) execution
  | .answering response => response.Sound .busy
  | .queueing call => call.Sound
  | .joining _ response => ∀ kept ∈ response, kept.Sound .scrape
  | .select | .pinging | .exited _ | .cancelling .. | .droppingBulk _ | .droppingBusy _
  | .farewelling _ | .droppingControl .. | .flushing _ | .abortingWriter _
  | .awaitingWriter _ | .droppingSelf _ | .abortingActor _ | .awaitingActor _
  | .returned _ => True

namespace Connection

/-- Everything a connection holds is sound. -/
structure Sound (c : Connection) : Prop where
  session : c.session.Sound
  tasks : ∀ task ∈ c.tasks, task.pc.Sound
  completions : c.channel.Sound
  side : c.side.Sound

theorem sound_new {context : WorkerContext} {name : String} : (new context name).Sound := by
  refine { session := trivial, tasks := ?_, completions := ?_, side := ?_ }
  · exact fun _ absent => absurd absent List.not_mem_nil
  · exact fun _ absent => absurd absent List.not_mem_nil
  · refine { call := ?_, posts := ?_, queued := ?_, wire := ?_ }
    · exact fun _ absent => nomatch absent
    all_goals exact fun _ absent => absurd absent List.not_mem_nil

/-- A step keeps a connection sound and its ledgers balanced. -/
def Keeps (c : Connection) (events : List Event) (next : Connection) : Prop :=
  next.Sound ∧ Exchange c.pieces events next.pieces

/-- A step of the busy-response actor. -/
theorem Sound.busyActorStep {context : WorkerContext} {c next : Connection}
    {action : BusyActorAction} {events : List Event} (sound : c.Sound)
    (taken : c.step context (.busyActor action) = some (next, events))
    : c.Keeps events next := by
  cases moved_of_step taken with | busyActor stepped =>
  obtain ⟨kept, exchange⟩ := sound.side.exchange stepped
  refine ⟨{ sound with side := kept }, exchange.within fun ledger => ?_⟩
  simp only [pieces, Ledger.total_append]
  exact Nat.add_right_comm _ _ _

/-- A step of the writer. -/
theorem Sound.writerStep {context : WorkerContext} {c next : Connection}
    {action : WriterAction} {events : List Event} (sound : c.Sound)
    (taken : c.step context (.writer action) = some (next, events))
    : c.Keeps events next := by
  cases moved_of_step taken with | writer stepped =>
  obtain ⟨kept, exchange⟩ := sound.side.wire.exchange stepped
  refine ⟨{ sound with side := { sound.side with wire := kept } }, ?_⟩
  refine exchange.within fun ledger => ?_
  simp only [pieces, channel, Connection.side, BusySide.pieces, Ledger.total_append]
  omega

/-- A step of a scrape task. -/
theorem Sound.scrapeStep {context : WorkerContext} {c next : Connection} {task : Nat}
    {action : ScrapeAction} {events : List Event} (sound : c.Sound)
    (taken : c.step context (.scrape task action) = some (next, events))
    : c.Keeps events next := by
  cases moved_of_step taken with
  | @scrape task action scrape pc completions events found stepped =>
      obtain ⟨front, back, opened⟩ := opened_of_getElem? found
      obtain ⟨kept, waiting, exchange⟩ :=
        ScrapePc.Sound.exchange (sound.tasks _ opened.entry_mem) sound.completions stepped
      constructor
      · refine { sound with tasks := ?_, completions := waiting }
        simp only [opened.replaced]
        exact opened.forall_replaced sound.tasks kept
      · refine exchange.within fun ledger => ?_
        simp only [pieces, opened.replaced]
        rw [opened.whole]
        simp only [channel, Connection.side, Completions.pieces, List.flatMap_append,
          List.flatMap_cons, Ledger.total_append]
        omega

-----------------------------------------------------------------------------------------
-- Steps of the session
-----------------------------------------------------------------------------------------

/-- A step that leaves the scrape tasks and their channel alone. -/
theorem Sound.keeps {c next : Connection} {events : List Event} (sound : c.Sound)
    (session : next.session.Sound) (side : next.side.Sound) (tasks : next.tasks = c.tasks)
    (completions : next.completions = c.completions)
    (exchange
      : Exchange (c.session.pieces ++ c.side.pieces) events
          (next.session.pieces ++ next.side.pieces))
    : c.Keeps events next := by
  constructor
  · refine { session, tasks := ?_, completions := ?_, side }
    · rw [tasks]
      exact sound.tasks
    · have waiting := sound.completions
      simp only [Completions.Sound, channel, completions] at waiting ⊢
      exact waiting
  · refine exchange.within fun ledger => ?_
    simp only [pieces, channel, Completions.pieces, tasks, completions, Ledger.total_append]
    omega

/-- A step that only moves the session, which held nothing and holds nothing. -/
theorem Sound.moves {c next : Connection} (sound : c.Sound) (before : c.session.pieces = [])
    (after : next.session.pieces = []) (session : next.session.Sound)
    (side : next.side.Sound) (tasks : next.tasks = c.tasks)
    (completions : next.completions = c.completions) (same : next.side.pieces = c.side.pieces)
    : c.Keeps [] next := by
  refine sound.keeps session side tasks completions ?_
  rw [before, after, same]
  exact .refl

/-- `run` returns and drops the completion channel; the session holds nothing else. -/
theorem Sound.exit {c : Connection} {ending : Ending} (sound : c.Sound)
    (empty : c.session.pieces = [])
    : c.Keeps (c.exit ending).2 (c.exit ending).1 := by
  constructor
  · exact { sound with
      session := trivial
      completions := fun _ absent => absurd absent List.not_mem_nil }
  · have gone : (c.exit ending).1.session.pieces = [] := rfl
    have dropped : (c.exit ending).1.channel.pieces = [] := rfl
    refine (Exchange.lose c.channel.pieces).within fun ledger => ?_
    simp only [pieces, empty, gone, dropped, Ledger.total_append, Ledger.total_nil]
    simp only [Connection.exit, Connection.side]
    omega

/-- After a step, `run` returns with an error. -/
theorem Keeps.fail {c next : Connection} {events : List Event} {error : BoxError}
    (keeps : c.Keeps events next) (empty : next.session.pieces = [])
    : c.Keeps (events ++ (next.fail error).2) (next.fail error).1 := by
  obtain ⟨kept, exchange⟩ : next.Keeps (next.fail error).2 (next.fail error).1 :=
    keeps.1.exit empty
  exact ⟨kept, keeps.2.trans exchange⟩

/-- The session offers a control frame; it held nothing and holds nothing. -/
theorem Sound.offer {c : Connection} {message : Message} {session : SessionPc}
    (sound : c.Sound) (before : c.session.pieces = []) (after : session.pieces = [])
    (fit : session.Sound)
    : c.Keeps (c.offer message session).2 (c.offer message session).1 := by
  obtain ⟨bulk, -, writer⟩ := Wire.trySend_same c.wire message
  refine sound.keeps fit ?_ rfl rfl ?_
  · refine { sound.side with wire := ?_ }
    simpa [Wire.Sound, Connection.offer, Connection.side, bulk, writer] using sound.side.wire
  · have same : (c.offer message session).1.side.pieces = c.side.pieces := by
      simp [Connection.offer, Connection.side, BusySide.pieces, Wire.pieces, bulk, writer]
    have idle : (c.offer message session).1.session.pieces = [] := after
    rw [before, idle, same]
    exact c.wire.exchange_trySend message _

/-- An abort only sets a flag: the scrape tasks hold what they held. -/
theorem Sound.abortTask {c : Connection} (sound : c.Sound) (task : Nat)
    : (∀ scrape ∈ c.abortTask task, scrape.pc.Sound)
      ∧ (c.abortTask task).flatMap (fun scrape => scrape.pc.pieces)
        = c.tasks.flatMap (fun scrape => scrape.pc.pieces) := by
  unfold Connection.abortTask
  split
  · next scrape found =>
      obtain ⟨front, back, opened⟩ := opened_of_getElem? found
      simp only [opened.replaced]
      have kept : scrape.pc.Sound := sound.tasks scrape opened.entry_mem
      exact ⟨opened.forall_replaced sound.tasks kept, by simp [opened.whole]⟩
  · exact ⟨sound.tasks, rfl⟩

/-- What a step of `queue_ws_response` exchanges, the session and the wire exchange. -/
theorem exchange_call {c : Connection} {call : Queueing} {session : SessionPc} {wire : Wire}
    {events : List Event} (here : c.session = .queueing call)
    (exchange : Exchange (call.piece :: c.wire.pieces) events (session.pieces ++ wire.pieces))
    : Exchange (c.session.pieces ++ c.side.pieces) events
        (session.pieces ++ BusySide.pieces { c.side with wire }) := by
  refine exchange.within fun ledger => ?_
  simp only [here, SessionPc.pieces, Connection.side, BusySide.pieces, Ledger.total_append,
    Ledger.total_cons, Ledger.total_nil]
  omega

theorem pieces_select {c : Connection} (here : c.session = .select ∨ c.session = .pinging)
    : c.session.pieces = [] := by
  rcases here with here | here <;> rw [here] <;> rfl

/-- A step of the session, by cases on what it can do. -/
theorem Sound.sessionStep {context : WorkerContext} {c next : Connection}
    {action : SessionAction} {events : List Event} (sound : c.Sound)
    (taken : c.sessionStep context action = some (next, events))
    : c.Keeps events next := by
  have held := sound.session
  cases stepped_of_sessionStep taken with
  | idle => exact ⟨sound, .refl⟩
  | left here | channelClosed here => exact sound.exit (pieces_select (.inl here))
  | writerEnded here ended =>
      obtain ⟨kept, exchange⟩ := sound.exit (pieces_select (.inl here))
      exact ⟨{ kept with }, exchange⟩
  | @offered action message session here next =>
      have idle : session.pieces = [] ∧ session.Sound := by
        rcases next with rfl | rfl <;> exact ⟨rfl, trivial⟩
      exact sound.offer (pieces_select here) idle.1 idle.2
  | readied here => exact sound.offer (pieces_select (.inl here)) rfl trivial
  | @spawned action uid resource here idle =>
      constructor
      · refine { sound with tasks := ?_, completions := sound.completions }
        intro task listed
        rcases List.mem_append.mp listed with older | new
        · exact sound.tasks task older
        · obtain rfl := List.mem_singleton.mp new
          trivial
      · refine (Exchange.request .scrape uid.text).within fun ledger => ?_
        simp only [pieces, channel, Connection.side, Completions.pieces, List.flatMap_append,
          List.flatMap_cons, List.flatMap_nil, ScrapePc.pieces, Ledger.total_append,
          Ledger.total_nil]
        omega
  | busy here active =>
      refine sound.keeps meets_busyAnswer sound.side rfl rfl ?_
      rw [here]
      exact (Exchange.request .busy _).frame [] _
  | @received task sender response rest here active queued =>
      have waiting := sound.completions
      simp only [Completions.Sound, channel, queued] at waiting
      constructor
      · exact { sound with
          session := waiting _ List.mem_cons_self
          completions := fun completion listed =>
            waiting completion (List.mem_cons_of_mem _ listed) }
      · refine (Exchange.refl : Exchange [] [] []).within fun ledger => ?_
        simp only [pieces, channel, Connection.side, Completions.pieces, queued, here,
          SessionPc.pieces, List.flatMap_cons, Ledger.total_append, Ledger.total_nil]
        omega
  | reserving here answered =>
      rw [here] at held
      obtain ⟨kept, exchange⟩ := Execution.exchange held answered .busy _ 0
      refine sound.keeps kept sound.side rfl rfl ?_
      rw [here]
      simp only [Nat.zero_add] at exchange
      exact exchange.frame [] c.side.pieces
  | encoding here answered =>
      rw [here] at held
      obtain ⟨kept, exchange⟩ := held.exchange_reply answered
      refine sound.keeps kept sound.side rfl rfl ?_
      rw [here]
      exact exchange.frame [] c.side.pieces
  | refused here returned =>
      rw [here] at held
      refine sound.keeps trivial sound.side rfl rfl ?_
      rw [here]
      exact .settleEmpty ⟨rfl, rfl⟩ rfl (held.result returned)
  | reserved here returned =>
      rw [here] at held
      obtain ⟨same, fit, holds⟩ := held.result returned
      refine sound.keeps fit sound.side rfl rfl ?_
      rw [here]
      simp only [SessionPc.pieces, BudgetedResponse.piece, same, holds]
      exact .refl
  | posted here http live room =>
      rw [here] at held
      refine sound.keeps trivial ?_ rfl rfl ?_
      · refine { sound.side with queued := ?_ }
        intro response listed
        rcases List.mem_append.mp listed with older | new
        · exact sound.side.queued response older
        · obtain rfl := List.mem_singleton.mp new
          exact held
      · rw [here]
        refine (Exchange.refl : Exchange [] [] []).within fun ledger => ?_
        simp only [SessionPc.pieces, Connection.side, BusySide.pieces, BusyQueue.pieces,
          List.map_append, List.map_cons, List.map_nil, Ledger.total_append, Ledger.total_nil]
        omega
  | answered here =>
      rw [here] at held
      refine sound.keeps (Queueing.sound_start held) sound.side rfl rfl ?_
      rw [here]
      exact .refl
  | queueing here proceeded =>
      rw [here] at held
      obtain ⟨kept, wired, exchange⟩ := held.exchange sound.side.wire proceeded
      exact sound.keeps kept { sound.side with wire := wired } rfl rfl
        (exchange_call here exchange)
  | queued here proceeded =>
      rw [here] at held
      obtain ⟨-, wired, exchange⟩ := held.exchange sound.side.wire proceeded
      exact sound.keeps trivial { sound.side with wire := wired } rfl rfl
        (exchange_call here exchange)
  | @closed call wire events error here proceeded =>
      rw [here] at held
      obtain ⟨-, wired, exchange⟩ := held.exchange sound.side.wire proceeded
      have rest : c.Keeps events { c with session := .select, wire } :=
        sound.keeps trivial { sound.side with wire := wired } rfl rfl
          (exchange_call here exchange)
      exact rest.fail rfl
  | joinedEmpty here ended =>
      exact sound.moves (by rw [here]; rfl) rfl trivial sound.side rfl rfl rfl
  | joined here ended =>
      rw [here] at held
      refine sound.keeps (Queueing.sound_start (held _ rfl)) sound.side rfl rfl ?_
      rw [here]
      exact .refl
  | @joinFailed task response result error here ended failed =>
      have rest : c.Keeps (lose c.session.pieces) { c with session := .select } :=
        sound.keeps trivial sound.side rfl rfl (.loseFirst _ _)
      exact rest.fail rfl
  | @aborted ending task here active =>
      obtain ⟨tasks, same⟩ := sound.abortTask task
      refine ⟨{ sound with session := trivial, tasks }, ?_⟩
      refine (Exchange.refl : Exchange [] [] []).within fun ledger => ?_
      simp only [pieces, same, here, SessionPc.pieces, Ledger.total_append, Ledger.total_nil]
      rfl
  | leftIdle here | leftTask here =>
      unfold leaveTasks
      split <;> exact sound.moves (by rw [here]; rfl) rfl trivial sound.side rfl rfl rfl
  | droppedBulk here | droppedBusy here | noFarewell here | flushing here | notQueued here
  | flushTimeout here | abortedWriter here | droppedSelf here | abortedActor here
  | returned here =>
      exact sound.moves (by rw [here]; rfl) rfl trivial { sound.side with } rfl rfl rfl
  | writerJoined here =>
      have empty : c.session.pieces = [] := by rcases here with here | here <;> rw [here] <;> rfl
      exact sound.moves empty rfl trivial sound.side rfl rfl rfl
  | farewell here given => exact sound.offer (by rw [here]; rfl) rfl trivial

/-- A step of any task of the connection. -/
theorem Sound.step {context : WorkerContext} {c next : Connection} {action : ConnectionAction}
    {events : List Event} (sound : c.Sound)
    (taken : c.step context action = some (next, events))
    : c.Keeps events next := by
  cases action with
  | session action => exact sound.sessionStep taken
  | scrape task action => exact sound.scrapeStep taken
  | busyActor action => exact sound.busyActorStep taken
  | writer action => exact sound.writerStep taken

-----------------------------------------------------------------------------------------
-- Runs
-----------------------------------------------------------------------------------------

section Runs

variable {context : WorkerContext} {name : String}
  {history : List (Transition Connection ConnectionAction Event)} {c : Connection}
  (run : (connectionMachine context).Run (new context name) history c)
include run

theorem sound_of_run : c.Sound :=
  run.invariant Sound sound_new fun sound taken => (sound.step taken).1

/-- Over a whole run, what came in is what is held and what went out, in both ledgers. -/
theorem exchange_of_run : Exchange [] (Machine.eventsOf history) c.pieces := by
  have both : c.Sound ∧ Exchange [] (Machine.eventsOf history) c.pieces := by
    refine run.historyInvariant
      (fun seen state => state.Sound ∧ Exchange [] seen state.pieces) ⟨sound_new, .refl⟩ ?_
    rintro seen before action after events ⟨sound, exchange⟩ taken
    obtain ⟨kept, step⟩ := sound.step taken
    exact ⟨kept, exchange.trans step⟩
  exact both.2

end Runs

end Connection

end ProxyClient
