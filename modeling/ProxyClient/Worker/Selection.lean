import ProxyClient.Worker.OneScrape

/-! The ready handshake of the wires v2 and v3, and what it asks of the server.
A connection does not remember its ready answers: it gives one to every broadcast until a
request comes. A server that uses at most one of them is never rejected.
-/

namespace ProxyClient

open Foundations

/-- Every request comes on a ready answer that was queued after the previous request was
handled. `offered` tells whether there is such an answer at the beginning.
-/
def Selects : Bool → List Event → Bool
  | _, [] => true
  | offered, .requested .. :: rest => offered && Selects false rest
  | offered, .controlQueued message :: rest => Selects (offered || message.isReady) rest
  | offered, _ :: rest => Selects offered rest

/-- A ready answer was queued after the last request. -/
def offeredAfter : Bool → List Event → Bool
  | offered, [] => offered
  | _, .requested .. :: rest => offeredAfter false rest
  | offered, .controlQueued message :: rest => offeredAfter (offered || message.isReady) rest
  | offered, _ :: rest => offeredAfter offered rest

/-- What is left to select after a first part, by induction over that part. -/
theorem selects_append (offered : Bool) (left right : List Event)
    : Selects offered (left ++ right)
      = (Selects offered left && Selects (offeredAfter offered left) right) := by
  induction left generalizing offered with
  | nil => rfl
  | cons event rest ih =>
      cases event <;> simp only [List.cons_append, Selects, offeredAfter, ih, Bool.and_assoc]

theorem offeredAfter_append (offered : Bool) (left right : List Event)
    : offeredAfter offered (left ++ right) = offeredAfter (offeredAfter offered left) right := by
  induction left generalizing offered with
  | nil => rfl
  | cons event rest ih => cases event <;> exact ih _

/-- Events outside the handshake offer nothing, by induction over them. -/
theorem Silent.offeredAfter {events : List Event} (silent : Silent events) (offered : Bool)
    : offeredAfter offered events = offered := by
  induction events generalizing offered with
  | nil => rfl
  | cons event rest ih =>
      have first := silent event List.mem_cons_self
      have later := ih fun other listed => silent other (List.mem_cons_of_mem _ listed)
      cases event with
      | requested => cases first
      | controlQueued message =>
          have unready : message.isReady = false := first
          simp only [ProxyClient.offeredAfter, unready, Bool.or_false, later]
      | acquired | refused | released | bulkQueued | handed | sent | sendFailed | posted
      | dropped | abandoned | panicked | writerReturned => exact later offered

namespace Connection

/-- As long as an offer stands, no scrape is active. -/
theorem idle_of_offered {context : WorkerContext} {name : String}
    {history : List (Transition Connection ConnectionAction Event)} {c : Connection}
    (run : (connectionMachine context).Run (new context name) history c)
    (offered : offeredAfter false (Machine.eventsOf history) = true)
    : c.activeTask = none := by
  refine run.historyInvariant
    (fun seen c => offeredAfter false seen = true → c.activeTask = none)
    (fun absent => nomatch absent) ?_ offered
  intro seen before action after events idle taken offered
  rw [offeredAfter_append] at offered
  cases handshake_of_step taken with
  | silent silent active =>
      rw [silent.offeredAfter] at offered
      exact active.elim (fun same => same.trans (idle offered)) id
  | readied uid handshake here idle still shown => exact still
  | spawned uid resource here idle tasks active shown =>
      rw [shown] at offered
      cases offered
  | rejected uid here busy tasks active shown =>
      rw [shown] at offered
      cases offered

/-- A step that keeps the handshake: it takes every request it reads with a new scrape task,
which calls the exporter, gives a ready answer only when no scrape is in progress, and gives one
to every broadcast that it reads while none is active, if the control queue has room.
-/
structure KeepsHandshake (context : WorkerContext)
    (transition : Transition Connection ConnectionAction Event)
    : Prop where
  takes
    : ∀ uid resource,
        transition.action = .session (.read (.text (some (.request uid resource))))
        → (IncomingMessage.request uid resource).validate = .ok ()
        → transition.events = [.requested .scrape uid.text]
          ∧ transition.after.tasks
            = transition.before.tasks ++ [{ pc := .spawned uid resource, aborted := false }]
  answers
    : ∀ message,
        .controlQueued message ∈ transition.events
        → message.isReady = true
        → transition.before.AllEnded
  offers
    : ∀ uid,
        context.protocol ≥ 2
        → transition.action = .session (.read (.text (some (.ready uid))))
        → (IncomingMessage.ready uid).validate = .ok ()
        → transition.before.activeTask = none
        → transition.before.wire.controlRoom = true
        → transition.events = [.controlQueued (.text (.ready uid.text context.workerName))]

/-- Nothing of a run is a rejection: no request is handled as one too many, and no answer of
that kind is delivered.
-/
def NeverRejects (events : List Event) : Prop :=
  ∀ event ∈ events,
    (∀ uid, event ≠ .requested .busy uid)
    ∧ ∀ response, event.answer? ≠ some (.busy, response)

/-- A request that comes on a standing offer is no rejection. -/
theorem selected_of_run {context : WorkerContext} {name : String}
    {history : List (Transition Connection ConnectionAction Event)} {c : Connection}
    (run : (connectionMachine context).Run (new context name) history c)
    (selects : Selects false (Machine.eventsOf history) = true)
    {transition : Transition Connection ConnectionAction Event} (listed : transition ∈ history)
    {origin : Origin} {uid : String} (requested : .requested origin uid ∈ transition.events)
    : transition.before.activeTask = none ∧ origin = .scrape := by
  obtain ⟨earlier, rest, rfl, reached, taken⟩ := run.transition_mem listed
  simp only [Machine.eventsOf_append, ← List.singleton_append (l := rest), selects_append,
    Machine.eventsOf_singleton, Bool.and_eq_true] at selects
  obtain ⟨-, here, -⟩ := selects
  cases handshake_of_step taken with
  | silent silent => cases silent _ requested
  | readied uid handshake running idle still shown =>
      rw [shown] at requested
      cases List.mem_singleton.mp requested
  | spawned uid resource running idle tasks active shown =>
      rw [shown] at requested
      cases List.mem_singleton.mp requested
      exact ⟨idle, rfl⟩
  | rejected uid running busy tasks active shown =>
      rw [shown, Selects, Selects, Bool.and_true] at here
      simp [idle_of_offered reached here] at busy

/-- A ready broadcast finds its answer a place in the control queue. -/
theorem offered_of_ready {context : WorkerContext} {c next : Connection} {uid : RustString}
    {events : List Event} (protocol : context.protocol ≥ 2)
    (valid : (IncomingMessage.ready uid).validate = .ok ()) (idle : c.activeTask = none)
    (room : c.wire.controlRoom = true)
    (taken
      : c.step context (.session (.read (.text (some (.ready uid))))) = some (next, events))
    : events = [.controlQueued (.text (.ready uid.text context.workerName))] := by
  simp only [Connection.step, Connection.sessionStep] at taken
  split at taken
  · simp only [handleFrame, handleText, valid, handleMessage, protocol, idle, Option.isNone_none,
      and_self, if_true, Option.some.injEq] at taken
    rw [offer, Wire.trySend, if_pos room] at taken
    exact (Prod.mk.inj taken).2.symm
  · cases taken

/-- So every request that is read starts a scrape. -/
theorem keepsHandshake_of_run {context : WorkerContext} {name : String}
    {history : List (Transition Connection ConnectionAction Event)} {c : Connection}
    (run : (connectionMachine context).Run (new context name) history c)
    (selects : Selects false (Machine.eventsOf history) = true)
    {transition : Transition Connection ConnectionAction Event} (listed : transition ∈ history)
    : KeepsHandshake context transition := by
  obtain ⟨earlier, rest, split, reached, taken⟩ := run.transition_mem listed
  have alone := handledAlone_of_step (scheduled_of_run reached) taken
  refine {
    takes := ?_
    answers := fun message queued ready => (alone.readies message queued ready).2
    offers := fun uid protocol reads valid idle room =>
      offered_of_ready protocol valid idle room (reads ▸ taken)
  }
  intro uid resource reads valid
  cases active : transition.before.activeTask with
  | some task =>
      have shown := (alone.rejects uid resource reads valid (by simp [active])).1
      have requested : Event.requested .busy uid.text ∈ transition.events := by
        simp only at shown
        simp [shown]
      cases (selected_of_run run selects listed requested).2
  | none =>
      rw [reads] at taken
      simp only [connectionMachine, Connection.step, Connection.sessionStep] at taken
      split at taken
      · simp only [handleFrame, handleText, valid, handleMessage, active, Option.isSome_none,
          Bool.false_eq_true, if_false, Option.some.injEq, Prod.mk.injEq] at taken
        obtain ⟨after, events⟩ := taken
        exact ⟨events.symm, by rw [← after]⟩
      · cases taken

/-- The weight that counts rejections. -/
def rejections : Origin → String → Nat
  | .busy, _ => 1
  | .scrape, _ => 0

/-- Where no request is rejected, no rejection comes in. -/
theorem gained_rejections {events : List Event}
    (accepted : ∀ event ∈ events, ∀ uid, event ≠ .requested .busy uid)
    : (answers rejections).gained events = 0 := by
  refine Ledger.gained_eq_zero _ fun event listed => ?_
  cases event with
  | requested origin uid =>
      cases origin with
      | scrape => rfl
      | busy => exact absurd rfl (accepted _ listed uid)
  | acquired | refused | released | controlQueued | bulkQueued | handed | sent | sendFailed
  | posted | dropped | abandoned | panicked | writerReturned => rfl

/-- A delivered rejection is one that goes out. -/
theorem loss_rejection {event : Event} {response : ResourceResponse}
    (answer : event.answer? = some (.busy, response))
    : (answers rejections).loss event = 1 := by
  cases event with
  | posted origin posted =>
      obtain ⟨rfl, -⟩ := Prod.mk.inj (Option.some.inj answer)
      rfl
  | sent frame =>
      cases frame with
      | control => cases answer
      | bulk encoded =>
          obtain ⟨busy, -⟩ := Prod.mk.inj (Option.some.inj answer)
          simp only [answers, busy, rejections]
  | acquired | refused | released | requested | controlQueued | bulkQueued | handed
  | sendFailed | dropped | abandoned | panicked | writerReturned => cases answer

/-- The ready handshake prevents rejections, for a server that sends a request only on a ready
answer queued after its previous request was handled.
-/
theorem handshake_prevents_rejections {context : WorkerContext} {name : String}
    {history : List (Transition Connection ConnectionAction Event)} {c : Connection}
    (run : (connectionMachine context).Run (new context name) history c)
    (selects : Selects false (Machine.eventsOf history) = true)
    : (∀ transition ∈ history, KeepsHandshake context transition)
      ∧ NeverRejects (Machine.eventsOf history) := by
  have accepted
      : ∀ event ∈ Machine.eventsOf history, ∀ uid, event ≠ .requested .busy uid := by
    rintro event listed uid rfl
    obtain ⟨transition, member, requested⟩ := List.mem_flatMap.mp listed
    cases (selected_of_run run selects member requested).2
  have balanced := (exchange_of_run run).answered rejections
  rw [Ledger.Balanced, gained_rejections accepted, Ledger.total_nil] at balanced
  constructor
  · intro transition listed
    exact keepsHandshake_of_run run selects listed
  · intro event listed
    refine ⟨accepted event listed, ?_⟩
    intro response answer
    have lost := Ledger.loss_le_lost (answers rejections) listed
    have one := loss_rejection answer
    omega

/-- A ready broadcast, as the server sends it. -/
def readyFrame (uid : RustString) : ServerFrame := .text (some (.ready uid))

/-- Two ready answers are queued and a request comes on one of them; when its scrape has ended
there are two more, and the next request.
-/
def selectedInTurn : List ConnectionAction :=
  [.session (.read (readyFrame firstUid)), .session (.read (readyFrame secondUid)),
    .session (.read (requestFrame firstUid)), .scrape 0 .start, .scrape 0 (.reply .granted),
    .scrape 0 (.reply .granted), .scrape 0 (.reply .done), .scrape 0 .called, .scrape 0 .send,
    .session .completion, .scrape 0 .finish, .session .proceed, .session (.reply .granted),
    .session (.reply (.capacity 72)), .session (.reply .done), .session .proceed,
    .session .proceed, .session (.read (readyFrame firstUid)),
    .session (.read (readyFrame secondUid)), .session (.read (requestFrame secondUid))]

theorem handshake_prevents_rejections_selectedInTurn
    : ∃ history c,
        Connection.exec (.bare 2) selectedInTurn = some (history, c)
        ∧ c.tasks.length = 2
        ∧ (∀ transition ∈ history, KeepsHandshake (.bare 2) transition)
        ∧ NeverRejects (Machine.eventsOf history) := by
  have passed
      : (Connection.exec (.bare 2) selectedInTurn).any (fun (history, c) =>
          Selects false (Machine.eventsOf history) && c.tasks.length == 2)
        = true := by
    decide
  obtain ⟨history, c, executed, checked⟩ := Machine.exec_checked passed
  simp only [Bool.and_eq_true, beq_iff_eq] at checked
  exact ⟨history, c, executed, checked.2,
    handshake_prevents_rejections (Machine.exec_run executed) checked.1⟩

end Connection

/-- Every request comes after a ready answer was sent for it, and no answer serves two of
them. `ready` counts the answers at the beginning.
-/
def Affords : Nat → List Event → Bool
  | _, [] => true
  | ready, .requested .. :: rest => decide (0 < ready) && Affords (ready - 1) rest
  | ready, .sent (.control message) :: rest =>
      Affords (if message.isReady then ready + 1 else ready) rest
  | ready, _ :: rest => Affords ready rest

namespace Connection

/-- Two broadcasts are answered before either request comes, so that the second request finds
the scrape of the first one; its rejection is sent over the WebSocket.
-/
def selectedTwice : List ConnectionAction :=
  let sendOne : List ConnectionAction := [.writer .pollControl, .writer .sendOk]
  [.session (.read (readyFrame firstUid)), .session (.read (readyFrame secondUid))]
    ++ sendOne ++ sendOne ++ sendOne
    ++ [.session (.read (requestFrame firstUid)), .session (.read (requestFrame secondUid)),
      .session (.reply .granted), .session .proceed, .session .proceed,
      .session (.reply .granted), .session (.reply (.capacity 57)), .session (.reply .done),
      .session .proceed, .session .proceed, .writer .pollControl, .writer .pollBulk,
      .writer .sendOk]

theorem rejected_selectedTwice
    : ∃ history c,
        Connection.exec (.bare 2) selectedTwice = some (history, c)
        ∧ Affords 0 (Machine.eventsOf history) = true
        ∧ ∃ event ∈ Machine.eventsOf history, ∃ response,
            event.answer? = some (.busy, response) ∧ response.status = 503 := by
  have passed
      : (Connection.exec (.bare 2) selectedTwice).any (fun (history, _) =>
          Affords 0 (Machine.eventsOf history)
            && (Machine.eventsOf history).any fun event =>
              event.answer?.any fun (origin, response) =>
                origin == .busy && response.status == 503)
        = true := by
    decide
  obtain ⟨history, c, executed, checked⟩ := Machine.exec_checked passed
  simp only [Bool.and_eq_true, List.any_eq_true, Option.any_eq_true, beq_iff_eq] at checked
  obtain ⟨affords, event, listed, ⟨origin, response⟩, answer, busy, status⟩ := checked
  obtain rfl : origin = .busy := busy
  exact ⟨history, c, executed, affords, event, listed, response, answer, status⟩

end Connection

end ProxyClient
