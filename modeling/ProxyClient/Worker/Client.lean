import ProxyClient.Memory.Budget
import ProxyClient.Worker.Acquisitions
import ProxyClient.Worker.Buffers

/-! The client process: any number of connections that share one memory budget.
Each connection takes its own steps; whatever such a step asks of the budget, the shared
counter answers.
-/

namespace ProxyClient

open Foundations Memory

-----------------------------------------------------------------------------------------
-- The shared budget
-----------------------------------------------------------------------------------------

namespace Memory.MemoryBudgetInner

/-- What a step shows of the budget happens to the shared counter: `try_acquire` grants or
refuses as it did, and a reservation that shrinks or is dropped is subtracted.
-/
def follow (inner : MemoryBudgetInner) : Event → Option MemoryBudgetInner
  | .acquired bytes =>
      match inner.fetchUpdate bytes with
      | .ok (next, previous) => some (next.fetchMax (wrappingAdd previous bytes))
      | .error _ => none
  | .refused error =>
      match inner.fetchUpdate error.requested with
      | .ok _ => none
      | .error refusal => if refusal = error then some inner else none
  | .released bytes => some (inner.fetchSub bytes)
  | .requested .. | .controlQueued _ | .bulkQueued _ | .handed _ | .sent _ | .sendFailed _
  | .posted .. | .dropped .. | .abandoned .. | .panicked _ | .writerReturned _ => some inner

/-- All events of a step, one after the other. -/
def followAll (inner : MemoryBudgetInner) : List Event → Option MemoryBudgetInner
  | [] => some inner
  | event :: rest => (inner.follow event).bind fun next => next.followAll rest

/-- An acquisition within the limit is counted. -/
theorem follow_acquired {inner next : MemoryBudgetInner} {bytes : Nat}
    (followed : inner.follow (.acquired bytes) = some next)
    : next.limit = inner.limit
      ∧ next.used = inner.used + bytes
      ∧ next.used ≤ next.limit := by
  simp only [follow, fetchUpdate, checkedAdd] at followed
  split at followed
  · next updated previous same =>
      split at same
      · next total granted =>
          obtain ⟨rfl, rfl⟩ := Prod.mk.inj (Except.ok.inj same)
          obtain rfl := Option.some.inj followed
          obtain ⟨kept, within⟩ := (Option.filter_eq_some_iff).mp granted
          split at kept
          · obtain rfl := Option.some.inj kept
            exact ⟨rfl, rfl, by simpa using within⟩
          · cases kept
      · cases same
  · cases followed

/-- Releases of reservations that are counted are subtracted, by induction over them. -/
theorem followAll_gives {inner next : MemoryBudgetInner} {events : List Event}
    (gives : Gives events) (counted : reservedBytes.lost events ≤ inner.used)
    (followed : inner.followAll events = some next)
    : next.limit = inner.limit ∧ next.used + reservedBytes.lost events = inner.used := by
  induction events generalizing inner with
  | nil =>
      obtain rfl := Option.some.inj followed
      exact ⟨rfl, rfl⟩
  | cons event rest ih =>
      obtain ⟨middle, first, later⟩ := Option.bind_eq_some_iff.mp followed
      obtain ⟨nothing, rest⟩ := List.forall_mem_cons.mp gives
      rw [Ledger.lost_cons] at counted ⊢
      have stepped
          : middle.limit = inner.limit
            ∧ middle.used + reservedBytes.loss event = inner.used := by
        cases event with
        | released bytes =>
            obtain rfl := Option.some.inj first
            have covered : bytes ≤ inner.used := Nat.le_trans (Nat.le_add_right _ _) counted
            rw [fetchSub_used covered]
            exact ⟨rfl, Nat.sub_add_cancel covered⟩
        | refused error =>
            simp only [follow] at first
            split at first
            · cases first
            · split at first
              · obtain rfl := Option.some.inj first
                exact ⟨rfl, rfl⟩
              · cases first
        | acquired bytes =>
            have none : bytes = 0 := nothing
            obtain ⟨limit, used, -⟩ := follow_acquired first
            subst none
            exact ⟨limit, used⟩
        | requested | controlQueued | bulkQueued | handed | sent | sendFailed | posted
        | dropped | abandoned | panicked | writerReturned =>
            obtain rfl := Option.some.inj first
            exact ⟨rfl, rfl⟩
      obtain ⟨limit, used⟩ := ih rest (by omega) later
      exact ⟨limit.trans stepped.1, by omega⟩

end Memory.MemoryBudgetInner

-----------------------------------------------------------------------------------------
-- The process
-----------------------------------------------------------------------------------------

/-- A connection and what its worker knows. -/
structure Link where
  context : WorkerContext
  connection : Connection

/-- All connections of the process, in the order of their set-up, and the budget they share. -/
structure Client where
  budget : MemoryBudgetInner
  links : List Link

/-- A step of the process. -/
inductive ClientAction
  /-- A worker has connected, and its session starts. -/
  | connect (context : WorkerContext) (name : String)
  | step (link : Nat) (action : ConnectionAction)

namespace Client

/-- `MemoryBudget::new` before any worker has connected. -/
def new (limit : Nat) : Client := { budget := .new limit, links := [] }

/-- A step of one connection, whose movements the shared budget follows. -/
def step (client : Client) : ClientAction → Option (Client × List Event)
  | .connect context name =>
      let link := { context, connection := .new context name }
      some ({ client with links := client.links ++ [link] }, [])
  | .step index action =>
      match client.links[index]? with
      | none => none
      | some link =>
          match link.connection.step link.context action with
          | none => none
          | some (connection, events) =>
              (client.budget.followAll events).map fun budget =>
                ({ budget, links := client.links.set index { link with connection } }, events)

end Client

/-- The process as a machine. -/
def clientMachine : Machine Client ClientAction Event where
  step := Client.step

namespace Client

/-- What all connections hold together. -/
def pieces (client : Client) : List Piece :=
  client.links.flatMap fun link => link.connection.pieces

/-- Every buffer of every connection. -/
def buffers (client : Client) : List Buffer :=
  client.links.flatMap fun link => link.connection.buffers

end Client

/-- A run of the connection leads to this link. -/
def Link.Reached (link : Link) : Prop :=
  ∃ name history,
    (connectionMachine link.context).Run (.new link.context name) history link.connection

theorem Link.Reached.sound {link : Link} (reached : link.Reached) : link.connection.Sound := by
  obtain ⟨name, history, run⟩ := reached
  exact Connection.sound_of_run run

namespace Client

/-- Every connection has come by a run of its own, and the counter is what they all hold. -/
structure Accounted (limit : Nat) (client : Client) : Prop where
  reached : ∀ link ∈ client.links, link.Reached
  limited : client.budget.limit = limit
  used : client.budget.used = reservedBytes.total client.pieces
  bounded : client.budget.used ≤ limit

theorem accounted_new (limit : Nat) : (new limit).Accounted limit where
  reached _ absent := absurd absent List.not_mem_nil
  limited := rfl
  used := rfl
  bounded := Nat.zero_le _

/-- A new connection holds nothing yet. -/
theorem Accounted.connect {limit : Nat} {client : Client} (accounted : client.Accounted limit)
    (context : WorkerContext) (name : String)
    : Accounted limit
        { client with
          links := client.links ++ [{ context, connection := .new context name }] } where
  reached link listed := by
    rcases List.mem_append.mp listed with older | new
    · exact accounted.reached link older
    · obtain rfl := List.mem_singleton.mp new
      exact ⟨name, [], .start⟩
  limited := accounted.limited
  used := by
    have empty : (Connection.new context name).pieces = [] := rfl
    rw [accounted.used]
    simp [pieces, empty]
  bounded := accounted.bounded

/-- The counter moves with what the stepping connection holds. -/
theorem Accounted.follow {limit : Nat} {client : Client} {budget : MemoryBudgetInner}
    {events : List Event} {pieces : List Piece} (accounted : client.Accounted limit)
    (alone : AcquiresAlone events)
    (covered : reservedBytes.Balanced client.pieces events pieces)
    (followed : client.budget.followAll events = some budget)
    : budget.limit = limit ∧ budget.used = reservedBytes.total pieces ∧ budget.used ≤ limit := by
  have within := accounted.bounded
  have used := accounted.used
  have limited := accounted.limited
  simp only [Ledger.Balanced] at covered
  rcases alone with ⟨bytes, rfl⟩ | gives
  · have first : client.budget.follow (.acquired bytes) = some budget := by
      simpa [MemoryBudgetInner.followAll] using followed
    obtain ⟨same, counted, fits⟩ := MemoryBudgetInner.follow_acquired first
    have gained : reservedBytes.gained [.acquired bytes] = bytes := rfl
    have lost : reservedBytes.lost [.acquired bytes] = 0 := rfl
    exact ⟨same.trans limited, by omega, by omega⟩
  · have gained : reservedBytes.gained events = 0 := reservedBytes.gained_eq_zero gives
    obtain ⟨same, counted⟩ :=
      MemoryBudgetInner.followAll_gives gives (by omega) followed
    exact ⟨same.trans limited, by omega, by omega⟩

theorem Accounted.step {limit : Nat} {client next : Client} {action : ClientAction}
    {events : List Event} (accounted : client.Accounted limit)
    (taken : client.step action = some (next, events))
    : next.Accounted limit := by
  cases action with
  | connect context name =>
      obtain ⟨rfl, -⟩ := Prod.mk.inj (Option.some.inj taken)
      exact accounted.connect context name
  | step index action =>
      simp only [Client.step] at taken
      split at taken
      · cases taken
      · next link found =>
          split at taken
          · cases taken
          · next connection shown stepped =>
              obtain ⟨budget, followed, same⟩ := Option.map_eq_some_iff.mp taken
              obtain ⟨rfl, rfl⟩ := same
              obtain ⟨front, back, opened⟩ := opened_of_getElem? found
              have reached := accounted.reached link opened.entry_mem
              obtain ⟨name, history, run⟩ := reached
              have exchange := ((Connection.sound_of_run run).step stepped).2
              have covered
                  : reservedBytes.Balanced client.pieces events
                      (pieces
                        { budget, links := client.links.set index { link with connection } }) := by
                have framed := exchange.covered.frame
                  (front.flatMap fun link => link.connection.pieces)
                  (back.flatMap fun link => link.connection.pieces)
                simp only [pieces, opened.replaced]
                rw [opened.whole]
                simpa using framed
              obtain ⟨same, used, bounded⟩ :=
                accounted.follow (Connection.acquiresAlone_of_step stepped) covered followed
              refine { reached := ?_, limited := same, used, bounded }
              simp only [opened.replaced]
              exact opened.forall_replaced accounted.reached
                ⟨name, history ++ [⟨link.connection, action, events, connection⟩],
                  .step run stepped⟩

section Runs

variable {limit : Nat} {history : List (Transition Client ClientAction Event)}
  {client : Client} (run : clientMachine.Run (new limit) history client)
include run

theorem accounted_of_run : client.Accounted limit :=
  run.invariant (Accounted limit) (accounted_new limit) Accounted.step

end Runs

-----------------------------------------------------------------------------------------
-- Every buffered byte is covered
-----------------------------------------------------------------------------------------

/-- The constructors of a response, and its downgrade, leave it exact: from a reservation that
covers the two buffers, and whatever else the caller holds.
-/
structure ConstructsExactly : Prop where
  tryNew
    : ∀ outside held uid status body,
        (BudgetedResponse.tryNew uid status body).Meets (coverage outside)
          (fun _ result => ∀ response, result = .ok response → response.Exact) held
  fromReserved
    : ∀ outside held uid status body (retained : MemoryReservation),
        uid.capacity + body.capacity ≤ retained.bytes
        → retained.bytes ≤ held
        → (BudgetedResponse.fromReserved uid status body retained).Meets (coverage outside)
            (fun _ response => response.Exact) held
  downgradeToError
    : ∀ outside held (response : BudgetedResponse),
        response.Exact
        → response.retained.bytes ≤ held
        → response.downgradeToError.Meets (coverage outside)
            (fun _ error => error.Exact) held

theorem constructsExactly : ConstructsExactly where
  tryNew outside held uid status body := by
    refine BudgetedResponse.meets_tryNew ?_ fun _ _ absent => nomatch absent
    rintro response - exactly _ ⟨⟩
    exact exactly
  fromReserved outside held uid status body retained covers live :=
    BudgetedResponse.meets_fromReserved covers live fun _ _ exactly => exactly
  downgradeToError outside held response exactly live :=
    BudgetedResponse.meets_downgradeToError exactly live fun _ _ exactly => exactly

/-- The buffers of all connections are covered, together they fit into what the budget has
granted, that stays within its limit, and no task is about to fail an assertion.
-/
structure Covered (limit : Nat) (client : Client) : Prop where
  buffers : ∀ buffer ∈ client.buffers, buffer.Covered
  fits : Buffer.total client.buffers ≤ client.budget.used
  bounded : client.budget.used ≤ limit
  faultless : ∀ link ∈ client.links, ∀ message, .fault message ∉ link.connection.performs

/-- Every buffered byte is covered by the budget, in every state of the process. -/
theorem buffers_covered {limit : Nat} {history : List (Transition Client ClientAction Event)}
    {client : Client} (run : clientMachine.Run (new limit) history client)
    : ConstructsExactly ∧ client.Covered limit := by
  have accounted := accounted_of_run run
  have backed : Backed client.buffers client.pieces :=
    .flatMap fun link listed => (accounted.reached link listed).sound.backed
  refine ⟨constructsExactly, ?_⟩
  exact {
    buffers := backed.covered
    fits := accounted.used ▸ backed.fits
    bounded := accounted.bounded
    faultless := fun link listed _ => (accounted.reached link listed).sound.faultless
  }

/-- A new process with this limit follows a list of steps. -/
def exec (limit : Nat) (actions : List ClientAction)
    : Option (List (Transition Client ClientAction Event) × Client) :=
  clientMachine.exec (new limit) actions

/-- A connection is asked for a resource that it does not have, up to the completion of its
scrape.
-/
def scrapeOn (link : Nat) : List ClientAction :=
  [.session (.read (requestFrame firstUid)), .scrape 0 .start, .scrape 0 (.reply .granted),
    .scrape 0 (.reply .granted), .scrape 0 (.reply .done), .scrape 0 .called].map (.step link)

/-- Two workers scrape at once, and each holds a response of 21 bytes. -/
theorem buffers_covered_twoWorkers
    : ∃ history client,
        exec 64 ([.connect (.bare 1) "first", .connect (.bare 2) "second"]
          ++ scrapeOn 0 ++ scrapeOn 1) = some (history, client)
        ∧ client.budget.used = 42
        ∧ Buffer.total client.buffers = 42
        ∧ ConstructsExactly
        ∧ client.Covered 64 := by
  have passed
      : (exec 64 ([.connect (.bare 1) "first", .connect (.bare 2) "second"]
          ++ scrapeOn 0 ++ scrapeOn 1)).any (fun (_, client) =>
            client.budget.used == 42 && Buffer.total client.buffers == 42)
        = true := by
    decide +kernel
  obtain ⟨history, client, executed, checked⟩ := Machine.exec_checked passed
  simp only [Bool.and_eq_true, beq_iff_eq] at checked
  exact ⟨history, client, executed, checked.1, checked.2,
    buffers_covered (Machine.exec_run executed)⟩

end Client

end ProxyClient
