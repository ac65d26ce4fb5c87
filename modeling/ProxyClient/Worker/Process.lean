import ProxyClient.Foundations.Position
import ProxyClient.Worker.BusyPosts
import ProxyClient.Worker.Cleanup
import ProxyClient.Worker.Loop
import ProxyClient.Worker.OneScrape
import ProxyClient.Worker.SessionSteps

/-! The whole process: `main`, its workers, their connections, and the shutdown token.
Every worker runs its loop, and the connection that it is in takes its own steps; all of them
share one budget, one clock and one token.
-/

namespace ProxyClient

open Foundations Memory

/-- The time that `main` leaves its workers after a signal. -/
def shutdownGrace : Nat := 15 * second

/-- Where `main` stands, once its workers are spawned. -/
inductive MainPc
  /-- In `shutdown_signals.recv`. -/
  | waiting
  /-- Awaiting one worker after another until the deadline. -/
  | joining (deadline next : Nat)
  | exited
deriving DecidableEq, Repr

structure Process where
  now : Nat
  isCancelled : Bool
  main : MainPc
  workers : List Worker
  client : Client

inductive ProcessAction
  | elapse (nanoseconds : Nat)
  /-- SIGINT or SIGTERM arrives. -/
  | signal
  /-- The worker that `main` awaits has stopped, or all have. -/
  | join
  /-- The deadline for the worker that `main` awaits has passed. -/
  | giveUp
  | worker (index : Nat) (action : WorkerAction)
  | connection (link : Nat) (action : ConnectionAction)

inductive ProcessEvent
  | signalled (time : Nat)
  | exited (time : Nat)
  | worker (index : Nat) (event : WorkerEvent)
  | connection (link : Nat) (event : Event)

namespace Process

/-- `main` after it has spawned its workers. -/
def new (limit start : Nat) (names : List String) : Process :=
  { now := start, isCancelled := false, main := .waiting, workers := names.map Worker.new,
    client := .new limit }

/-- The connection at a place has been returned from. -/
def hasReturned (p : Process) (link : Nat) : Bool :=
  p.client.links[link]?.any fun link => link.connection.session.hasReturned

/-- The client after a step of a worker: a new connection comes last. -/
def opened (p : Process) (context : WorkerContext) (name : String) (worker : Worker)
    : WorkerAction → Client
  | .connected _ =>
      let context := { context with workerName := worker.name }
      { p.client with links := p.client.links ++ [{ context, connection := .new context name }] }
  | .check | .returned _ | .wake | .cancelled => p.client

/-- A new connection has the next place, and a session is left once it has returned. -/
def admits (p : Process) (worker : Worker) : WorkerAction → Bool
  | .connected link => link == p.client.links.length
  | .returned _ =>
      match worker.pc with
      | .connected _ link => p.hasReturned link
      | .checking | .connecting _ | .sleeping _ | .stopped => true
  | .check | .wake | .cancelled => true

/-- A step of `main`'s worker at a place. -/
def workerStep (p : Process) (context : WorkerContext) (name : String) (index : Nat)
    (action : WorkerAction)
    : Option (Process × List ProcessEvent) :=
  match p.workers[index]? with
  | none => none
  | some worker =>
      if p.admits worker action then
        (worker.step p.now p.isCancelled action).map fun (next, events) =>
          ({ p with
              workers := p.workers.set index next
              client := p.opened context name worker action },
            events.map (.worker index))
      else none

/-- A session sees the shutdown only once the token is cancelled. -/
def sees (p : Process) : ConnectionAction → Bool
  | .session .shutdown => p.isCancelled
  | .session _ | .scrape .. | .busyActor _ | .writer _ => true

/-- A step of the process, until `main` has returned. -/
def step (context : WorkerContext) (name : String) (p : Process) (action : ProcessAction)
    : Option (Process × List ProcessEvent) :=
  if p.main = .exited then none
  else
    match action with
    | .elapse nanoseconds => some ({ p with now := p.now + nanoseconds }, [])
    | .signal =>
        match p.main with
        | .waiting =>
            some ({ p with isCancelled := true, main := .joining (p.now + shutdownGrace) 0 },
              [.signalled p.now])
        | .joining .. | .exited => none
    | .join =>
        match p.main with
        | .joining deadline next =>
            match p.workers[next]? with
            | none => some ({ p with main := .exited }, [.exited p.now])
            | some worker =>
                if worker.pc = .stopped then
                  some ({ p with main := .joining deadline (next + 1) }, [])
                else none
        | .waiting | .exited => none
    | .giveUp =>
        match p.main with
        | .joining deadline next =>
            match p.workers[next]? with
            | none => none
            | some worker =>
                if worker.pc ≠ .stopped ∧ deadline ≤ p.now then
                  some ({ p with main := .exited }, [.exited p.now])
                else none
        | .waiting | .exited => none
    | .worker index action => p.workerStep context name index action
    | .connection link action =>
        if p.sees action then
          (p.client.step (.step link action)).map fun (client, events) =>
            ({ p with client }, events.map (.connection link))
        else none

/-- How a step goes, with everything that it changes. -/
inductive Stepped (context : WorkerContext) (name : String) (p : Process)
    : ProcessAction → Process → List ProcessEvent → Prop
  | elapse (nanoseconds)
    : Stepped context name p (.elapse nanoseconds) { p with now := p.now + nanoseconds } []
  | signal (waiting : p.main = .waiting)
    : Stepped context name p .signal
        { p with isCancelled := true, main := .joining (p.now + shutdownGrace) 0 }
        [.signalled p.now]
  | joins {deadline next worker} (joining : p.main = .joining deadline next)
    (found : p.workers[next]? = some worker) (stopped : worker.pc = .stopped)
    : Stepped context name p .join { p with main := .joining deadline (next + 1) } []
  | finishes {deadline next} (joining : p.main = .joining deadline next)
    (all : p.workers.length ≤ next)
    : Stepped context name p .join { p with main := .exited } [.exited p.now]
  | givesUp {deadline next} (joining : p.main = .joining deadline next) (due : deadline ≤ p.now)
    : Stepped context name p .giveUp { p with main := .exited } [.exited p.now]
  | worker {index action worker next events} (found : p.workers[index]? = some worker)
    (admitted : p.admits worker action = true)
    (moved : worker.step p.now p.isCancelled action = some (next, events))
    : Stepped context name p (.worker index action)
        { p with
          workers := p.workers.set index next
          client := p.opened context name worker action }
        (events.map (.worker index))
  | connection {link action client events} (sees : p.sees action = true)
    (stepped : p.client.step (.step link action) = some (client, events))
    : Stepped context name p (.connection link action) { p with client }
        (events.map (.connection link))

theorem stepped_of_step {context : WorkerContext} {name : String} {p next : Process}
    {action : ProcessAction} {events : List ProcessEvent}
    (taken : p.step context name action = some (next, events))
    : p.main ≠ .exited ∧ Stepped context name p action next events := by
  unfold step at taken
  split at taken
  · cases taken
  · next alive =>
      refine ⟨alive, ?_⟩
      cases action with
      | elapse nanoseconds =>
          obtain ⟨rfl, rfl⟩ := Prod.mk.inj (Option.some.inj taken)
          exact .elapse nanoseconds
      | signal =>
          cases here : p.main with
          | waiting =>
              simp only [here] at taken
              obtain ⟨rfl, rfl⟩ := Prod.mk.inj (Option.some.inj taken)
              exact .signal here
          | joining | exited => simp [here] at taken
      | join =>
          cases here : p.main with
          | joining deadline awaited =>
              simp only [here] at taken
              split at taken
              · next absent =>
                  obtain ⟨rfl, rfl⟩ := Prod.mk.inj (Option.some.inj taken)
                  exact .finishes here (List.getElem?_eq_none_iff.mp absent)
              · next worker found =>
                  split at taken
                  · next stopped =>
                      obtain ⟨rfl, rfl⟩ := Prod.mk.inj (Option.some.inj taken)
                      exact .joins here found stopped
                  · cases taken
          | waiting | exited => simp [here] at taken
      | giveUp =>
          cases here : p.main with
          | joining deadline awaited =>
              simp only [here] at taken
              split at taken
              · cases taken
              · split at taken
                · next late =>
                    obtain ⟨rfl, rfl⟩ := Prod.mk.inj (Option.some.inj taken)
                    exact .givesUp here late.2
                · cases taken
          | waiting | exited => simp [here] at taken
      | worker index action =>
          simp only [workerStep] at taken
          split at taken
          · cases taken
          · next worker found =>
              split at taken
              · next admitted =>
                  obtain ⟨⟨worker', shown⟩, stepped, same⟩ := Option.map_eq_some_iff.mp taken
                  obtain ⟨rfl, rfl⟩ := Prod.mk.inj same
                  exact .worker found admitted stepped
              · cases taken
      | connection link action =>
          simp only at taken
          split at taken
          · next sees =>
              obtain ⟨⟨client, shown⟩, stepped, same⟩ := Option.map_eq_some_iff.mp taken
              obtain ⟨rfl, rfl⟩ := Prod.mk.inj same
              exact .connection sees stepped
          · cases taken

end Process

/-- The process as a machine, with the context and the instance name of its workers. -/
def processMachine (context : WorkerContext) (name : String)
    : Machine Process ProcessAction ProcessEvent where
  step := fun p action => p.step context name action

namespace Process

section Runs

variable {context : WorkerContext} {name : String} {limit start : Nat} {names : List String}
  {history : List (Transition Process ProcessAction ProcessEvent)} {p next : Process}

-----------------------------------------------------------------------------------------
-- The connections of a process
-----------------------------------------------------------------------------------------

/-- The connections of a process are a client, whatever its workers and `main` do. -/
theorem client_of_run
    (run : (processMachine context name).Run (new limit start names) history p)
    : ∃ matching, clientMachine.Run (.new limit) matching p.client := by
  refine run.simulated Process.client ?_
  intro earlier before action after events _ taken
  obtain ⟨-, stepped⟩ := stepped_of_step taken
  cases stepped with
  | elapse | signal | joins | finishes | givesUp => exact ⟨[], .start⟩
  | @worker _ action worker =>
      cases action with
      | connected link =>
          let fresh := { context with workerName := worker.name }
          have opens
              : clientMachine.step before.client (.connect fresh name)
                = some (before.opened context name worker (.connected link), []) :=
            rfl
          exact ⟨_, .single opens⟩
      | check | returned | wake | cancelled => exact ⟨[], .start⟩
  | @connection link action client shown sees stepped =>
      have moves : clientMachine.step before.client (.step link action) = some (client, shown) :=
        stepped
      exact ⟨_, .single moves⟩

/-- Every connection of a process has come by a run of its own. -/
theorem reached_of_run (run : (processMachine context name).Run (new limit start names) history p)
    : ∀ link ∈ p.client.links, link.Reached := by
  obtain ⟨matching, connected⟩ := client_of_run run
  exact (Client.accounted_of_run connected).reached

end Runs

end Process

-----------------------------------------------------------------------------------------
-- Workers and their connections
-----------------------------------------------------------------------------------------

namespace Connection

section Returned

variable {context : WorkerContext} {c next : Connection}

/-- A session that has returned takes no step. -/
theorem sessionStep_of_returned {action : SessionAction} {result : Except BoxError Unit}
    (here : c.session = .returned result)
    : c.sessionStep context action = none := by
  cases action with
  | proceed => simp [sessionStep, proceed, here]
  | shutdown | writerEnded | heartbeat | completion | read | reply | flushTimeout =>
      simp [sessionStep, here]

/-- A connection that has returned stays so. -/
theorem hasReturned_of_step {action : ConnectionAction} {events : List Event}
    (taken : c.step context action = some (next, events))
    (returned : c.session.hasReturned = true)
    : next.session.hasReturned = true := by
  cases moved_of_step taken with
  | session taken =>
      cases here : c.session with
      | returned result =>
          rw [sessionStep_of_returned here] at taken
          cases taken
      | select | pinging | reserving | answering | queueing | joining | exited | cancelling
      | droppingBulk | droppingBusy | farewelling | droppingControl | flushing | abortingWriter
      | awaitingWriter | droppingSelf | abortingActor | awaitingActor =>
          simp [here, SessionPc.hasReturned] at returned
  | scrape | busyActor | writer => exact returned

end Returned

/-- The scrape tasks that have not ended. -/
def liveScrapes (c : Connection) : Nat := c.tasks.countP fun scrape => !scrape.pc.hasEnded

/-- A connection has one live scrape at most, and none once it has returned. -/
theorem liveScrapes_le {context : WorkerContext} {name : String}
    {history : List (Transition Connection ConnectionAction Event)} {c : Connection}
    (run : (connectionMachine context).Run (new context name) history c)
    : c.liveScrapes ≤ if c.session.hasReturned then 0 else 1 := by
  split
  · next returned =>
      have cleaned := (cleanedUp_of_run run returned).tasks
      refine Nat.le_of_eq (List.countP_eq_zero.mpr fun scrape listed live => ?_)
      simp [cleaned scrape listed] at live
  · have one : c.OneScrape context := (scheduled_of_run run).oneScrape
    refine countP_le_one fun index other first second found found' live live' => ?_
    exact one.single index other first second found found' (by simpa using live)
      (by simpa using live')

/-- It has four busy POSTs at most, and none once it has returned. -/
theorem livePosts_le {context : WorkerContext} {name : String}
    {history : List (Transition Connection ConnectionAction Event)} {c : Connection}
    (run : (connectionMachine context).Run (new context name) history c)
    : c.actor.posts.length ≤ if c.session.hasReturned then 0 else busyResponseConcurrency := by
  split
  · next returned =>
      have ended := (cleanedUp_of_run run returned).actor
      have idle := (finishing_of_run run).side ended
      exact Nat.le_of_eq (List.length_eq_zero_iff.mpr idle.1)
  · exact busyPosts_le run

end Connection

namespace Process

/-- The connections whose sessions the workers are in. -/
def owners (p : Process) : List Nat := p.workers.flatMap fun worker => worker.link?.toList

/-- Every connection that has not returned is that of one worker. -/
structure Owned (p : Process) : Prop where
  inRange : ∀ link ∈ p.owners, link < p.client.links.length
  apart : p.owners.Nodup
  live
    : ∀ (link : Nat) (entry : Link),
        p.client.links[link]? = some entry
        → entry.connection.session.hasReturned = false
        → link ∈ p.owners

section Owned

variable {context : WorkerContext} {name : String} {limit start : Nat} {names : List String}
  {p next : Process} {events : List ProcessEvent}

theorem owned_new : (new limit start names).Owned := by
  have none : (new limit start names).owners = [] := by
    simp [owners, new, Worker.new, Worker.link?]
  refine { inRange := ?_, apart := ?_, live := ?_ }
  · rw [none]
    exact fun _ absent => absurd absent List.not_mem_nil
  · rw [none]
    exact .nil
  · exact fun _ _ absent => by simp [new, Client.new] at absent

/-- A step of a connection keeps the owners: one that had returned still has. -/
theorem Owned.connection {link : Nat} {action : ConnectionAction} {client : Client}
    {shown : List Event} (owned : p.Owned)
    (stepped : p.client.step (.step link action) = some (client, shown))
    : Owned { p with client } := by
  simp only [Client.step] at stepped
  split at stepped
  · cases stepped
  · next entry found =>
      split at stepped
      · cases stepped
      · next connection events moved =>
          obtain ⟨budget, -, same⟩ := Option.map_eq_some_iff.mp stepped
          obtain ⟨rfl, rfl⟩ := same
          refine { inRange := ?_, apart := owned.apart, live := ?_ }
          · intro link listed
            rw [List.length_set]
            exact owned.inRange link listed
          · intro place other found' running
            rw [List.getElem?_set] at found'
            split at found'
            · next here =>
                subst here
                split at found'
                · obtain rfl := Option.some.inj found'
                  refine owned.live link entry found ?_
                  cases before : entry.connection.session.hasReturned with
                  | false => rfl
                  | true =>
                      have after := Connection.hasReturned_of_step moved before
                      rw [running] at after
                      cases after
                · cases found'
            · exact owned.live place other found' running

section Worker

variable {index : Nat} {worker after : Worker}

/-- The owners change by the session that a worker leaves and the one that it enters. -/
theorem owners_perm (after : Worker) (client : Client) (found : p.workers[index]? = some worker)
    : (worker.link?.toList ++ owners { p with workers := p.workers.set index after, client }).Perm
        (after.link?.toList ++ p.owners) :=
  perm_flatMap_set after (fun worker => worker.link?.toList) found

/-- A worker stays outside of sessions. -/
theorem Owned.away (owned : p.Owned) (found : p.workers[index]? = some worker)
    (idle : worker.link? = none) (still : after.link? = none)
    : Owned { p with workers := p.workers.set index after } := by
  have same := owners_perm after p.client found
  rw [idle, still] at same
  exact {
    inRange := fun link listed => owned.inRange link (same.mem_iff.mp listed)
    apart := same.nodup_iff.mpr owned.apart
    live := fun link entry there running => same.mem_iff.mpr (owned.live link entry there running)
  }

/-- A worker enters the session of a new connection, which has the next place. -/
theorem Owned.enters {entry : Link} (owned : p.Owned) (found : p.workers[index]? = some worker)
    (idle : worker.link? = none) (here : after.link? = some p.client.links.length)
    : Owned
        { p with
          workers := p.workers.set index after
          client := { p.client with links := p.client.links ++ [entry] } } := by
  have more := owners_perm after { p.client with links := p.client.links ++ [entry] } found
  rw [idle, here] at more
  have fresh : p.client.links.length ∉ p.owners := by
    intro listed
    exact Nat.lt_irrefl _ (owned.inRange _ listed)
  refine { inRange := ?_, apart := ?_, live := ?_ }
  · intro link listed
    rw [List.length_append, List.length_singleton]
    rcases List.mem_cons.mp (more.mem_iff.mp listed) with rfl | older
    · exact Nat.lt_succ_self _
    · exact Nat.lt_succ_of_lt (owned.inRange link older)
  · exact more.nodup_iff.mpr (List.nodup_cons.mpr ⟨fresh, owned.apart⟩)
  · intro link other there running
    refine more.mem_iff.mpr (List.mem_cons.mpr ?_)
    rcases Nat.lt_or_ge link p.client.links.length with older | newer
    · rw [List.getElem?_append_left older] at there
      exact .inr (owned.live link other there running)
    · have within := (List.getElem?_eq_some_iff.mp there).1
      rw [List.length_append, List.length_singleton] at within
      exact .inl (by omega)

/-- A worker leaves a session that has returned. -/
theorem Owned.leaves {link : Nat} (owned : p.Owned) (found : p.workers[index]? = some worker)
    (here : worker.link? = some link) (gone : after.link? = none)
    (returned : p.hasReturned link = true)
    : Owned { p with workers := p.workers.set index after } := by
  have fewer := owners_perm after p.client found
  rw [here, gone] at fewer
  refine { inRange := ?_, apart := ?_, live := ?_ }
  · intro other listed
    exact owned.inRange other (fewer.mem_iff.mp (List.mem_cons_of_mem _ listed))
  · exact (List.nodup_cons.mp (fewer.nodup_iff.mpr owned.apart)).2
  · intro other entry there running
    rcases List.mem_cons.mp (fewer.mem_iff.mpr (owned.live other entry there running)) with
      rfl | listed
    · rw [hasReturned, there] at returned
      simp [running] at returned
    · exact listed

/-- A step of a worker keeps the owners, by the cases of its loop. -/
theorem Owned.workerStep {action : WorkerAction} {shown : List WorkerEvent} (owned : p.Owned)
    (found : p.workers[index]? = some worker) (admitted : p.admits worker action = true)
    (stepped : worker.Stepped p.now p.isCancelled action after shown)
    : Owned
        { p with
          workers := p.workers.set index after
          client := p.opened context name worker action } := by
  cases stepped with
  | begins here | stops here => exact owned.away found (by simp [Worker.link?, here]) rfl
  | wakes here | interrupted here => exact owned.away found (by simp [Worker.link?, here]) rfl
  | @connects started link connecting =>
      have place : link = p.client.links.length := by simpa [admits] using admitted
      exact owned.enters found (by simp [Worker.link?, connecting]) (congrArg some place)
  | @rests started uuid away =>
      rcases away with connecting | ⟨link, connected⟩
      · exact owned.away found (by simp [Worker.link?, connecting]) rfl
      · have returned : p.hasReturned link = true := by simpa [admits, connected] using admitted
        exact owned.leaves found (by simp [Worker.link?, connected]) rfl returned

end Worker

theorem Owned.step {action : ProcessAction} (owned : p.Owned)
    (taken : (processMachine context name).step p action = some (next, events))
    : next.Owned := by
  obtain ⟨-, stepped⟩ := stepped_of_step taken
  cases stepped with
  | elapse | signal | joins | finishes | givesUp => exact { owned with }
  | worker found admitted moved =>
      exact owned.workerStep found admitted (Worker.stepped_of_step moved)
  | connection sees stepped => exact owned.connection stepped

/-- The workers of `main`, by their names, are the same all along. -/
theorem names_of_step {action : ProcessAction}
    (taken : (processMachine context name).step p action = some (next, events))
    : next.workers.map Worker.name = p.workers.map Worker.name := by
  obtain ⟨-, stepped⟩ := stepped_of_step taken
  cases stepped with
  | elapse | signal | joins | finishes | givesUp | connection => rfl
  | @worker index action worker after events found admitted moved =>
      have same : after.name = worker.name := by
        cases Worker.stepped_of_step moved with
        | begins | stops | connects | rests | wakes | interrupted => rfl
      obtain ⟨front, back, opened⟩ := opened_of_getElem? found
      simp only [opened.replaced]
      rw [opened.whole]
      simp [same]

end Owned

-----------------------------------------------------------------------------------------
-- Bounds over all connections
-----------------------------------------------------------------------------------------

/-- However its workers, connections and `main` interleave: the process has a connection for each
worker at most, a connection has one scrape and four busy POSTs at most, none of them after it
has returned, and all scrapes, POSTs and buffers together stay within what that allows.
-/
structure Bounded (limit : Nat) (names : List String) (p : Process) : Prop where
  workers : p.workers.map Worker.name = names
  owned : p.Owned
  connections : p.client.running.length ≤ names.length
  scrape
    : ∀ link ∈ p.client.links,
        link.connection.liveScrapes ≤ if link.connection.session.hasReturned then 0 else 1
  post
    : ∀ link ∈ p.client.links,
        link.connection.actor.posts.length
        ≤ if link.connection.session.hasReturned then 0 else busyResponseConcurrency
  scrapes
    : (p.client.links.map fun link => link.connection.liveScrapes).sum ≤ names.length
  posts
    : (p.client.links.map fun link => link.connection.actor.posts.length).sum
      ≤ busyResponseConcurrency * names.length
  buffers : Buffer.total p.client.buffers ≤ p.client.budget.used
  budget : p.client.budget.used ≤ limit

/-- What each running connection has at most, and no other has, is bounded by their number. -/
theorem sum_le_running {links : List Link} {most : Nat} {amount : Link → Nat}
    (each
      : ∀ link ∈ links, amount link ≤ if link.connection.session.hasReturned then 0 else most)
    : (links.map amount).sum
      ≤ most * (links.filter fun link => !link.connection.session.hasReturned).length := by
  induction links with
  | nil => simp
  | cons link rest ih =>
      have here := each link List.mem_cons_self
      have later := ih fun other listed => each other (List.mem_cons_of_mem _ listed)
      cases returned : link.connection.session.hasReturned with
      | true =>
          rw [if_pos returned] at here
          simp only [List.map_cons, List.sum_cons, List.filter_cons, returned, Bool.not_true,
            Bool.false_eq_true, if_false]
          omega
      | false =>
          rw [returned] at here
          simp only [List.map_cons, List.sum_cons, List.filter_cons, returned, Bool.not_false,
            if_true, List.length_cons, Nat.mul_succ]
          simp only [Bool.false_eq_true, if_false] at here
          omega

/-- A worker is in one session at most. -/
theorem length_owners_le (p : Process) : p.owners.length ≤ p.workers.length := by
  unfold owners
  induction p.workers with
  | nil => simp
  | cons worker rest ih =>
      have one : worker.link?.toList.length ≤ 1 := by
        cases worker.link? <;> simp
      rw [List.flatMap_cons, List.length_append, List.length_cons]
      omega

section Bounded

variable {context : WorkerContext} {name : String} {limit start : Nat} {names : List String}
  {history : List (Transition Process ProcessAction ProcessEvent)} {p : Process}

/-- A process is bounded after every run. -/
theorem bounded_of_run
    (run : (processMachine context name).Run (new limit start names) history p)
    : p.Bounded limit names := by
  have owned := run.invariant Owned owned_new Owned.step
  have workers : p.workers.map Worker.name = names := by
    refine run.invariant (fun p => p.workers.map Worker.name = names) ?_ ?_
    · simp [new, Function.comp_def, Worker.new]
    · intro before action after events same taken
      exact (names_of_step taken).trans same
  have connections : p.client.running.length ≤ names.length := by
    have placed
        : ∀ (link : Nat) (entry : Link),
            p.client.links[link]? = some entry
            → (!entry.connection.session.hasReturned) = true
            → link ∈ p.owners := by
      intro link entry found running
      exact owned.live link entry found (by simpa using running)
    rw [← workers, List.length_map]
    exact Nat.le_trans (length_filter_le placed) p.length_owners_le
  have reached := reached_of_run run
  obtain ⟨matching, connected⟩ := client_of_run run
  have accounted := Client.accounted_of_run connected
  have backed : Backed p.client.buffers p.client.pieces :=
    .flatMap fun link listed => (reached link listed).sound.backed
  have scrape
      : ∀ link ∈ p.client.links,
          link.connection.liveScrapes ≤ if link.connection.session.hasReturned then 0 else 1 := by
    intro link listed
    obtain ⟨name, history, run⟩ := reached link listed
    exact Connection.liveScrapes_le run
  have post
      : ∀ link ∈ p.client.links,
          link.connection.actor.posts.length
          ≤ if link.connection.session.hasReturned then 0 else busyResponseConcurrency := by
    intro link listed
    obtain ⟨name, history, run⟩ := reached link listed
    exact Connection.livePosts_le run
  refine {
    workers, owned, connections, scrape, post
    scrapes := ?_, posts := ?_, buffers := ?_, budget := ?_
  }
  · have running := sum_le_running scrape
    rw [Nat.one_mul] at running
    exact Nat.le_trans running connections
  · exact Nat.le_trans (sum_le_running post) (Nat.mul_le_mul_left _ connections)
  · exact accounted.used ▸ backed.fits
  · exact accounted.bounded

end Bounded

/-- A new process with this limit and these workers follows a list of steps. -/
def exec (context : WorkerContext) (limit : Nat) (names : List String)
    (actions : List ProcessAction)
    : Option (List (Transition Process ProcessAction ProcessEvent) × Process) :=
  (processMachine context "instance").exec (new limit 0 names) actions

/-- A worker has connected, and its session has begun a scrape. -/
def scraping (index : Nat) : List ProcessAction :=
  [.worker index .check, .worker index (.connected index),
    .connection index (.session (.read (requestFrame firstUid)))]

theorem bounded_of_run_scraping
    : ∃ history p,
        exec (.bare 2) 64 ["first", "second"] (scraping 0 ++ scraping 1) = some (history, p)
        ∧ p.Bounded 64 ["first", "second"]
        ∧ p.client.running.length = 2
        ∧ (p.client.links.map fun link => link.connection.liveScrapes).sum = 2 := by
  have passed
      : (exec (.bare 2) 64 ["first", "second"] (scraping 0 ++ scraping 1)).any (fun (_, p) =>
          p.client.running.length == 2
            && (p.client.links.map fun link => link.connection.liveScrapes).sum == 2)
        = true := by
    decide
  obtain ⟨history, p, executed, checked⟩ := Machine.exec_checked passed
  simp only [Bool.and_eq_true, beq_iff_eq] at checked
  exact ⟨history, p, executed, bounded_of_run (Machine.exec_run executed), checked⟩

end Process

end ProxyClient
