import ProxyClient.Worker.Reading

/-! A connection with a clock. `last_inbound` says when the session has last read a frame, not when
one has arrived: frames wait in the receive buffer while the session does something else, and
`select!` may serve the heartbeat first.
-/

namespace ProxyClient

open Foundations

/-- The part of `Timing` that `Session::run` uses, in nanoseconds. -/
structure Timing where
  heartbeatInterval : Nat
  heartbeatTimeout : Nat

/-- What the socket's stream will yield, and when it has arrived. -/
structure Arrival where
  time : Nat
  frame : ServerFrame

/-- A frame from the server, rather than the end of the stream. -/
def ServerFrame.isFrame : ServerFrame → Bool
  | .text _ | .ping _ | .pong | .close _ | .unsupported => true
  | .failed | .finished => false

/-- A connection, the clock, the two times that `Session::run` keeps, and the receive buffer. -/
structure TimedConnection where
  connection : Connection
  now : Nat
  lastInbound : Nat
  /-- When `heartbeat.tick` is ready next. -/
  tickDue : Nat
  /-- What has arrived and is unread, oldest first. -/
  unread : List Arrival

/-- A step of a timed connection. -/
inductive TimedAction
  /-- Time passes, whatever the tasks are doing. -/
  | elapse (duration : Nat)
  /-- A frame arrives at the socket, or its stream ends. -/
  | arrive (frame : ServerFrame)
  /-- The heartbeat branch of `run`; the interval says when it ticks next. -/
  | tick (next : Nat)
  /-- The read branch of `run`. -/
  | read
  /-- Any other step of the connection. -/
  | other (action : ConnectionAction)

/-- A step that does not depend on the clock or the receive buffer. -/
def ConnectionAction.untimed : ConnectionAction → Bool
  | .session (.heartbeat _) | .session (.read _) => false
  | .session _ | .scrape .. | .busyActor _ | .writer _ => true

namespace TimedConnection

/-- `run` starts: its interval has ticked once, and some frames may have arrived already. -/
def new (context : WorkerContext) (name : String) (timing : Timing) (now : Nat)
    (unread : List Arrival)
    : TimedConnection :=
  { connection := .new context name, now, lastInbound := now,
    tickDue := now + timing.heartbeatInterval, unread }

/-- `last_inbound.elapsed() > timing.heartbeat_timeout`. -/
def isLate (timing : Timing) (c : TimedConnection) : Bool :=
  decide (timing.heartbeatTimeout < c.now - c.lastInbound)

/-- A step of a connection whose times and buffer the step does not touch. -/
def lift (c : TimedConnection) (stepped : Option (Connection × List Event))
    : Option (TimedConnection × List Event) :=
  stepped.map fun (connection, events) => ({ c with connection }, events)

/-- One step. `MissedTickBehavior::Delay` puts the next tick one interval after this one, or after
the time at which this one was due when it is hardly late.
-/
def step (context : WorkerContext) (timing : Timing) (c : TimedConnection)
    : TimedAction → Option (TimedConnection × List Event)
  | .elapse duration => some ({ c with now := c.now + duration }, [])
  | .arrive frame => some ({ c with unread := c.unread ++ [⟨c.now, frame⟩] }, [])
  | .tick next =>
      if c.tickDue ≤ c.now ∧ c.tickDue + timing.heartbeatInterval ≤ next
          ∧ next ≤ c.now + timing.heartbeatInterval then
        { c with tickDue := next }.lift
          (c.connection.step context (.session (.heartbeat (c.isLate timing))))
      else none
  | .read =>
      match c.unread with
      | [] => none
      | arrival :: unread =>
          let lastInbound := if arrival.frame.isFrame then c.now else c.lastInbound
          { c with unread, lastInbound }.lift
            (c.connection.step context (.session (.read arrival.frame)))
  | .other action =>
      if action.untimed then c.lift (c.connection.step context action) else none

end TimedConnection

/-- A connection with a clock as a machine. -/
def timedConnection (context : WorkerContext) (timing : Timing)
    : Machine TimedConnection TimedAction Event where
  step := fun c action => c.step context timing action

/-- A step of a timed connection, with the states around it. -/
abbrev TimedTransition : Type := Transition TimedConnection TimedAction Event

-----------------------------------------------------------------------------------------
-- Timeouts
-----------------------------------------------------------------------------------------

namespace TimedTransition

/-- What a step adds to the receive buffer. -/
def arrival? (transition : TimedTransition) : Option Arrival :=
  match transition.action with
  | .arrive frame => some ⟨transition.before.now, frame⟩
  | .elapse _ | .tick _ | .read | .other _ => none

/-- The heartbeat branch is served. -/
def ticks (transition : TimedTransition) : Bool :=
  match transition.action with
  | .tick _ => true
  | .elapse _ | .arrive _ | .read | .other _ => false

theorem ticks_iff {transition : TimedTransition}
    : transition.ticks = true ↔ ∃ next, transition.action = .tick next := by
  unfold ticks
  constructor
  · intro ticks
    split at ticks
    · next next ticked => exact ⟨next, ticked⟩
    all_goals cases ticks
  · rintro ⟨next, ticked⟩
    rw [ticked]

/-- The heartbeat branch ends `run`. -/
def TimesOut (transition : TimedTransition) : Prop :=
  ∃ next ending,
    transition.action = .tick next
    ∧ transition.after.connection.session = .exited ending
    ∧ ending.result = .error (.text "websocket heartbeat timed out")

/-- The heartbeat branch is served although the last read was long ago. -/
def ServedLate (timing : Timing) (transition : TimedTransition) : Prop :=
  (∃ next, transition.action = .tick next) ∧ transition.before.isLate timing = true

end TimedTransition

/-- Everything that has arrived at the socket, in order. -/
def arrivedBy (start : TimedConnection) (history : List TimedTransition) : List Arrival :=
  start.unread ++ history.filterMap TimedTransition.arrival?

/-- No frame among these has arrived during the last `heartbeat_timeout`. -/
def SilentFor (timing : Timing) (now : Nat) (arrivals : List Arrival) : Prop :=
  ∀ arrival ∈ arrivals,
    arrival.frame.isFrame = true → arrival.time + timing.heartbeatTimeout < now

/-- As `Timing` documents it: `run` times out only after this long without any frame from the
server.
-/
def NoFalseTimeout (timing : Timing) (start : TimedConnection) (history : List TimedTransition)
    : Prop :=
  ∀ earlier transition later,
    history = earlier ++ transition :: later
    → transition.TimesOut
    → SilentFor timing transition.before.now (arrivedBy start earlier)

-----------------------------------------------------------------------------------------
-- What one step does
-----------------------------------------------------------------------------------------

namespace TimedConnection

variable {context : WorkerContext} {timing : Timing} {c next : TimedConnection}
  {events : List Event}

/-- A lifted step changes the connection and nothing else. -/
theorem lift_eq_some {stepped : Option (Connection × List Event)}
    (taken : c.lift stepped = some (next, events))
    : ∃ connection, stepped = some (connection, events) ∧ next = { c with connection } := by
  obtain ⟨⟨connection, events'⟩, same, pair⟩ := Option.map_eq_some_iff.mp taken
  obtain ⟨rfl, rfl⟩ := pair
  exact ⟨connection, same, rfl⟩

/-- The heartbeat branch steps the connection with what the clock says. -/
theorem step_tick {due : Nat}
    (taken : (timedConnection context timing).step c (.tick due) = some (next, events))
    : ∃ connection,
        (connectionMachine context).step c.connection (.session (.heartbeat (c.isLate timing)))
          = some (connection, events)
        ∧ next = { c with connection, tickDue := due } := by
  simp only [timedConnection, step] at taken
  split at taken
  · exact lift_eq_some taken
  · cases taken

/-- The read branch takes the oldest arrival. -/
theorem step_read
    (taken : (timedConnection context timing).step c .read = some (next, events))
    : ∃ arrival unread connection,
        c.unread = arrival :: unread
        ∧ (connectionMachine context).step c.connection (.session (.read arrival.frame))
          = some (connection, events)
        ∧ next
          = { c with
              connection, unread,
              lastInbound := if arrival.frame.isFrame then c.now else c.lastInbound } := by
  simp only [timedConnection, step] at taken
  split at taken
  · cases taken
  · next arrival unread waiting =>
      obtain ⟨connection, stepped, same⟩ := lift_eq_some taken
      exact ⟨arrival, unread, connection, waiting, stepped, same⟩

/-- Every other step of the connection leaves the times and the buffer. -/
theorem step_other {action : ConnectionAction}
    (taken : (timedConnection context timing).step c (.other action) = some (next, events))
    : ∃ connection,
        (connectionMachine context).step c.connection action = some (connection, events)
        ∧ next = { c with connection } := by
  simp only [timedConnection, step] at taken
  split at taken
  · exact lift_eq_some taken
  · cases taken

/-- Without its clock, a timed connection is a connection. -/
theorem forgets {name : String} {now : Nat} {unread : List Arrival}
    {history : List TimedTransition}
    (run : (timedConnection context timing).Run (new context name timing now unread) history c)
    : ∃ matching,
        (connectionMachine context).Run (.new context name) matching c.connection := by
  apply run.simulated TimedConnection.connection
  intro earlier before action next events reached taken
  cases action with
  | elapse | arrive =>
      obtain ⟨rfl, rfl⟩ := taken
      exact ⟨[], .start⟩
  | tick due =>
      obtain ⟨connection, stepped, rfl⟩ := step_tick taken
      exact ⟨_, .single stepped⟩
  | read =>
      obtain ⟨arrival, unread, connection, -, stepped, rfl⟩ := step_read taken
      exact ⟨_, .single stepped⟩
  | other action =>
      obtain ⟨connection, stepped, rfl⟩ := step_other taken
      exact ⟨_, .single stepped⟩

/-- A late heartbeat branch ends `run` with the timeout, and any other goes on. -/
theorem heartbeat_ends {connection after : Connection} {late : Bool}
    (taken
      : (connectionMachine context).step connection (.session (.heartbeat late))
        = some (after, events))
    : if late then
        ∃ ending,
          after.session = .exited ending
          ∧ ending.result = .error (.text "websocket heartbeat timed out")
      else after.session = .pinging := by
  simp only [connectionMachine, Connection.step, Connection.sessionStep] at taken
  split at taken
  · cases late with
    | true =>
        obtain ⟨rfl, rfl⟩ := taken
        exact ⟨_, rfl, rfl⟩
    | false =>
        obtain ⟨rfl, rfl⟩ := taken
        rfl
  · cases taken

/-- The heartbeat branch times out exactly when it is served late. -/
theorem timesOut_iff {action : TimedAction}
    (taken : (timedConnection context timing).step c action = some (next, events))
    : TimedTransition.TimesOut ⟨c, action, events, next⟩
      ↔ TimedTransition.ServedLate timing ⟨c, action, events, next⟩ := by
  constructor
  · rintro ⟨due, ending, ticked, gone, -⟩
    dsimp only at ticked gone
    subst ticked
    refine ⟨⟨due, rfl⟩, ?_⟩
    obtain ⟨connection, stepped, rfl⟩ := step_tick taken
    have ends := heartbeat_ends stepped
    apply Classical.byContradiction
    intro early
    rw [if_neg early] at ends
    rw [ends] at gone
    cases gone
  · rintro ⟨⟨due, ticked⟩, late⟩
    dsimp only at ticked late
    subst ticked
    obtain ⟨connection, stepped, rfl⟩ := step_tick taken
    have ends := heartbeat_ends stepped
    rw [if_pos late] at ends
    obtain ⟨ending, gone, result⟩ := ends
    exact ⟨due, ending, rfl, gone, result⟩

-----------------------------------------------------------------------------------------
-- Read and unread
-----------------------------------------------------------------------------------------

/-- What has arrived is read or unread, and no frame that has been read has arrived after
`last_inbound`.
-/
structure Reads (start : TimedConnection) (history : List TimedTransition) (c : TimedConnection)
    : Prop where
  ordered : c.lastInbound ≤ c.now
  split
    : ∃ read,
        arrivedBy start history = read ++ c.unread
        ∧ ∀ arrival ∈ read, arrival.frame.isFrame = true → arrival.time ≤ c.lastInbound
  past : ∀ arrival ∈ c.unread, arrival.time ≤ c.now

section

variable {start : TimedConnection} {history : List TimedTransition}

theorem arrivedBy_concat {transition : TimedTransition}
    : arrivedBy start (history ++ [transition])
      = arrivedBy start history ++ transition.arrival?.toList := by
  rw [arrivedBy, List.filterMap_append]
  cases arrives : transition.arrival? <;> simp [arrives, arrivedBy]

/-- A step that moves no frame, and neither time, but that of the next tick. -/
theorem Reads.quiet {action : TimedAction} (reads : Reads start history c)
    (none : TimedTransition.arrival? ⟨c, action, events, next⟩ = none) (now : c.now ≤ next.now)
    (inbound : next.lastInbound = c.lastInbound) (unread : next.unread = c.unread)
    : Reads start (history ++ [⟨c, action, events, next⟩]) next := by
  obtain ⟨read, split, old⟩ := reads.split
  refine { ordered := ?_, split := ⟨read, ?_, ?_⟩, past := ?_ }
  · rw [inbound]
    exact Nat.le_trans reads.ordered now
  · rw [arrivedBy_concat, none, unread, split]
    exact List.append_nil _
  · rw [inbound]
    exact old
  · rw [unread]
    intro arrival listed
    exact Nat.le_trans (reads.past arrival listed) now

/-- Every step keeps it. -/
theorem Reads.step {action : TimedAction} (reads : Reads start history c)
    (taken : (timedConnection context timing).step c action = some (next, events))
    : Reads start (history ++ [⟨c, action, events, next⟩]) next := by
  cases action with
  | elapse duration =>
      obtain ⟨rfl, rfl⟩ := taken
      exact reads.quiet rfl (Nat.le_add_right _ _) rfl rfl
  | arrive frame =>
      obtain ⟨rfl, rfl⟩ := taken
      obtain ⟨read, split, old⟩ := reads.split
      refine { ordered := reads.ordered, split := ⟨read, ?_, old⟩, past := ?_ }
      · rw [arrivedBy_concat, split, List.append_assoc]
        rfl
      · intro arrival listed
        rcases List.mem_append.mp listed with earlier | last
        · exact reads.past arrival earlier
        · obtain rfl := List.mem_singleton.mp last
          exact Nat.le_refl _
  | tick due =>
      obtain ⟨connection, -, rfl⟩ := step_tick taken
      exact reads.quiet rfl (Nat.le_refl _) rfl rfl
  | read =>
      obtain ⟨arrival, unread, connection, waiting, -, rfl⟩ := step_read taken
      obtain ⟨read, split, old⟩ := reads.split
      have past := reads.past
      rw [waiting] at split past
      -- What was read before is older than the last read, which is older than now.
      have later
          : c.lastInbound ≤ if arrival.frame.isFrame then c.now else c.lastInbound := by
        split
        · exact reads.ordered
        · exact Nat.le_refl _
      refine { ordered := ?_, split := ⟨read ++ [arrival], ?_, ?_⟩, past := ?_ }
      · dsimp only
        split
        · exact Nat.le_refl _
        · exact reads.ordered
      · rw [arrivedBy_concat, split]
        simp [TimedTransition.arrival?]
      · intro other listed proper
        rcases List.mem_append.mp listed with earlier | last
        · exact Nat.le_trans (old other earlier proper) later
        · obtain rfl := List.mem_singleton.mp last
          rw [if_pos proper]
          exact past other List.mem_cons_self
      · intro other listed
        exact past other (List.mem_cons_of_mem _ listed)
  | other action =>
      obtain ⟨connection, -, rfl⟩ := step_other taken
      exact reads.quiet rfl (Nat.le_refl _) rfl rfl

/-- So every run keeps it, by induction. -/
theorem reads {name : String} {now : Nat} {unread : List Arrival}
    (past : ∀ arrival ∈ unread, arrival.time ≤ now)
    (run : (timedConnection context timing).Run (new context name timing now unread) history c)
    : Reads (new context name timing now unread) history c := by
  induction run with
  | start =>
      refine { ordered := Nat.le_refl _, split := ⟨[], List.append_nil _, ?_⟩, past }
      intro arrival absent
      exact absurd absent List.not_mem_nil
  | step run taken ih => exact ih.step taken

/-- A frame that was read is older than a late tick, so only the receive buffer matters. -/
theorem Reads.silentFor_iff (reads : Reads start history c) (late : c.isLate timing = true)
    : SilentFor timing c.now (arrivedBy start history) ↔ SilentFor timing c.now c.unread := by
  obtain ⟨read, split, old⟩ := reads.split
  have elapsed : timing.heartbeatTimeout < c.now - c.lastInbound := of_decide_eq_true late
  rw [split]
  constructor
  · intro silent arrival listed
    exact silent arrival (List.mem_append_right _ listed)
  · intro silent arrival listed proper
    rcases List.mem_append.mp listed with earlier | waiting
    · have before := old arrival earlier proper
      omega
    · exact silent arrival waiting proper

end

section

variable {name : String} {now : Nat} {unread : List Arrival} {history : List TimedTransition}

/-- A late tick that times out rightly leaves no fresh frame unread. -/
theorem silentFor_unread (past : ∀ arrival ∈ unread, arrival.time ≤ now)
    (run : (timedConnection context timing).Run (new context name timing now unread) history c)
    (honest : NoFalseTimeout timing (new context name timing now unread) history)
    {transition : TimedTransition} (listed : transition ∈ history)
    (served : transition.ServedLate timing)
    : SilentFor timing transition.before.now transition.before.unread := by
  obtain ⟨earlier, later, rfl, reached, taken⟩ := run.transition_mem listed
  have silent := honest earlier transition later rfl ((timesOut_iff taken).mpr served)
  exact ((reads past reached).silentFor_iff served.2).mp silent

/-- `run` never times out falsely exactly when no late tick is served while a frame that has arrived
during the last `heartbeat_timeout` waits in the receive buffer.
-/
theorem noFalseTimeout_iff (past : ∀ arrival ∈ unread, arrival.time ≤ now)
    (run : (timedConnection context timing).Run (new context name timing now unread) history c)
    : NoFalseTimeout timing (new context name timing now unread) history
      ↔ ∀ transition ∈ history,
          transition.ServedLate timing
          → SilentFor timing transition.before.now transition.before.unread := by
  constructor
  · intro honest transition listed served
    exact silentFor_unread past run honest listed served
  · rintro stale earlier transition later rfl timesOut
    obtain ⟨reached, taken⟩ := run.split
    have served := (timesOut_iff taken).mp timesOut
    have silent := stale transition (by simp) served
    exact ((reads past reached).silentFor_iff served.2).mpr silent

end

/-- Heartbeats as the tests set them. -/
def hastyTiming : Timing where
  heartbeatInterval := 100 * 10 ^ 6
  heartbeatTimeout := 10 * 10 ^ 6

/-- One frame is read, the next one stays unread, and then the server says nothing for two
intervals.
-/
def silentAfterTwo : List TimedAction :=
  [.elapse (1 * 10 ^ 6), .arrive .pong, .read, .elapse (1 * 10 ^ 6), .arrive (.ping "server"),
    .elapse (198 * 10 ^ 6), .tick (300 * 10 ^ 6)]

/-- The timeout of this run is right, since the unread frame is stale when the tick is served. -/
theorem noFalseTimeout_iff_silentAfterTwo
    : ∃ history c,
        (timedConnection (.bare 1) hastyTiming).exec (new (.bare 1) "instance" hastyTiming 0 [])
          silentAfterTwo
          = some (history, c)
        ∧ c.connection.session.running = false
        ∧ c.lastInbound = 1 * 10 ^ 6
        ∧ c.unread.length = 1
        ∧ NoFalseTimeout hastyTiming (new (.bare 1) "instance" hastyTiming 0 []) history := by
  have passed
      : ((timedConnection (.bare 1) hastyTiming).exec
          (new (.bare 1) "instance" hastyTiming 0 []) silentAfterTwo).any
            (fun (history, c) =>
              !c.connection.session.running && c.lastInbound == 1 * 10 ^ 6
                && c.unread.length == 1
                && history.all fun transition : TimedTransition =>
                    !(transition.ticks && transition.before.isLate hastyTiming)
                      || transition.before.unread.all fun arrival =>
                          decide (arrival.time + hastyTiming.heartbeatTimeout
                            < transition.before.now))
        = true := by
    decide
  obtain ⟨history, c, executed, checked⟩ := Machine.exec_checked passed
  simp only [Bool.and_eq_true, Bool.not_eq_true', beq_iff_eq, List.all_eq_true] at checked
  obtain ⟨⟨⟨gone, inbound⟩, waiting⟩, stale⟩ := checked
  have run := Machine.exec_run executed
  refine ⟨history, c, executed, gone, inbound, waiting,
    (noFalseTimeout_iff (fun _ absent => absurd absent List.not_mem_nil) run).mpr ?_⟩
  intro transition listed served arrival unread _
  have checked := stale transition listed
  rw [TimedTransition.ticks_iff.mpr served.1, served.2] at checked
  simp only [Bool.and_self, Bool.not_true, Bool.false_or, List.all_eq_true, decide_eq_true_eq]
    at checked
  exact checked arrival unread

/-- A late tick before a fresh frame is a false timeout. -/
theorem not_noFalseTimeout {name : String} {history : List TimedTransition}
    {transition : TimedTransition} {arrival : Arrival}
    (run : (timedConnection context timing).Run (new context name timing 0 []) history c)
    (listed : transition ∈ history) (served : transition.ServedLate timing)
    (waiting : arrival ∈ transition.before.unread) (proper : arrival.frame.isFrame = true)
    (fresh : transition.before.now ≤ arrival.time + timing.heartbeatTimeout)
    : ¬ NoFalseTimeout timing (new context name timing 0 []) history := by
  intro honest
  have past : ∀ arrival ∈ ([] : List Arrival), arrival.time ≤ 0 := by
    intro arrival absent
    cases absent
  have silent := silentFor_unread past run honest listed served arrival waiting proper
  omega

end TimedConnection

/-- The timed steps of an untimed one: what is read arrives first. -/
def ConnectionAction.timed : ConnectionAction → List TimedAction
  | .session (.read frame) => [.arrive frame, .read]
  | action => [.other action]

/-- Nine busy answers suspend the session while the register frame is being sent, which takes 200
milliseconds. A ping arrives after 195 of them, and then `select!` serves the heartbeat first.
-/
def pingAfterNine : List TimedAction :=
  (Connection.rejectedRequests 9).flatMap ConnectionAction.timed
    ++ [.elapse (195 * 10 ^ 6), .arrive (.ping "server"), .elapse (5 * 10 ^ 6),
      .other (.writer .sendOk), .other (.writer .pollControl), .other (.writer .pollBulk),
      .other (.session .proceed), .tick (300 * 10 ^ 6)]

/-- The last step served the heartbeat late, before a frame that has just arrived. -/
def endsFalsely (timing : Timing) (history : List TimedTransition) : Bool :=
  history.getLast?.any fun transition =>
    transition.ticks && transition.before.isLate timing
      && transition.before.unread.any fun arrival =>
        arrival.frame.isFrame
          && decide (transition.before.now ≤ arrival.time + timing.heartbeatTimeout)

theorem TimedConnection.not_noFalseTimeout_pingAfterNine
    : ∃ history c,
        (timedConnection (.bare 1) hastyTiming).exec (new (.bare 1) "instance" hastyTiming 0 [])
          pingAfterNine
          = some (history, c)
        ∧ ¬ NoFalseTimeout hastyTiming (new (.bare 1) "instance" hastyTiming 0 []) history := by
  have passed
      : ((timedConnection (.bare 1) hastyTiming).exec
          (new (.bare 1) "instance" hastyTiming 0 []) pingAfterNine).any
            (fun ran => endsFalsely hastyTiming ran.1)
        = true := by
    decide +kernel
  obtain ⟨history, c, executed, checked⟩ := Machine.exec_checked passed
  obtain ⟨transition, last, facts⟩ := (Option.any_eq_true _ _).mp checked
  simp only [Bool.and_eq_true, List.any_eq_true, decide_eq_true_eq] at facts
  obtain ⟨⟨ticks, late⟩, arrival, waiting, proper, fresh⟩ := facts
  have served : transition.ServedLate hastyTiming := ⟨TimedTransition.ticks_iff.mp ticks, late⟩
  exact ⟨history, c, executed,
    not_noFalseTimeout (Machine.exec_run executed) (List.mem_of_getLast? last) served waiting proper
      fresh⟩

end ProxyClient
