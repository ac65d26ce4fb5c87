import ProxyClient.Worker.Process

/-! What a signal does to the process.
After it no worker begins an attempt and each one takes a few more steps of its loop at most;
`main` returns when all of them have stopped or when the grace period is over.
-/

namespace ProxyClient

open Foundations

namespace Process

-----------------------------------------------------------------------------------------
-- The order of events
-----------------------------------------------------------------------------------------

/-- The second event may be shown after the first one. -/
def MayFollow : ProcessEvent → ProcessEvent → Prop
  -- No attempt begins and no second signal is taken after a signal, and `main` returns after it.
  | .signalled _, .worker _ (.began _) => False
  | .signalled _, .signalled _ => False
  | .signalled signal, .exited time => signal ≤ time
  -- A worker stops after the signal, and shows nothing more.
  | .worker _ (.stopped _), .signalled _ => False
  | .worker stopped (.stopped _), .worker index _ => index ≠ stopped
  -- The process ends with `main`.
  | .exited _, _ => False
  | .signalled _, .worker _ (.ended ..) => True
  | .signalled _, .worker _ (.stopped _) => True
  | .signalled _, .connection .. => True
  | .worker _ (.stopped _), .exited _ => True
  | .worker _ (.stopped _), .connection .. => True
  | .worker _ (.began _), _ => True
  | .worker _ (.ended ..), _ => True
  | .connection .., _ => True

/-- What the state says about the events so far. -/
structure Recorded (seen : List ProcessEvent) (p : Process) : Prop where
  ordered : seen.Pairwise MayFollow
  signalled
    : ∀ time, .signalled time ∈ seen → p.isCancelled = true ∧ p.main ≠ .waiting ∧ time ≤ p.now
  stopped
    : ∀ index time,
        .worker index (.stopped time) ∈ seen
        → p.isCancelled = true
          ∧ p.main ≠ .waiting
          ∧ ∃ worker, p.workers[index]? = some worker ∧ worker.pc = .stopped
  exited : ∀ time, .exited time ∈ seen → p.main = .exited
  waiting : p.isCancelled = true → p.main ≠ .waiting

/-- Where `main` stands after a signal. -/
def Joins (seen : List ProcessEvent) (p : Process) : Prop :=
  match p.main with
  | .waiting => True
  | .joining deadline next =>
      (∃ signal, .signalled signal ∈ seen ∧ deadline = signal + shutdownGrace)
      ∧ ∀ worker ∈ p.workers.take next, worker.pc = .stopped
  | .exited =>
      ∃ signal,
        .signalled signal ∈ seen
        ∧ ((∀ worker ∈ p.workers, worker.pc = .stopped) ∨ signal + shutdownGrace ≤ p.now)

section Recorded

variable {context : WorkerContext} {name : String} {limit start : Nat} {names : List String}
  {p next : Process} {seen events : List ProcessEvent}

theorem recorded_new : Recorded [] (new limit start names) where
  ordered := .nil
  signalled _ absent := absurd absent List.not_mem_nil
  stopped _ _ absent := absurd absent List.not_mem_nil
  exited _ absent := absurd absent List.not_mem_nil
  waiting absent := by cases absent

/-- What an event needs of the state to be shown after all the others. -/
structure Fits (p : Process) (event : ProcessEvent) : Prop where
  begins : ∀ index time, event = .worker index (.began time) → p.isCancelled = false
  signals : ∀ time, event = .signalled time → p.main = .waiting
  exits : ∀ time, event = .exited time → time = p.now
  works
    : ∀ index shown,
        event = .worker index shown
        → ∃ worker, p.workers[index]? = some worker ∧ worker.pc ≠ .stopped

/-- Such an event may follow all that a live process has shown. -/
theorem Recorded.follows {event : ProcessEvent} (recorded : Recorded seen p)
    (alive : p.main ≠ .exited) (fits : Fits p event)
    : ∀ earlier ∈ seen, MayFollow earlier event := by
  intro earlier listed
  cases earlier with
  | signalled signal =>
      obtain ⟨cancelled, taken, past⟩ := recorded.signalled signal listed
      cases event with
      | signalled time => exact absurd (fits.signals time rfl) taken
      | exited time => exact fits.exits time rfl ▸ past
      | worker index shown =>
          cases shown with
          | began time =>
              have going := fits.begins index time rfl
              rw [cancelled] at going
              cases going
          | ended | stopped => trivial
      | connection => trivial
  | exited time => exact absurd (recorded.exited time listed) alive
  | worker index shown =>
      cases shown with
      | began | ended => trivial
      | stopped time =>
          obtain ⟨-, taken, worker, found, stopped⟩ := recorded.stopped index time listed
          cases event with
          | signalled time => exact absurd (fits.signals time rfl) taken
          | exited | connection => trivial
          | worker other shown =>
              intro again
              obtain ⟨same, here, running⟩ := fits.works other shown rfl
              rw [again] at here
              obtain rfl := Option.some.inj (found.symm.trans here)
              exact running stopped
  | connection => trivial

/-- What is recorded lasts while the token stays cancelled, `main` does not go back and stopped
workers stay stopped; it is extended by what the step shows.
-/
theorem Recorded.extended (recorded : Recorded seen p) (alive : p.main ≠ .exited)
    (ordered : (seen ++ events).Pairwise MayFollow)
    (token : p.isCancelled = true → next.isCancelled = true)
    (waiting : next.isCancelled = true → next.main ≠ .waiting) (later : p.now ≤ next.now)
    (still
      : ∀ index : Nat,
          (∃ worker, p.workers[index]? = some worker ∧ worker.pc = .stopped)
          → ∃ worker, next.workers[index]? = some worker ∧ worker.pc = .stopped)
    (signalled
      : ∀ time, .signalled time ∈ events → next.isCancelled = true ∧ time ≤ next.now)
    (stopped
      : ∀ index time,
          ProcessEvent.worker index (.stopped time) ∈ events
          → next.isCancelled = true
            ∧ ∃ worker, next.workers[index]? = some worker ∧ worker.pc = .stopped)
    (exited : ∀ time, .exited time ∈ events → next.main = .exited)
    : Recorded (seen ++ events) next where
  ordered := ordered
  signalled time listed := by
    rcases List.mem_append.mp listed with older | new
    · obtain ⟨cancelled, -, past⟩ := recorded.signalled time older
      exact ⟨token cancelled, waiting (token cancelled), Nat.le_trans past later⟩
    · obtain ⟨cancelled, past⟩ := signalled time new
      exact ⟨cancelled, waiting cancelled, past⟩
  stopped index time listed := by
    rcases List.mem_append.mp listed with older | new
    · obtain ⟨cancelled, -, there⟩ := recorded.stopped index time older
      exact ⟨token cancelled, waiting (token cancelled), still index there⟩
    · obtain ⟨cancelled, there⟩ := stopped index time new
      exact ⟨cancelled, waiting cancelled, there⟩
  exited time listed := by
    rcases List.mem_append.mp listed with older | new
    · exact absurd (recorded.exited time older) alive
    · exact exited time new
  waiting := waiting

/-- A worker that has stopped takes no step, and its events fit. -/
theorem fits_of_worker {index : Nat} {worker after : Worker} {action : WorkerAction}
    {shown : List WorkerEvent} (found : p.workers[index]? = some worker)
    (stepped : worker.Stepped p.now p.isCancelled action after shown)
    : worker.pc ≠ .stopped ∧ ∀ event ∈ shown, Fits p (.worker index event) := by
  have running : worker.pc ≠ .stopped := by
    cases stepped with
    | begins here | stops here | connects here | wakes here | interrupted here =>
        rw [here]
        exact nofun
    | rests away =>
        rcases away with here | ⟨link, here⟩
        · rw [here]
          exact nofun
        · rw [here]
          exact nofun
  refine ⟨running, fun event listed => ?_⟩
  refine { begins := ?_, signals := nofun, exits := nofun, works := ?_ }
  · intro other time same
    cases same
    cases stepped with
    | begins idle going => exact going
    | stops | rests | interrupted => simp at listed
    | connects | wakes => cases listed
  · intro other shown same
    cases same
    exact ⟨worker, found, running⟩

/-- A step of a worker shows one event at most. -/
theorem length_shown_le {worker after : Worker} {now : Nat} {isCancelled : Bool}
    {action : WorkerAction} {shown : List WorkerEvent}
    (stepped : worker.Stepped now isCancelled action after shown)
    : shown.length ≤ 1 := by
  cases stepped with
  | begins | stops | rests | interrupted => exact Nat.le_refl _
  | connects | wakes => exact Nat.zero_le _

/-- The order of events is kept, by what the step shows. -/
theorem Recorded.ordered_of_step {action : ProcessAction} (recorded : Recorded seen p)
    (alive : p.main ≠ .exited) (stepped : Stepped context name p action next events)
    : (seen ++ events).Pairwise MayFollow := by
  have follows {event : ProcessEvent} (fits : Fits p event) := recorded.follows alive fits
  have single {event : ProcessEvent} (fits : Fits p event)
      : (seen ++ [event]).Pairwise MayFollow := by
    refine List.pairwise_append.mpr ⟨recorded.ordered, List.pairwise_singleton _ _, ?_⟩
    intro earlier listed other here
    obtain rfl := List.mem_singleton.mp here
    exact follows fits earlier listed
  cases stepped with
  | elapse | joins =>
      rw [List.append_nil]
      exact recorded.ordered
  | signal waiting =>
      exact single {
        begins := nofun, signals := fun _ _ => waiting, exits := nofun, works := nofun
      }
  | finishes | givesUp =>
      refine single { begins := nofun, signals := nofun, exits := ?_, works := nofun }
      intro time same
      cases same
      rfl
  | @worker index action worker after shown found admitted moved =>
      have steps := Worker.stepped_of_step moved
      have fits := (fits_of_worker found steps).2
      refine List.pairwise_append.mpr ⟨recorded.ordered, ?_, ?_⟩
      · rcases shown with _ | ⟨event, rest⟩
        · exact .nil
        · have alone : rest = [] := by
            have short := length_shown_le steps
            simpa using short
          subst alone
          exact List.pairwise_singleton _ _
      · intro earlier listed other here
        obtain ⟨event, among, rfl⟩ := List.mem_map.mp here
        exact follows (fits event among) earlier listed
  | @connection link action client shown sees moved =>
      refine List.pairwise_append.mpr ⟨recorded.ordered, ?_, ?_⟩
      · exact List.pairwise_map.mpr (List.pairwise_of_forall fun _ _ => trivial)
      · intro earlier listed other here
        obtain ⟨event, -, rfl⟩ := List.mem_map.mp here
        have fits : Fits p (.connection link event) :=
          { begins := nofun, signals := nofun, exits := nofun, works := nofun }
        exact follows fits earlier listed

/-- What was shown of a worker that has stopped stays true, whichever worker steps. -/
theorem stopped_of_set {index stopped : Nat} {worker after : Worker}
    (found : p.workers[index]? = some worker) (running : worker.pc ≠ .stopped)
    (before : ∃ worker, p.workers[stopped]? = some worker ∧ worker.pc = .stopped)
    : ∃ worker, (p.workers.set index after)[stopped]? = some worker ∧ worker.pc = .stopped := by
  obtain ⟨other, there, here⟩ := before
  have apart : index ≠ stopped := by
    intro same
    rw [same] at found
    obtain rfl := Option.some.inj (found.symm.trans there)
    exact running here
  exact ⟨other, by rw [List.getElem?_set_ne apart, there], here⟩

/-- A step of a worker shows that it has stopped only when the token is cancelled. -/
theorem stopped_of_shown {worker after : Worker} {now time : Nat} {isCancelled : Bool}
    {action : WorkerAction} {shown : List WorkerEvent}
    (stepped : worker.Stepped now isCancelled action after shown)
    (listed : .stopped time ∈ shown)
    : isCancelled = true ∧ after.pc = .stopped := by
  cases stepped with
  | stops idle past | interrupted idle past => exact ⟨past, rfl⟩
  | begins | rests => simp at listed
  | connects | wakes => cases listed

theorem Recorded.step {action : ProcessAction} (recorded : Recorded seen p)
    (taken : (processMachine context name).step p action = some (next, events))
    : Recorded (seen ++ events) next := by
  obtain ⟨alive, stepped⟩ := stepped_of_step taken
  have ordered := recorded.ordered_of_step alive stepped
  cases stepped with
  | elapse nanoseconds =>
      refine recorded.extended alive ordered id recorded.waiting (Nat.le_add_right _ _)
        (fun _ => id) ?_ ?_ ?_
      all_goals simp
  | signal waiting =>
      refine recorded.extended alive ordered (fun _ => rfl) nofun (Nat.le_refl _)
        (fun _ => id) ?_ ?_ ?_
      all_goals simp
  | joins joining found stopped =>
      refine recorded.extended alive ordered id nofun (Nat.le_refl _) (fun _ => id) ?_ ?_ ?_
      all_goals simp
  | finishes | givesUp =>
      refine recorded.extended alive ordered id nofun (Nat.le_refl _) (fun _ => id) ?_ ?_ ?_
      all_goals simp
  | @worker index action worker after shown found admitted moved =>
      have steps := Worker.stepped_of_step moved
      have running := (fits_of_worker found steps).1
      have within : index < p.workers.length := (List.getElem?_eq_some_iff.mp found).1
      refine recorded.extended alive ordered id recorded.waiting (Nat.le_refl _)
        (fun _ there => stopped_of_set found running there) ?_ ?_ ?_
      · simp
      · intro other time listed
        obtain ⟨event, among, same⟩ := List.mem_map.mp listed
        obtain ⟨rfl, rfl⟩ := ProcessEvent.worker.inj same
        obtain ⟨cancelled, stopped⟩ := stopped_of_shown steps among
        exact ⟨cancelled, after, by simp [within], stopped⟩
      · simp
  | connection sees moved =>
      refine recorded.extended alive ordered id recorded.waiting (Nat.le_refl _)
        (fun _ => id) ?_ ?_ ?_
      all_goals simp

end Recorded

-----------------------------------------------------------------------------------------
-- The return of `main`
-----------------------------------------------------------------------------------------

section Joins

variable {context : WorkerContext} {name : String} {p next : Process}
  {seen events : List ProcessEvent}

theorem Joins.step {action : ProcessAction} (joins : Joins seen p)
    (taken : (processMachine context name).step p action = some (next, events))
    : Joins (seen ++ events) next := by
  obtain ⟨alive, stepped⟩ := stepped_of_step taken
  have waits {deadline awaited : Nat} (joining : p.main = .joining deadline awaited)
      : (∃ signal, .signalled signal ∈ seen ∧ deadline = signal + shutdownGrace)
        ∧ ∀ worker ∈ p.workers.take awaited, worker.pc = .stopped := by
    rw [Joins, joining] at joins
    exact joins
  have longer {event : ProcessEvent} (listed : event ∈ seen) : event ∈ seen ++ events :=
    List.mem_append_left _ listed
  -- A step that keeps `main` keeps what it has joined.
  have kept (main : next.main = p.main)
      (still
        : ∀ deadline awaited,
            p.main = .joining deadline awaited
            → ∀ worker ∈ next.workers.take awaited, worker.pc = .stopped)
      : Joins (seen ++ events) next := by
    rw [Joins, main]
    cases here : p.main with
    | waiting => trivial
    | joining deadline awaited =>
        obtain ⟨⟨signal, listed, due⟩, -⟩ := waits here
        exact ⟨⟨signal, longer listed, due⟩, still deadline awaited here⟩
    | exited => exact absurd here alive
  cases stepped with
  | elapse | connection => exact kept rfl fun _ _ joining => (waits joining).2
  | signal waiting =>
      refine ⟨⟨p.now, by simp, rfl⟩, ?_⟩
      simp
  | @joins deadline awaited worker joining found stopped =>
      obtain ⟨⟨signal, listed, due⟩, before⟩ := waits joining
      refine ⟨⟨signal, longer listed, due⟩, ?_⟩
      intro other among
      rw [List.take_add_one, found] at among
      rcases List.mem_append.mp among with earlier | last
      · exact before other earlier
      · obtain rfl := List.mem_singleton.mp last
        exact stopped
  | @finishes deadline awaited joining all =>
      obtain ⟨⟨signal, listed, due⟩, before⟩ := waits joining
      rw [List.take_of_length_le all] at before
      exact ⟨signal, longer listed, .inl before⟩
  | @givesUp deadline awaited joining due =>
      obtain ⟨⟨signal, listed, rfl⟩, -⟩ := waits joining
      exact ⟨signal, longer listed, .inr due⟩
  | @worker index action worker after shown found admitted moved =>
      have running := (fits_of_worker found (Worker.stepped_of_step moved)).1
      refine kept rfl fun deadline awaited joining => ?_
      have before := (waits joining).2
      have later : awaited ≤ index := by
        refine Nat.le_of_not_lt fun earlier => running (before worker ?_)
        exact List.mem_iff_getElem?.mpr ⟨index, by rw [List.getElem?_take_of_lt earlier, found]⟩
      simp only [List.take_set_of_le later]
      exact before

end Joins

-----------------------------------------------------------------------------------------
-- Steps after the signal
-----------------------------------------------------------------------------------------

end Process

/-- The steps that a worker can still take once the token is cancelled. -/
def WorkerPc.remaining : WorkerPc → Nat
  | .connecting _ => 4
  | .connected .. => 3
  | .sleeping _ => 2
  | .checking => 1
  | .stopped => 0

theorem WorkerPc.remaining_le (pc : WorkerPc) : pc.remaining ≤ 4 := by
  cases pc <;> simp [remaining]

/-- Once the token is cancelled, every step of a worker brings it nearer to its end. -/
theorem Worker.Stepped.remaining_lt {now : Nat} {worker after : Worker} {action : WorkerAction}
    {shown : List WorkerEvent} (stepped : worker.Stepped now true action after shown)
    : after.pc.remaining < worker.pc.remaining := by
  cases stepped with
  | begins idle going => cases going
  | stops here | connects here | wakes here | interrupted here => simp [here, WorkerPc.remaining]
  | rests away =>
      rcases away with here | ⟨link, here⟩
      · simp [here, Worker.rest, WorkerPc.remaining]
      · simp [here, Worker.rest, WorkerPc.remaining]

namespace Process

/-- This transition is a step of one worker's loop with the token cancelled. -/
def isLastStep (index : Nat) (transition : Transition Process ProcessAction ProcessEvent) : Bool :=
  match transition.action with
  | .worker other _ => transition.before.isCancelled && other == index
  | .elapse _ | .signal | .join | .giveUp | .connection .. => false

/-- What one worker can still do. -/
def remaining (p : Process) (index : Nat) : Nat :=
  (p.workers[index]?.map fun worker => worker.pc.remaining).getD 0

theorem remaining_le (p : Process) (index : Nat) : p.remaining index ≤ 4 := by
  cases found : p.workers[index]? with
  | none => simp [remaining, found]
  | some worker => simpa [remaining, found] using worker.pc.remaining_le

/-- The steps of a worker with the token cancelled, taken and still possible. -/
structure Winding (index : Nat) (history : List (Transition Process ProcessAction ProcessEvent))
    (p : Process)
    : Prop where
  before : p.isCancelled = false → history.countP (isLastStep index) = 0
  most : history.countP (isLastStep index) + p.remaining index ≤ 4

section Winding

variable {context : WorkerContext} {name : String} {limit start : Nat} {names : List String}
  {history : List (Transition Process ProcessAction ProcessEvent)} {p next : Process}
  {events : List ProcessEvent} {index : Nat}

/-- One more transition, by whether it is a last step of the worker. -/
theorem Winding.concat {transition : Transition Process ProcessAction ProcessEvent}
    (winding : Winding index history transition.before)
    (last
      : isLastStep index transition = true
        → transition.before.isCancelled = true
          ∧ transition.after.isCancelled = true
          ∧ transition.after.remaining index < transition.before.remaining index)
    (quiet
      : isLastStep index transition = false
        → (transition.after.isCancelled = false → transition.before.isCancelled = false)
          ∧ (transition.before.isCancelled = true
            → transition.after.remaining index ≤ transition.before.remaining index))
    : Winding index (history ++ [transition]) transition.after := by
  obtain ⟨before, most⟩ := winding
  have counted
      : (history ++ [transition]).countP (isLastStep index)
        = history.countP (isLastStep index)
          + if isLastStep index transition = true then 1 else 0 := by
    rw [List.countP_append, List.countP_singleton]
  have possible := transition.after.remaining_le index
  cases here : isLastStep index transition with
  | true =>
      rw [here, if_pos rfl] at counted
      obtain ⟨-, token, fewer⟩ := last here
      refine { before := fun going => ?_, most := ?_ }
      · rw [token] at going
        cases going
      · rw [counted]
        omega
  | false =>
      rw [here, if_neg (by decide)] at counted
      obtain ⟨token, still⟩ := quiet here
      refine { before := fun going => counted.trans (before (token going)), most := ?_ }
      rw [counted]
      rcases Bool.eq_false_or_eq_true transition.before.isCancelled with past | going
      · have fewer := still past
        omega
      · have none := before going
        omega

theorem Winding.step {action : ProcessAction} (winding : Winding index history p)
    (taken : (processMachine context name).step p action = some (next, events))
    : Winding index (history ++ [⟨p, action, events, next⟩]) next := by
  obtain ⟨-, stepped⟩ := stepped_of_step taken
  cases stepped with
  | elapse | joins | finishes | givesUp | connection =>
      exact winding.concat nofun fun _ => ⟨id, fun _ => Nat.le_refl _⟩
  | signal => exact winding.concat nofun fun _ => ⟨nofun, fun _ => Nat.le_refl _⟩
  | @worker other action worker after shown found admitted moved =>
      have steps := Worker.stepped_of_step moved
      refine winding.concat ?_ ?_
      · intro here
        obtain ⟨token, same⟩ : p.isCancelled = true ∧ other = index := by
          simpa [isLastStep] using here
        subst same
        have within : other < p.workers.length := (List.getElem?_eq_some_iff.mp found).1
        rw [token] at steps
        refine ⟨token, token, ?_⟩
        have there : (p.workers.set other after)[other]? = some after := by simp [within]
        simp only [remaining, found, there, Option.map_some, Option.getD_some]
        exact steps.remaining_lt
      · intro here
        refine ⟨id, fun token => ?_⟩
        have apart : other ≠ index := by
          intro same
          simp only [isLastStep, Bool.and_eq_false_iff, beq_eq_false_iff_ne] at here
          rcases here with going | other
          · rw [token] at going
            cases going
          · exact other same
        simp [remaining, List.getElem?_set_ne apart]

theorem winding_of_run
    (run : (processMachine context name).Run (new limit start names) history p)
    : Winding index history p := by
  refine run.recorded (Winding index) ⟨fun _ => rfl, ?_⟩ fun _ winding taken => winding.step taken
  exact Nat.le_trans (Nat.le_of_eq (Nat.zero_add _)) (remaining_le _ _)

end Winding

-----------------------------------------------------------------------------------------
-- The shutdown
-----------------------------------------------------------------------------------------

/-- How a process shuts down: its events come in order, so that after the signal no attempt
begins and a worker that has stopped shows nothing more; `main` has returned only after a signal,
once all workers have stopped or the grace period is over; it never waits beyond that period; and
each worker takes four more steps of its loop at most.
-/
structure ShutsDown (history : List (Transition Process ProcessAction ProcessEvent)) (p : Process)
    : Prop where
  ordered : (Machine.eventsOf history).Pairwise MayFollow
  stopped
    : ∀ index time,
        .worker index (.stopped time) ∈ Machine.eventsOf history
        → ∃ signal, .signalled signal ∈ Machine.eventsOf history
  returns
    : p.main = .exited
      → ∃ signal,
          .signalled signal ∈ Machine.eventsOf history
          ∧ ((∀ worker ∈ p.workers, worker.pc = .stopped) ∨ signal + shutdownGrace ≤ p.now)
  goesOn
    : ∀ context name deadline next,
        p.main = .joining deadline next
        → deadline ≤ p.now ∨ (∀ worker ∈ p.workers, worker.pc = .stopped)
        → (p.step context name .join).isSome = true ∨ (p.step context name .giveUp).isSome = true
  most : ∀ index, history.countP (isLastStep index) ≤ 4

section ShutsDown

variable {context : WorkerContext} {name : String} {limit start : Nat} {names : List String}
  {history : List (Transition Process ProcessAction ProcessEvent)} {p : Process}

/-- Past the deadline, or when all workers have stopped, `main` has a step to take. -/
theorem goesOn_of_joining {deadline next : Nat} (joining : p.main = .joining deadline next)
    (due : deadline ≤ p.now ∨ ∀ worker ∈ p.workers, worker.pc = .stopped)
    : (p.step context name .join).isSome = true ∨ (p.step context name .giveUp).isSome = true := by
  cases found : p.workers[next]? with
  | none => simp [step, joining, found]
  | some worker =>
      by_cases stopped : worker.pc = .stopped
      · simp [step, joining, found, stopped]
      · have late : deadline ≤ p.now := by
          refine due.resolve_right fun all => stopped (all worker ?_)
          exact List.mem_of_getElem? found
        simp [step, joining, found, stopped, late]

/-- The token is cancelled by a signal only. -/
theorem signalled_of_cancelled
    (run : (processMachine context name).Run (new limit start names) history p)
    : p.isCancelled = true → ∃ signal, .signalled signal ∈ Machine.eventsOf history := by
  refine run.historyInvariant
    (fun seen p => p.isCancelled = true → ∃ signal, .signalled signal ∈ seen)
    (fun absent => by cases absent) ?_
  intro seen before action after events earlier taken past
  obtain ⟨-, stepped⟩ := stepped_of_step taken
  have older (same : after.isCancelled = before.isCancelled)
      : ∃ signal, .signalled signal ∈ seen ++ events := by
    obtain ⟨signal, listed⟩ := earlier (same ▸ past)
    exact ⟨signal, List.mem_append_left _ listed⟩
  cases stepped with
  | elapse | joins | finishes | givesUp | worker | connection => exact older rfl
  | signal => exact ⟨before.now, by simp⟩

/-- Every run of a process shuts down in this way. -/
theorem shutsDown_of_run
    (run : (processMachine context name).Run (new limit start names) history p)
    : ShutsDown history p := by
  have recorded := run.historyInvariant Recorded recorded_new Recorded.step
  have joins : Joins (Machine.eventsOf history) p := run.historyInvariant Joins trivial Joins.step
  refine { ordered := recorded.ordered, stopped := ?_, returns := ?_, goesOn := ?_, most := ?_ }
  · intro index time listed
    exact signalled_of_cancelled run (recorded.stopped index time listed).1
  · intro exited
    rw [Joins, exited] at joins
    exact joins
  · intro context name deadline next joining due
    exact goesOn_of_joining joining due
  · intro index
    exact Nat.le_trans (Nat.le_add_right _ _) (winding_of_run run).most

end ShutsDown

/-- One of two workers is in front of its connection when the signal comes, and `main` gives up
on it.
-/
def interrupted : List ProcessAction :=
  [.worker 0 .check, .worker 1 .check, .worker 1 (.returned 0), .signal, .worker 1 .cancelled,
    .worker 0 (.connected 0), .elapse shutdownGrace, .giveUp]

theorem shutsDown_of_run_interrupted
    : ∃ history p,
        exec (.bare 2) 64 ["first", "second"] interrupted = some (history, p)
        ∧ ShutsDown history p
        ∧ p.main = .exited
        ∧ p.workers.map Worker.pc = [.connected 0 0, .stopped] := by
  have passed
      : (exec (.bare 2) 64 ["first", "second"] interrupted).any (fun (_, p) =>
          p.main == .exited && p.workers.map Worker.pc == [.connected 0 0, .stopped])
        = true := by
    decide
  obtain ⟨history, p, executed, checked⟩ := Machine.exec_checked passed
  simp only [Bool.and_eq_true, beq_iff_eq] at checked
  exact ⟨history, p, executed, shutsDown_of_run (Machine.exec_run executed), checked⟩

end Process

end ProxyClient
