/-! Executable transition systems and the histories of their runs.
A machine names every nondeterministic choice in its actions, so one step is a function and
a run is the list of the transitions it took. Invariants, history invariants, and refinement
between two machines are each proved once here by induction over that list.
-/

namespace ProxyClient.Foundations

/-- An executable transition system. A disabled action has no result; an enabled one yields
the next state and the events an observer of the step sees.
-/
structure Machine (State Action Event : Type) where
  step : State → Action → Option (State × List Event)

/-- One step of a run, with the states around it. -/
structure Transition (State Action Event : Type) where
  before : State
  action : Action
  events : List Event
  after : State

namespace Machine

variable {State Action Event State' Action' Event' : Type}

/-- `m.Run start history state` says that the transitions of `history`, oldest first, lead
from `start` to `state`.
-/
inductive Run (m : Machine State Action Event) (start : State)
    : List (Transition State Action Event) → State → Prop
  | start : m.Run start [] start
  | step {history state action events next} (run : m.Run start history state)
    (taken : m.step state action = some (next, events))
    : m.Run start (history ++ [⟨state, action, events, next⟩]) next

/-- The events of a history, oldest first. -/
def eventsOf (history : List (Transition State Action Event)) : List Event :=
  history.flatMap Transition.events

/-- Every state on a history, its first one included. -/
def statesOf (start : State) (history : List (Transition State Action Event)) : List State :=
  start :: history.map Transition.after

@[simp] theorem eventsOf_nil : eventsOf ([] : List (Transition State Action Event)) = [] := rfl

@[simp] theorem eventsOf_append (left right : List (Transition State Action Event))
    : eventsOf (left ++ right) = eventsOf left ++ eventsOf right :=
  List.flatMap_append

@[simp] theorem eventsOf_singleton (transition : Transition State Action Event)
    : eventsOf [transition] = transition.events := by
  simp [eventsOf]

theorem statesOf_append (start : State) (history : List (Transition State Action Event))
    (transition : Transition State Action Event)
    : statesOf start (history ++ [transition])
      = statesOf start history ++ [transition.after] := by
  simp [statesOf]

section Runs

variable {m : Machine State Action Event} {start state : State}
  {history : List (Transition State Action Event)}

/-- A relation between the events so far and the current state holds after every run when it
holds at the start and each step keeps it. Witness: induction over the run.
-/
theorem Run.historyInvariant (run : m.Run start history state)
    (holds : List Event → State → Prop) (initially : holds [] start)
    (kept
      : ∀ {seen before action after events},
          holds seen before
          → m.step before action = some (after, events)
          → holds (seen ++ events) after)
    : holds (eventsOf history) state := by
  induction run with
  | start => exact initially
  | step _ taken ih => simpa only [eventsOf_append, eventsOf_singleton] using kept ih taken

/-- A relation between the transitions so far and the current state holds after every run when
it holds at the start and each step from a reachable state keeps it. Witness: induction over the
run.
-/
theorem Run.recorded (run : m.Run start history state)
    (holds : List (Transition State Action Event) → State → Prop) (initially : holds [] start)
    (kept
      : ∀ {earlier before action after events},
          m.Run start earlier before
          → holds earlier before
          → m.step before action = some (after, events)
          → holds (earlier ++ [⟨before, action, events, after⟩]) after)
    : holds history state := by
  induction run with
  | start => exact initially
  | step run taken ih => exact kept run ih taken

/-- A state property that every step keeps holds after every run. -/
theorem Run.invariant (run : m.Run start history state) (holds : State → Prop)
    (initially : holds start)
    (kept
      : ∀ {before action after events},
          holds before → m.step before action = some (after, events) → holds after)
    : holds state :=
  run.historyInvariant (fun _ state => holds state) initially kept

/-- A transition of a run is a step of the machine, from a state that the part of the run
before it reaches. Witness: induction over the run; the transition is its last one, or one of
the run before that.
-/
theorem Run.split {earlier later : List (Transition State Action Event)}
    {transition : Transition State Action Event}
    (run : m.Run start (earlier ++ transition :: later) state)
    : m.Run start earlier transition.before
      ∧ m.step transition.before transition.action
        = some (transition.after, transition.events) := by
  generalize same : earlier ++ transition :: later = history at run
  induction run generalizing later with
  | start => simp at same
  | @step history before action events next run taken ih =>
      rcases later.eq_nil_or_concat with rfl | ⟨rest, last, rfl⟩
      · obtain ⟨rfl, one⟩ := List.append_inj' same rfl
        obtain rfl := List.singleton_inj.mp one
        exact ⟨run, taken⟩
      · have longer
            : (earlier ++ transition :: rest) ++ [last]
              = history ++ [⟨before, action, events, next⟩] := by
          simpa using same
        exact ih (List.append_inj' longer rfl).1

/-- Every transition of a run is a step from a state that an initial part of it reaches. -/
theorem Run.transition_mem (run : m.Run start history state)
    {transition : Transition State Action Event} (member : transition ∈ history)
    : ∃ earlier rest,
        history = earlier ++ transition :: rest
        ∧ m.Run start earlier transition.before
        ∧ m.step transition.before transition.action
          = some (transition.after, transition.events) := by
  obtain ⟨earlier, rest, rfl⟩ := List.append_of_mem member
  exact ⟨earlier, rest, rfl, run.split⟩

/-- Every state on a run is reached by an initial part of it. -/
theorem Run.state_mem (run : m.Run start history state) {visited : State}
    (member : visited ∈ statesOf start history)
    : ∃ earlier rest, history = earlier ++ rest ∧ m.Run start earlier visited := by
  rcases List.mem_cons.mp member with rfl | later
  · exact ⟨[], history, rfl, .start⟩
  · obtain ⟨transition, inHistory, rfl⟩ := List.mem_map.mp later
    obtain ⟨earlier, rest, split, reached, taken⟩ := run.transition_mem inHistory
    exact ⟨earlier ++ [transition], rest, by simp [split], .step reached taken⟩

/-- The state a run ends in is one of its states. -/
theorem Run.last_mem (run : m.Run start history state) : state ∈ statesOf start history := by
  cases run with
  | start => exact List.mem_cons_self
  | step _ _ => simp [statesOf]

/-- So is the state before each of its transitions. -/
theorem Run.before_mem (run : m.Run start history state)
    {transition : Transition State Action Event} (member : transition ∈ history)
    : transition.before ∈ statesOf start history := by
  obtain ⟨earlier, rest, rfl, reached, -⟩ := run.transition_mem member
  rcases List.mem_cons.mp reached.last_mem with same | later
  · rw [same]
    exact List.mem_cons_self
  · refine List.mem_cons_of_mem _ ?_
    rw [List.map_append]
    exact List.mem_append_left _ later

/-- What holds at the start, and is kept by every allowed step from a reachable state, holds
in every state that a run of allowed steps visits. Witness: induction over the run.
-/
theorem Run.visited (run : m.Run start history state)
    (allowed : Transition State Action Event → Prop)
    (within : ∀ transition ∈ history, allowed transition) (holds : State → Prop)
    (initially : holds start)
    (kept
      : ∀ {earlier before action after events},
          m.Run start earlier before
          → holds before
          → m.step before action = some (after, events)
          → allowed ⟨before, action, events, after⟩
          → holds after)
    : ∀ visited ∈ statesOf start history, holds visited := by
  induction run with
  | start =>
      intro visited listed
      obtain rfl := List.mem_singleton.mp listed
      exact initially
  | @step history before action events next run taken ih =>
      have older := ih fun transition listed => within transition (List.mem_append_left _ listed)
      intro visited listed
      rw [statesOf_append] at listed
      rcases List.mem_append.mp listed with earlier | last
      · exact older visited earlier
      · obtain rfl := List.mem_singleton.mp last
        have admitted := within _ (List.mem_append_right _ (List.mem_singleton_self _))
        exact kept run (older before run.last_mem) taken admitted

/-- Runs compose. Witness: induction over the second run. -/
theorem Run.trans {middle finish : State} {more : List (Transition State Action Event)}
    (first : m.Run start history middle) (second : m.Run middle more finish)
    : m.Run start (history ++ more) finish := by
  induction second with
  | start => simpa using first
  | step _ taken ih => simpa only [List.append_assoc] using Run.step ih taken

/-- One step is a run. -/
theorem Run.single {next : State} {action : Action} {events : List Event}
    (taken : m.step state action = some (next, events))
    : m.Run state [⟨state, action, events, next⟩] next := by
  simpa using Run.step Run.start taken

end Runs

/-- The transitions a list of actions takes from `state`, when all of them are enabled. -/
def exec (m : Machine State Action Event)
    : State → List Action → Option (List (Transition State Action Event) × State)
  | state, [] => some ([], state)
  | state, action :: rest =>
      match m.step state action with
      | none => none
      | some (next, events) =>
          (m.exec next rest).map fun (history, final) =>
            (⟨state, action, events, next⟩ :: history, final)

/-- An executed list of actions is a run. Witness: induction over the actions, putting the
first transition in front of the run of the rest.
-/
theorem exec_run {m : Machine State Action Event} {start state : State}
    {actions : List Action} {history : List (Transition State Action Event)}
    (executed : m.exec start actions = some (history, state))
    : m.Run start history state := by
  induction actions generalizing start history with
  | nil =>
      simp only [exec, Option.some.injEq, Prod.mk.injEq] at executed
      obtain ⟨rfl, rfl⟩ := executed
      exact .start
  | cons action rest ih =>
      simp only [exec] at executed
      split at executed
      · exact absurd executed (by simp)
      · next next events taken =>
          obtain ⟨⟨later, final⟩, ran, same⟩ := Option.map_eq_some_iff.mp executed
          obtain ⟨rfl, rfl⟩ := Prod.mk.injEq .. ▸ same
          exact (Run.single taken).trans (ih ran)

/-- What a check of an executed list of actions says. -/
theorem exec_checked {m : Machine State Action Event} {start : State} {actions : List Action}
    {check : List (Transition State Action Event) × State → Bool}
    (passed : (m.exec start actions).any check = true)
    : ∃ history state,
        m.exec start actions = some (history, state) ∧ check (history, state) = true := by
  obtain ⟨⟨history, state⟩, executed, checked⟩ := (Option.any_eq_true _ _).mp passed
  exact ⟨history, state, executed, checked⟩

/-- Refinement: when every reachable step of `m` is matched by a run of `abstract` between
the abstracted states, and both show an observer the same, every run of `m` is matched by a
run of `abstract`. Witness: induction over the run, composing the matching runs.
-/
theorem Run.refines {Observed : Type} {m : Machine State Action Event}
    {abstract : Machine State' Action' Event'} {start state : State}
    {history : List (Transition State Action Event)} (view : State → State')
    (observe : Event → Option Observed) (observe' : Event' → Option Observed)
    (run : m.Run start history state)
    (matched
      : ∀ {earlier before action after events},
          m.Run start earlier before
          → m.step before action = some (after, events)
          → ∃ matching,
              abstract.Run (view before) matching (view after)
              ∧ (eventsOf matching).filterMap observe' = events.filterMap observe)
    : ∃ matching,
        abstract.Run (view start) matching (view state)
        ∧ (eventsOf matching).filterMap observe' = (eventsOf history).filterMap observe := by
  induction run with
  | start => exact ⟨[], .start, rfl⟩
  | step run taken ih =>
      obtain ⟨before, earlier, seen⟩ := ih
      obtain ⟨next, last, observed⟩ := matched run taken
      refine ⟨before ++ next, earlier.trans last, ?_⟩
      simp only [eventsOf_append, eventsOf_singleton, List.filterMap_append, seen, observed]

/-- Simulation: refinement before an observer to whom nothing is shown. -/
theorem Run.simulated {m : Machine State Action Event} {abstract : Machine State' Action' Event'}
    {start state : State} {history : List (Transition State Action Event)}
    (view : State → State') (run : m.Run start history state)
    (matched
      : ∀ {earlier before action after events},
          m.Run start earlier before
          → m.step before action = some (after, events)
          → ∃ matching, abstract.Run (view before) matching (view after))
    : ∃ matching, abstract.Run (view start) matching (view state) := by
  have nothing {Shown : Type} (events : List Shown)
      : events.filterMap (fun _ => (none : Option Empty)) = [] :=
    List.filterMap_eq_nil_iff.mpr fun _ _ => rfl
  have unseen {earlier before action after events} (reached : m.Run start earlier before)
      (taken : m.step before action = some (after, events))
      : ∃ matching,
          abstract.Run (view before) matching (view after)
          ∧ (eventsOf matching).filterMap (fun _ => (none : Option Empty))
            = events.filterMap (fun _ => none) := by
    obtain ⟨matching, steps⟩ := matched reached taken
    exact ⟨matching, steps, (nothing _).trans (nothing _).symm⟩
  obtain ⟨matching, simulated, -⟩ := run.refines view _ _ unseen
  exact ⟨matching, simulated⟩

end Machine

end ProxyClient.Foundations
