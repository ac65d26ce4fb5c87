import ProxyClient.Worker.Process

/-! How the workers of a process pace their attempts to connect.
A run of the process is a run of each of its workers, so that what holds of the loop by itself
holds of every worker, whatever its connections and the other workers do.
-/

namespace ProxyClient

open Foundations

namespace Process

-----------------------------------------------------------------------------------------
-- Each worker by itself
-----------------------------------------------------------------------------------------

/-- What a process shows of one of its workers. -/
def workerEvent? (index : Nat) : ProcessEvent → Option WorkerEvent
  | .worker other event => if other = index then some event else none
  | .signalled _ | .exited _ | .connection .. => none

/-- The events of one worker. -/
def workerEvents (index : Nat) (events : List ProcessEvent) : List WorkerEvent :=
  events.filterMap (workerEvent? index)

/-- One worker of a process with what it sees of it. -/
def clocked (p : Process) (index : Nat) : ClockedWorker :=
  { now := p.now, isCancelled := p.isCancelled, worker := p.workers[index]?.getD (.new "") }

section Clocked

variable {context : WorkerContext} {name : String} {limit start : Nat} {names : List String}
  {history : List (Transition Process ProcessAction ProcessEvent)} {p : Process} {index : Nat}
  {workerName : String}

/-- A run of the process is a run of each of its workers, with the events that it shows of it. -/
theorem clocked_of_run
    (run : (processMachine context name).Run (new limit start names) history p)
    (found : names[index]? = some workerName)
    : ∃ matching,
        workerMachine.Run ⟨start, false, .new workerName⟩ matching (p.clocked index)
        ∧ Machine.eventsOf matching = workerEvents index (Machine.eventsOf history) := by
  have begins : (new limit start names).clocked index = ⟨start, false, .new workerName⟩ := by
    simp [clocked, new, found]
  have matched
      : ∃ matching,
          workerMachine.Run ((new limit start names).clocked index) matching (p.clocked index)
          ∧ (Machine.eventsOf matching).filterMap some
            = (Machine.eventsOf history).filterMap (workerEvent? index) := by
    refine run.refines (fun p => p.clocked index) (workerEvent? index) some ?_
    intro earlier before action after events _ taken
    obtain ⟨-, stepped⟩ := stepped_of_step taken
    cases stepped with
    | elapse nanoseconds =>
        have ticks
            : workerMachine.step (before.clocked index) (.elapse nanoseconds)
              = some (clocked { before with now := before.now + nanoseconds } index, []) :=
          rfl
        exact ⟨_, .single ticks, rfl⟩
    | signal =>
        have cancels
            : workerMachine.step (before.clocked index) .cancel
              = some ({ before.clocked index with isCancelled := true }, []) :=
          rfl
        exact ⟨_, .single cancels, rfl⟩
    | joins | finishes | givesUp => exact ⟨[], .start, rfl⟩
    | @worker other action worker next shown there admitted moved =>
        by_cases same : other = index
        · subst same
          have within : other < before.workers.length := (List.getElem?_eq_some_iff.mp there).1
          have here : (before.clocked other).worker = worker := by simp [clocked, there]
          have moves
              : workerMachine.step (before.clocked other) (.worker action)
                = some ({ before.clocked other with worker := next }, shown) := by
            simp only [workerMachine, here]
            rw [clocked, moved]
            rfl
          have view
              : clocked
                  { before with
                    workers := before.workers.set other next
                    client := before.opened context name worker action }
                  other
                = { before.clocked other with worker := next } := by
            simp [clocked, within]
          rw [view]
          refine ⟨_, .single moves, ?_⟩
          simp [List.filterMap_map, Function.comp_def, workerEvent?]
        · have view
              : clocked
                  { before with
                    workers := before.workers.set other next
                    client := before.opened context name worker action }
                  index
                = before.clocked index := by
            simp [clocked, List.getElem?_set_ne same]
          rw [view]
          refine ⟨[], .start, ?_⟩
          simp [List.filterMap_map, Function.comp_def, workerEvent?, same]
    | connection =>
        refine ⟨[], .start, ?_⟩
        simp [List.filterMap_map, Function.comp_def, workerEvent?]
  rw [begins] at matched
  simpa [workerEvents] using matched

end Clocked

-----------------------------------------------------------------------------------------
-- Pacing
-----------------------------------------------------------------------------------------

/-- How a worker of a process paces its attempts: the delay after a connection is half of the base
for the quick failures in a row at least and that base at most, the next attempt waits for it, and
any stretch of time has two attempts for each second at most, and one more. The counter of quick
failures is exact for as long as its 32 bits can hold what that admits.
-/
structure Backoff (start : Nat) (events : List WorkerEvent) (p : Process) (index : Nat)
    : Prop where
  delays
    : ∀ earlier started time delay later,
        events = earlier ++ .ended started time delay :: later
        → reconnectBase (.ofNat (streak (earlier ++ [.ended started time delay]))) ≤ 2 * delay
          ∧ delay ≤ reconnectBase (.ofNat (streak (earlier ++ [.ended started time delay])))
  waits
    : ∀ earlier started time delay later,
        events = earlier ++ .ended started time delay :: later
        → ∀ began, .began began ∈ later → time + delay ≤ began
  rate
    : ∀ first last,
        ((attempts events).filter fun time => first ≤ time && time ≤ last).length * (second / 2)
        ≤ last - first + second / 2
  counter
    : ∀ worker,
        p.workers[index]? = some worker → worker.quickFailures = .ofNat (streak events)
  counted : streak events * (second / 2) ≤ p.now - start + second / 2

/-- Every worker of a process backs off, however its connections end and whatever else happens. -/
theorem backsOff_of_run {context : WorkerContext} {name : String} {limit start : Nat}
    {names : List String} {history : List (Transition Process ProcessAction ProcessEvent)}
    {p : Process} {index : Nat}
    (run : (processMachine context name).Run (new limit start names) history p)
    (worker : index < names.length)
    : Backoff start (workerEvents index (Machine.eventsOf history)) p index := by
  obtain ⟨matching, clocked, same⟩ := clocked_of_run run (List.getElem?_eq_getElem worker)
  have paced := ClockedWorker.paced_of_run clocked
  have dated := ClockedWorker.dated_of_run clocked
  rw [same] at paced dated
  refine { delays := ?_, waits := ?_, rate := ?_, counter := ?_, counted := ?_ }
  · intro earlier started time delay later split
    obtain ⟨uuid, drawn⟩ := paced.backsOff.delays _ _ _ split
    have bounds := reconnectDelay_bounds
      (.ofNat (streak (earlier ++ [.ended started time delay]))) (randomFraction uuid)
    rwa [← drawn] at bounds
  · intro earlier started time delay later split began listed
    obtain ⟨middle, rest, rfl⟩ := List.append_of_mem listed
    have again
        : workerEvents index (Machine.eventsOf history)
          = (earlier ++ .ended started time delay :: middle) ++ .began began :: rest := by
      rw [split]
      simp
    exact paced.backsOff.waits _ _ _ again (.ended started time delay) (by simp)
  · intro first last
    have window := paced.backsOff.spaced.window fun time => first ≤ time && time ≤ last
    refine window.fits ?_ ?_
    · intro time listed
      exact (by simpa using (List.mem_filter.mp listed).2 : first ≤ time ∧ time ≤ last).1
    · intro time listed
      exact (by simpa using (List.mem_filter.mp listed).2 : first ≤ time ∧ time ≤ last).2
  · intro worker found
    have counted := paced.counted
    simpa [Process.clocked, found] using counted
  · exact dated.streak_le paced.backsOff

/-- A worker whose first attempt fails at once and whose second is half a second later. -/
def failsTwice : List ProcessAction :=
  [.worker 0 .check, .worker 0 (.returned 0), .elapse (second / 2), .worker 0 .wake,
    .worker 0 .check, .worker 0 (.returned 0)]

theorem backsOff_of_run_failsTwice
    : ∃ history p,
        exec (.bare 2) 64 ["first"] failsTwice = some (history, p)
        ∧ Backoff 0 (workerEvents 0 (Machine.eventsOf history)) p 0
        ∧ workerEvents 0 (Machine.eventsOf history)
          = [.began 0, .ended 0 0 (second / 2), .began (second / 2),
              .ended (second / 2) (second / 2) second] := by
  have passed
      : (exec (.bare 2) 64 ["first"] failsTwice).any (fun (history, _) =>
          workerEvents 0 (Machine.eventsOf history)
            == [.began 0, .ended 0 0 (second / 2), .began (second / 2),
              .ended (second / 2) (second / 2) second])
        = true := by
    decide
  obtain ⟨history, p, executed, checked⟩ := Machine.exec_checked passed
  exact ⟨history, p, executed, backsOff_of_run (Machine.exec_run executed) (by decide),
    by simpa using checked⟩

end Process

end ProxyClient
