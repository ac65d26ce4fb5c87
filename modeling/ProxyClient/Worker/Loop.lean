import ProxyClient.Foundations.Machine
import ProxyClient.Foundations.Times
import ProxyClient.Worker.Backoff

/-! The loop of `run_worker`: attempts to connect and the delays between them.
A connection is seen from outside here: it begins, it may become a session, and it ends.
-/

namespace ProxyClient

open Foundations

/-- Where `run_worker` stands. -/
inductive WorkerPc
  /-- At the condition of its loop. -/
  | checking
  /-- In `run_connection`, in front of the session. -/
  | connecting (started : Nat)
  /-- In the session of a connection. -/
  | connected (started link : Nat)
  | sleeping (wakes : Nat)
  | stopped
deriving DecidableEq, Repr

/-- A worker. `quick_failures` is a `u32` that wraps where overflow is not checked. -/
structure Worker where
  name : String
  pc : WorkerPc
  quickFailures : UInt32
deriving DecidableEq, Repr

inductive WorkerAction
  /-- The condition of the loop is evaluated. -/
  | check
  /-- `run_connection` starts the session of a new connection. -/
  | connected (link : Nat)
  /-- `run_connection` has returned; the jitter is drawn from a random UUID. -/
  | returned (uuid : BitVec 128)
  /-- The delay is over. -/
  | wake
  /-- The delay is cut short. -/
  | cancelled

/-- What a worker does to its network. -/
inductive WorkerEvent
  | began (time : Nat)
  | ended (started time delay : Nat)
  | stopped (time : Nat)
deriving DecidableEq, Repr

namespace Worker

/-- A worker in front of its first attempt. -/
def new (name : String) : Worker := { name, pc := .checking, quickFailures := 0 }

/-- The connection whose session a worker is in. -/
def link? (worker : Worker) : Option Nat :=
  match worker.pc with
  | .connected _ link => some link
  | .checking | .connecting _ | .sleeping _ | .stopped => none

/-- `quick_failures` after a connection: a stable one resets it. -/
def failuresAfter (worker : Worker) (started now : Nat) : UInt32 :=
  if stableConnection ≤ now - started then 0 else worker.quickFailures + 1

/-- The delay after a connection. -/
def delayAfter (worker : Worker) (started now : Nat) (uuid : BitVec 128) : Nat :=
  reconnectDelay (worker.failuresAfter started now) (randomFraction uuid)

/-- `run_worker` after a connection has ended. -/
def rest (worker : Worker) (started now : Nat) (uuid : BitVec 128) : Worker :=
  { worker with
    pc := .sleeping (now + worker.delayAfter started now uuid)
    quickFailures := worker.failuresAfter started now }

/-- A step of `run_worker`, at a time and with a token that is cancelled or not. -/
def step (now : Nat) (isCancelled : Bool) (worker : Worker)
    : WorkerAction → Option (Worker × List WorkerEvent)
  | .check =>
      match worker.pc with
      | .checking =>
          if isCancelled then some ({ worker with pc := .stopped }, [.stopped now])
          else some ({ worker with pc := .connecting now }, [.began now])
      | .connecting _ | .connected .. | .sleeping _ | .stopped => none
  | .connected link =>
      match worker.pc with
      | .connecting started => some ({ worker with pc := .connected started link }, [])
      | .checking | .connected .. | .sleeping _ | .stopped => none
  | .returned uuid =>
      match worker.pc with
      | .connecting started | .connected started _ =>
          some (worker.rest started now uuid,
            [.ended started now (worker.delayAfter started now uuid)])
      | .checking | .sleeping _ | .stopped => none
  | .wake =>
      match worker.pc with
      | .sleeping wakes =>
          if wakes ≤ now then some ({ worker with pc := .checking }, []) else none
      | .checking | .connecting _ | .connected .. | .stopped => none
  | .cancelled =>
      match worker.pc with
      | .sleeping _ =>
          if isCancelled then some ({ worker with pc := .stopped }, [.stopped now]) else none
      | .checking | .connecting _ | .connected .. | .stopped => none

/-- How a step goes, with everything that it changes. -/
inductive Stepped (now : Nat) (isCancelled : Bool) (worker : Worker)
    : WorkerAction → Worker → List WorkerEvent → Prop
  | begins (idle : worker.pc = .checking) (going : isCancelled = false)
    : Stepped now isCancelled worker .check { worker with pc := .connecting now } [.began now]
  | stops (idle : worker.pc = .checking) (past : isCancelled = true)
    : Stepped now isCancelled worker .check { worker with pc := .stopped } [.stopped now]
  | connects {started link} (connecting : worker.pc = .connecting started)
    : Stepped now isCancelled worker (.connected link)
        { worker with pc := .connected started link } []
  | rests {started uuid}
    (away
      : worker.pc = .connecting started ∨ ∃ link, worker.pc = .connected started link)
    : Stepped now isCancelled worker (.returned uuid) (worker.rest started now uuid)
        [.ended started now (worker.delayAfter started now uuid)]
  | wakes {wakes} (sleeping : worker.pc = .sleeping wakes) (due : wakes ≤ now)
    : Stepped now isCancelled worker .wake { worker with pc := .checking } []
  | interrupted {wakes} (sleeping : worker.pc = .sleeping wakes) (past : isCancelled = true)
    : Stepped now isCancelled worker .cancelled { worker with pc := .stopped } [.stopped now]

theorem stepped_of_step {now : Nat} {isCancelled : Bool} {worker next : Worker}
    {action : WorkerAction} {events : List WorkerEvent}
    (taken : worker.step now isCancelled action = some (next, events))
    : Stepped now isCancelled worker action next events := by
  cases action with
  | check =>
      cases here : worker.pc with
      | checking =>
          cases isCancelled with
          | true =>
              simp only [step, here, if_true, Option.some.injEq, Prod.mk.injEq] at taken
              obtain ⟨rfl, rfl⟩ := taken
              exact .stops here rfl
          | false =>
              simp only [step, here, Bool.false_eq_true, if_false, Option.some.injEq,
                Prod.mk.injEq] at taken
              obtain ⟨rfl, rfl⟩ := taken
              exact .begins here rfl
      | connecting | connected | sleeping | stopped => simp [step, here] at taken
  | connected link =>
      cases here : worker.pc with
      | connecting started =>
          simp only [step, here, Option.some.injEq, Prod.mk.injEq] at taken
          obtain ⟨rfl, rfl⟩ := taken
          exact .connects here
      | checking | connected | sleeping | stopped => simp [step, here] at taken
  | returned uuid =>
      cases here : worker.pc with
      | connecting started =>
          simp only [step, here, Option.some.injEq, Prod.mk.injEq] at taken
          obtain ⟨rfl, rfl⟩ := taken
          exact .rests (.inl here)
      | connected started link =>
          simp only [step, here, Option.some.injEq, Prod.mk.injEq] at taken
          obtain ⟨rfl, rfl⟩ := taken
          exact .rests (.inr ⟨link, here⟩)
      | checking | sleeping | stopped => simp [step, here] at taken
  | wake =>
      cases here : worker.pc with
      | sleeping wakes =>
          simp only [step, here] at taken
          split at taken
          · next due =>
              obtain ⟨rfl, rfl⟩ := Prod.mk.inj (Option.some.inj taken)
              exact .wakes here due
          · cases taken
      | checking | connecting | connected | stopped => simp [step, here] at taken
  | cancelled =>
      cases here : worker.pc with
      | sleeping wakes =>
          simp only [step, here] at taken
          split at taken
          · next past =>
              obtain ⟨rfl, rfl⟩ := Prod.mk.inj (Option.some.inj taken)
              exact .interrupted here past
          · cases taken
      | checking | connecting | connected | stopped => simp [step, here] at taken

end Worker

-----------------------------------------------------------------------------------------
-- Pacing
-----------------------------------------------------------------------------------------

/-- The quick failures in a row after one more event. -/
def WorkerEvent.failures (earlier : Nat) : WorkerEvent → Nat
  | .began _ | .stopped _ => earlier
  | .ended started time _ => if stableConnection ≤ time - started then 0 else earlier + 1

/-- The quick failures since the last stable connection. -/
def streak (events : List WorkerEvent) : Nat := events.foldl WorkerEvent.failures 0

def WorkerEvent.began? : WorkerEvent → Option Nat
  | .began time => some time
  | .ended .. | .stopped _ => none

/-- The times at which attempts began. -/
def attempts (events : List WorkerEvent) : List Nat := events.filterMap WorkerEvent.began?

@[simp] theorem attempts_append (left right : List WorkerEvent)
    : attempts (left ++ right) = attempts left ++ attempts right :=
  List.filterMap_append

@[simp] theorem streak_concat (events : List WorkerEvent) (event : WorkerEvent)
    : streak (events ++ [event]) = event.failures (streak events) := by
  simp [streak]

/-- The delay after the last event is drawn as its streak says. -/
def WorkerEvent.Delays (earlier : List WorkerEvent) : WorkerEvent → Prop
  | .began _ | .stopped _ => True
  | .ended started time delay =>
      ∃ uuid,
        delay
        = reconnectDelay (.ofNat (streak (earlier ++ [.ended started time delay])))
            (randomFraction uuid)

/-- An attempt begins only after all the delays before it. -/
def WorkerEvent.Waits (time : Nat) : WorkerEvent → Prop
  | .began _ | .stopped _ => True
  | .ended _ past delay => past + delay ≤ time

/-- A worker backs off: each delay is drawn for the quick failures in a row, no attempt begins
before the delays that precede it are over, and attempts are half a second apart.
-/
structure BacksOff (events : List WorkerEvent) : Prop where
  delays : ∀ earlier event later, events = earlier ++ event :: later → event.Delays earlier
  waits
    : ∀ earlier time later,
        events = earlier ++ .began time :: later → ∀ event ∈ earlier, event.Waits time
  spaced : Spaced (second / 2) (attempts events)

section BacksOff

variable {events : List WorkerEvent} {event : WorkerEvent}

theorem backsOff_nil : BacksOff [] where
  delays earlier _ _ same := by simp at same
  waits earlier _ _ same := by simp at same
  spaced := spaced_nil

/-- An event after all the others. -/
theorem BacksOff.concat (backsOff : BacksOff events) (delays : event.Delays events)
    (waits : ∀ time, event = .began time → ∀ earlier ∈ events, earlier.Waits time)
    (spaced
      : ∀ time, event = .began time → ∀ earlier ∈ attempts events, earlier + second / 2 ≤ time)
    : BacksOff (events ++ [event]) where
  delays earlier here later same := by
    rcases later.eq_nil_or_concat with rfl | ⟨front, last, rfl⟩
    · obtain ⟨rfl, one⟩ := List.append_inj' same rfl
      obtain rfl := List.singleton_inj.mp one
      exact delays
    · have longer : events ++ [event] = (earlier ++ here :: front) ++ [last] := by
        simpa using same
      exact backsOff.delays earlier here front (List.append_inj' longer rfl).1
  waits earlier time later same := by
    rcases later.eq_nil_or_concat with rfl | ⟨front, last, rfl⟩
    · obtain ⟨rfl, one⟩ := List.append_inj' same rfl
      exact waits time (List.singleton_inj.mp one)
    · have longer : events ++ [event] = (earlier ++ .began time :: front) ++ [last] := by
        simpa using same
      exact backsOff.waits earlier time front (List.append_inj' longer rfl).1
  spaced := by
    cases event with
    | began time =>
        rw [attempts_append]
        exact backsOff.spaced.concat (spaced time rfl)
    | ended | stopped =>
        rw [attempts_append]
        exact (List.append_nil (attempts events)).symm ▸ backsOff.spaced

end BacksOff

-----------------------------------------------------------------------------------------
-- Runs
-----------------------------------------------------------------------------------------

/-- A worker with the clock and the token that it sees. -/
structure ClockedWorker where
  now : Nat
  isCancelled : Bool
  worker : Worker

inductive ClockedWorkerAction
  | elapse (nanoseconds : Nat)
  | cancel
  | worker (action : WorkerAction)

/-- A worker by itself: the clock only grows, and the token stays cancelled. -/
def workerMachine : Machine ClockedWorker ClockedWorkerAction WorkerEvent where
  step := fun w action =>
    match action with
    | .elapse nanoseconds => some ({ w with now := w.now + nanoseconds }, [])
    | .cancel => some ({ w with isCancelled := true }, [])
    | .worker action =>
        (w.worker.step w.now w.isCancelled action).map fun (worker, events) =>
          ({ w with worker }, events)

namespace ClockedWorker

/-- What the place in the loop says about the events so far. -/
def Placed (events : List WorkerEvent) (now : Nat) : WorkerPc → Prop
  | .checking =>
      (∀ event ∈ events, event.Waits now) ∧ ∀ began ∈ attempts events, began + second / 2 ≤ now
  | .connecting started | .connected started _ =>
      started ≤ now
      ∧ (∀ event ∈ events, event.Waits started)
      ∧ ∀ began ∈ attempts events, began ≤ started
  | .sleeping wakes =>
      (∀ event ∈ events, event.Waits wakes)
      ∧ ∀ began ∈ attempts events, began + second / 2 ≤ wakes
  | .stopped => True

/-- The events of a worker agree with its state. -/
structure Paced (events : List WorkerEvent) (w : ClockedWorker) : Prop where
  backsOff : BacksOff events
  counted : w.worker.quickFailures = .ofNat (streak events)
  placed : Placed events w.now w.worker.pc

section Paced

variable {events shown : List WorkerEvent} {w next : ClockedWorker} {now later : Nat}
  {pc : WorkerPc}

/-- Delays that are over stay over. -/
theorem waits_mono {event : WorkerEvent} (waits : event.Waits now) (grown : now ≤ later)
    : event.Waits later := by
  cases event with
  | began | stopped => trivial
  | ended started time delay => exact Nat.le_trans waits grown

theorem Placed.elapse (placed : Placed events now pc) (grown : now ≤ later)
    : Placed events later pc := by
  cases pc with
  | checking =>
      obtain ⟨waits, spaced⟩ := placed
      exact ⟨fun event listed => waits_mono (waits event listed) grown,
        fun began listed => Nat.le_trans (spaced began listed) grown⟩
  | connecting started | connected started link =>
      obtain ⟨past, rest⟩ := placed
      exact ⟨Nat.le_trans past grown, rest⟩
  | sleeping | stopped => exact placed

theorem paced_new (name : String) (now : Nat) : Paced [] ⟨now, false, .new name⟩ where
  backsOff := backsOff_nil
  counted := rfl
  placed := ⟨fun _ absent => absurd absent List.not_mem_nil,
    fun _ absent => absurd absent List.not_mem_nil⟩

/-- A step of the worker, by the cases of its loop. -/
theorem Paced.worker {worker : Worker} {action : WorkerAction} (paced : Paced events w)
    (stepped : w.worker.Stepped w.now w.isCancelled action worker shown)
    : Paced (events ++ shown) { w with worker } := by
  obtain ⟨backsOff, counted, placed⟩ := paced
  cases stepped with
  | begins idle going =>
      rw [idle] at placed
      obtain ⟨waits, spaced⟩ := placed
      refine { backsOff := ?_, counted := ?_, placed := ?_ }
      · refine backsOff.concat trivial ?_ ?_
        · intro time same
          cases same
          exact waits
        · intro time same
          cases same
          exact spaced
      · rw [streak_concat]
        exact counted
      · refine ⟨Nat.le_refl _, ?_, ?_⟩
        · intro event listed
          rcases List.mem_append.mp listed with older | new
          · exact waits event older
          · obtain rfl := List.mem_singleton.mp new
            trivial
        · intro began listed
          rw [attempts_append] at listed
          rcases List.mem_append.mp listed with older | new
          · exact Nat.le_trans (Nat.le_add_right _ _) (spaced began older)
          · obtain rfl := List.mem_singleton.mp new
            exact Nat.le_refl _
  | stops | interrupted =>
      refine { backsOff := ?_, counted := ?_, placed := trivial }
      · exact backsOff.concat trivial (fun _ absent => nomatch absent)
          (fun _ absent => nomatch absent)
      · rw [streak_concat]
        exact counted
  | connects connecting =>
      rw [connecting] at placed
      rw [List.append_nil]
      exact { backsOff, counted, placed }
  | @rests started uuid away =>
      have there
          : started ≤ w.now
            ∧ (∀ event ∈ events, event.Waits started)
            ∧ ∀ began ∈ attempts events, began ≤ started := by
        rcases away with here | ⟨link, here⟩
        · rwa [here] at placed
        · rwa [here] at placed
      obtain ⟨past, waits, spaced⟩ := there
      have failures
          : w.worker.failuresAfter started w.now
            = .ofNat (streak (events
              ++ [.ended started w.now (w.worker.delayAfter started w.now uuid)])) := by
        rw [streak_concat, Worker.failuresAfter, WorkerEvent.failures]
        split
        · rfl
        · rw [counted, UInt32.ofNat_add]
          rfl
      refine { backsOff := ?_, counted := failures, placed := ?_ }
      · refine backsOff.concat ⟨uuid, ?_⟩ (fun _ absent => nomatch absent)
          (fun _ absent => nomatch absent)
        rw [← failures]
        rfl
      · have half : second / 2 ≤ w.worker.delayAfter started w.now uuid := by
          have least := reconnectDelay_ge (w.worker.failuresAfter started w.now)
            (randomFraction uuid)
          unfold Worker.delayAfter
          omega
        constructor
        · intro event listed
          rcases List.mem_append.mp listed with older | new
          · exact waits_mono (waits event older) (Nat.le_trans past (Nat.le_add_right _ _))
          · obtain rfl := List.mem_singleton.mp new
            exact Nat.le_refl _
        · intro began listed
          rw [attempts_append] at listed
          rcases List.mem_append.mp listed with older | new
          · have before := spaced began older
            exact Nat.add_le_add (Nat.le_trans before past) half
          · cases new
  | wakes sleeping due =>
      rw [sleeping] at placed
      rw [List.append_nil]
      obtain ⟨waits, spaced⟩ := placed
      exact {
        backsOff
        counted
        placed := ⟨fun event listed => waits_mono (waits event listed) due,
          fun began listed => Nat.le_trans (spaced began listed) due⟩
      }

theorem Paced.step {action : ClockedWorkerAction} (paced : Paced events w)
    (taken : workerMachine.step w action = some (next, shown))
    : Paced (events ++ shown) next := by
  cases action with
  | elapse nanoseconds =>
      obtain ⟨rfl, rfl⟩ := Prod.mk.inj (Option.some.inj taken)
      rw [List.append_nil]
      exact { paced with placed := paced.placed.elapse (Nat.le_add_right _ _) }
  | cancel =>
      obtain ⟨rfl, rfl⟩ := Prod.mk.inj (Option.some.inj taken)
      rw [List.append_nil]
      exact { paced with }
  | worker action =>
      obtain ⟨⟨worker, events⟩, stepped, same⟩ := Option.map_eq_some_iff.mp taken
      obtain ⟨rfl, rfl⟩ := Prod.mk.inj same
      exact paced.worker (Worker.stepped_of_step stepped)

/-- Every run of a worker backs off. -/
theorem paced_of_run {name : String}
    {history : List (Transition ClockedWorker ClockedWorkerAction WorkerEvent)}
    (run : workerMachine.Run ⟨now, false, .new name⟩ history w)
    : Paced (Machine.eventsOf history) w :=
  run.historyInvariant Paced (paced_new name now) Paced.step

end Paced

-----------------------------------------------------------------------------------------
-- Attempts in time
-----------------------------------------------------------------------------------------

/-- The attempts under way. -/
def underWay (w : ClockedWorker) : Nat :=
  match w.worker.pc with
  | .connecting _ | .connected .. => 1
  | .checking | .sleeping _ | .stopped => 0

/-- Every attempt is between the start and now, and every quick failure in a row was one. -/
structure Dated (start : Nat) (events : List WorkerEvent) (w : ClockedWorker) : Prop where
  started : start ≤ w.now
  within : ∀ began ∈ attempts events, start ≤ began ∧ began ≤ w.now
  counted : streak events + w.underWay ≤ (attempts events).length

section Dated

variable {events shown : List WorkerEvent} {w next : ClockedWorker} {start : Nat}

theorem Dated.worker {worker : Worker} {action : WorkerAction} (dated : Dated start events w)
    (stepped : w.worker.Stepped w.now w.isCancelled action worker shown)
    : Dated start (events ++ shown) { w with worker } := by
  obtain ⟨started, within, counted⟩ := dated
  cases stepped with
  | begins idle =>
      refine { started, within := ?_, counted := ?_ }
      · intro began listed
        rw [attempts_append] at listed
        rcases List.mem_append.mp listed with older | new
        · exact within began older
        · obtain rfl := List.mem_singleton.mp new
          exact ⟨started, Nat.le_refl _⟩
      · have one : attempts [.began w.now] = [w.now] := rfl
        simp only [underWay, idle] at counted
        simp only [streak_concat, WorkerEvent.failures, attempts_append, one, List.length_append,
          List.length_singleton, underWay]
        omega
  | stops idle | interrupted idle =>
      have none : attempts [.stopped w.now] = [] := rfl
      rw [underWay, idle] at counted
      refine { started, within := ?_, counted := ?_ }
      · rw [attempts_append, none, List.append_nil]
        exact within
      · rw [streak_concat, attempts_append, none, List.append_nil]
        exact counted
  | connects connecting =>
      rw [underWay, connecting] at counted
      rw [List.append_nil]
      exact { started, within, counted }
  | @rests began uuid away =>
      have here : w.underWay = 1 := by
        rcases away with here | ⟨link, here⟩
        · rw [underWay, here]
        · rw [underWay, here]
      have none
          : attempts [.ended began w.now (w.worker.delayAfter began w.now uuid)] = [] :=
        rfl
      refine { started, within := ?_, counted := ?_ }
      · rw [attempts_append, none, List.append_nil]
        exact within
      · rw [here] at counted
        rw [streak_concat, attempts_append, none, List.append_nil, WorkerEvent.failures]
        have past
            : underWay { w with worker := w.worker.rest began w.now uuid } = 0 := rfl
        rw [past]
        split <;> omega
  | wakes sleeping =>
      rw [underWay, sleeping] at counted
      rw [List.append_nil]
      exact { started, within, counted }

theorem Dated.step {action : ClockedWorkerAction} (dated : Dated start events w)
    (taken : workerMachine.step w action = some (next, shown))
    : Dated start (events ++ shown) next := by
  cases action with
  | elapse nanoseconds =>
      obtain ⟨rfl, rfl⟩ := Prod.mk.inj (Option.some.inj taken)
      rw [List.append_nil]
      obtain ⟨started, within, counted⟩ := dated
      have grown : w.now ≤ w.now + nanoseconds := Nat.le_add_right _ _
      exact {
        started := Nat.le_trans started grown
        within := fun began listed =>
          ⟨(within began listed).1, Nat.le_trans (within began listed).2 grown⟩
        counted
      }
  | cancel =>
      obtain ⟨rfl, rfl⟩ := Prod.mk.inj (Option.some.inj taken)
      rw [List.append_nil]
      exact { dated with }
  | worker action =>
      obtain ⟨⟨worker, events⟩, stepped, same⟩ := Option.map_eq_some_iff.mp taken
      obtain ⟨rfl, rfl⟩ := Prod.mk.inj same
      exact dated.worker (Worker.stepped_of_step stepped)

theorem dated_of_run {name : String}
    {history : List (Transition ClockedWorker ClockedWorkerAction WorkerEvent)}
    (run : workerMachine.Run ⟨start, false, .new name⟩ history w)
    : Dated start (Machine.eventsOf history) w := by
  refine run.historyInvariant (Dated start) ?_ Dated.step
  exact ⟨Nat.le_refl _, fun _ absent => absurd absent List.not_mem_nil, Nat.le_refl _⟩

/-- The quick failures in a row take their time, so that a `u32` counts them for decades. -/
theorem Dated.streak_le (dated : Dated start events w) (backsOff : BacksOff events)
    : streak events * (second / 2) ≤ w.now - start + second / 2 := by
  have fits := backsOff.spaced.fits (fun began listed => (dated.within began listed).1)
    fun began listed => (dated.within began listed).2
  have fewer : streak events ≤ (attempts events).length :=
    Nat.le_trans (Nat.le_add_right _ _) dated.counted
  exact Nat.le_trans (Nat.mul_le_mul_right _ fewer) fits

end Dated

end ClockedWorker

end ProxyClient
