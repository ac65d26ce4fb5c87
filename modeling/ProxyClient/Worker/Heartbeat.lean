import ProxyClient.Worker.Clock

/-! When the heartbeat never times out. A server that sends a frame in every period, to a session
that reads each frame in time, keeps its connection: no late tick meets a fresh unread frame,
because no tick is late.
-/

namespace ProxyClient

open Foundations

namespace TimedConnection

/-- Server and session keep pace: the server has sent a frame during the last `period`, or `run`
has started since; and no frame has waited in the receive buffer for longer than `delay`.
-/
structure KeepsPace (period delay : Nat) (start : TimedConnection)
    (history : List TimedTransition) (c : TimedConnection)
    : Prop where
  lively
    : c.now ≤ start.now + period
      ∨ ∃ arrival ∈ arrivedBy start history,
          arrival.frame.isFrame = true ∧ c.now ≤ arrival.time + period
  prompt
    : ∀ arrival ∈ c.unread, arrival.frame.isFrame = true → c.now ≤ arrival.time + delay

instance (period delay : Nat) (start : TimedConnection) (history : List TimedTransition)
    (c : TimedConnection)
    : Decidable (KeepsPace period delay start history c) :=
  decidable_of_iff
    ((c.now ≤ start.now + period
        ∨ ∃ arrival ∈ arrivedBy start history,
            arrival.frame.isFrame = true ∧ c.now ≤ arrival.time + period)
      ∧ ∀ arrival ∈ c.unread, arrival.frame.isFrame = true → c.now ≤ arrival.time + delay)
    ⟨fun both => ⟨both.1, both.2⟩, fun pace => ⟨pace.lively, pace.prompt⟩⟩

/-- The oldest unread frame has come within a period of the last read. -/
structure Paced (period : Nat) (start c : TimedConnection) : Prop where
  since : start.now ≤ c.lastInbound
  oldest
    : ∀ arrival,
        c.unread.find? (fun arrival => arrival.frame.isFrame) = some arrival
        → arrival.time ≤ c.lastInbound + period

section

variable {context : WorkerContext} {timing : Timing} {period delay : Nat}
  {start c next : TimedConnection} {history : List TimedTransition} {events : List Event}

/-- While no frame is unread, the last frame has been read. -/
theorem Reads.recent (reads : Reads start history c) (since : start.now ≤ c.lastInbound)
    (pace : KeepsPace period delay start history c)
    (none : c.unread.find? (fun arrival => arrival.frame.isFrame) = none)
    : c.now ≤ c.lastInbound + period := by
  obtain ⟨read, split, old⟩ := reads.split
  rcases pace.lively with fresh | ⟨arrival, listed, proper, fresh⟩
  · omega
  · rw [split] at listed
    rcases List.mem_append.mp listed with earlier | waiting
    · have before := old arrival earlier proper
      omega
    · have absent := List.find?_eq_none.mp none arrival waiting
      exact absurd proper absent

/-- A paced connection reads the next frame, or ticks, before it is late. -/
theorem Paced.recent (paced : Paced period start c) (reads : Reads start history c)
    (pace : KeepsPace period delay start history c)
    : c.now ≤ c.lastInbound + (period + delay) := by
  cases oldest : c.unread.find? fun arrival => arrival.frame.isFrame with
  | none =>
      have recent := reads.recent paced.since pace oldest
      omega
  | some arrival =>
      have proper := List.find?_some oldest
      have waits := pace.prompt arrival (List.mem_of_find?_eq_some oldest) proper
      have came := paced.oldest arrival oldest
      omega

/-- A step that leaves the buffer and the last read alone. -/
theorem Paced.quiet (paced : Paced period start c) (inbound : next.lastInbound = c.lastInbound)
    (unread : next.unread = c.unread)
    : Paced period start next where
  since := inbound ▸ paced.since
  oldest := by
    rw [inbound, unread]
    exact paced.oldest

theorem Paced.step {action : TimedAction} (paced : Paced period start c)
    (reads : Reads start history c) (pace : KeepsPace period delay start history c)
    (taken : (timedConnection context timing).step c action = some (next, events))
    : Paced period start next := by
  cases action with
  | elapse duration =>
      obtain ⟨rfl, rfl⟩ := taken
      exact paced.quiet rfl rfl
  | arrive frame =>
      obtain ⟨rfl, rfl⟩ := taken
      refine { since := paced.since, oldest := ?_ }
      intro arrival found
      rw [List.find?_append] at found
      cases oldest : c.unread.find? fun arrival => arrival.frame.isFrame with
      | some earlier =>
          rw [oldest, Option.some_or] at found
          exact paced.oldest arrival (oldest.trans found)
      | none =>
          rw [oldest, Option.none_or] at found
          obtain rfl := List.mem_singleton.mp (List.mem_of_find?_eq_some found)
          exact reads.recent paced.since pace oldest
  | tick due =>
      obtain ⟨connection, -, rfl⟩ := step_tick taken
      exact paced.quiet rfl rfl
  | read =>
      obtain ⟨arrival, unread, connection, waiting, -, rfl⟩ := step_read taken
      have past := reads.past
      have oldest := paced.oldest
      rw [waiting] at past oldest
      cases proper : arrival.frame.isFrame with
      | true =>
          refine { since := Nat.le_trans paced.since reads.ordered, oldest := ?_ }
          intro other found
          have came := past other (List.mem_cons_of_mem _ (List.mem_of_find?_eq_some found))
          exact Nat.le_trans came (Nat.le_add_right _ _)
      | false =>
          refine { since := paced.since, oldest := ?_ }
          intro other found
          refine oldest other ?_
          rw [List.find?_cons_of_neg (by simp [proper])]
          exact found
  | other action =>
      obtain ⟨connection, -, rfl⟩ := step_other taken
      exact paced.quiet rfl rfl

variable {name : String} {now : Nat} {unread : List Arrival}

/-- Every transition of the run starts in a state that keeps pace. -/
def PacedRun (period delay : Nat) (start : TimedConnection) (history : List TimedTransition)
    : Prop :=
  ∀ index transition,
    history[index]? = some transition
    → KeepsPace period delay start (history.take index) transition.before

theorem PacedRun.left {earlier later : List TimedTransition}
    (pace : PacedRun period delay start (earlier ++ later))
    : PacedRun period delay start earlier := by
  intro index transition found
  have within : index < earlier.length := (List.getElem?_eq_some_iff.mp found).1
  have kept := pace index transition (by rw [List.getElem?_append_left within, found])
  rwa [List.take_append_of_le_length (Nat.le_of_lt within)] at kept

theorem PacedRun.before {earlier later : List TimedTransition} {transition : TimedTransition}
    (pace : PacedRun period delay start (earlier ++ transition :: later))
    : KeepsPace period delay start earlier transition.before := by
  have kept := pace earlier.length transition (by simp)
  rwa [List.take_left] at kept

/-- A run of paced states stays paced, by induction. -/
theorem paced_of_run (past : ∀ arrival ∈ unread, arrival.time ≤ now)
    (run : (timedConnection context timing).Run (new context name timing now unread) history c)
    (pace : PacedRun period delay (new context name timing now unread) history)
    : Paced period (new context name timing now unread) c := by
  induction run with
  | start =>
      refine { since := Nat.le_refl _, oldest := ?_ }
      intro arrival found
      have came := past arrival (List.mem_of_find?_eq_some found)
      exact Nat.le_trans came (Nat.le_add_right _ _)
  | @step history before action events next run taken ih =>
      exact (ih pace.left).step (reads past run) pace.before taken

/-- A connection whose server sends a frame in every `period`, and whose session reads each one
within `delay`, never times out if `heartbeat_timeout` allows for both.
-/
theorem staysAlive_of_run (past : ∀ arrival ∈ unread, arrival.time ≤ now)
    (run : (timedConnection context timing).Run (new context name timing now unread) history c)
    (pace : PacedRun period delay (new context name timing now unread) history)
    (short : period + delay ≤ timing.heartbeatTimeout)
    : ∀ transition ∈ history, ¬ transition.TimesOut := by
  intro transition listed timesOut
  obtain ⟨earlier, later, rfl⟩ := List.append_of_mem listed
  obtain ⟨reached, taken⟩ := run.split
  have late := ((timesOut_iff taken).mp timesOut).2
  have elapsed : timing.heartbeatTimeout < transition.before.now - transition.before.lastInbound :=
    of_decide_eq_true late
  have recent := (paced_of_run past reached pace.left).recent (reads past reached) pace.before
  omega

end

/-- `Timing::default`. -/
def defaultTiming : Timing where
  heartbeatInterval := 20 * 10 ^ 9
  heartbeatTimeout := 45 * 10 ^ 9

/-- Two pings of the server, 15 seconds apart, the first of which is read a second late, and two
heartbeats.
-/
def pingsInTime : List TimedAction :=
  [.elapse (15 * 10 ^ 9), .arrive (.ping "server"), .elapse (1 * 10 ^ 9), .read,
    .elapse (4 * 10 ^ 9), .tick (40 * 10 ^ 9), .other (.session .proceed), .elapse (10 * 10 ^ 9),
    .arrive (.ping "server"), .read, .elapse (10 * 10 ^ 9), .tick (60 * 10 ^ 9)]

theorem staysAlive_of_run_pingsInTime
    : ∃ history c,
        (timedConnection (.bare 3) defaultTiming).exec
            (new (.bare 3) "instance" defaultTiming 0 []) pingsInTime
          = some (history, c)
        ∧ history.countP TimedTransition.ticks = 2
        ∧ ∀ transition ∈ history, ¬ TimedTransition.TimesOut transition := by
  have passed
      : ((timedConnection (.bare 3) defaultTiming).exec
          (new (.bare 3) "instance" defaultTiming 0 []) pingsInTime).any
            (fun (history, _) =>
              history.countP TimedTransition.ticks == 2
                && (List.range history.length).all fun index =>
                    history[index]?.all fun transition =>
                      decide
                        (KeepsPace (15 * 10 ^ 9) (30 * 10 ^ 9)
                          (new (.bare 3) "instance" defaultTiming 0 []) (history.take index)
                          transition.before))
        = true := by
    decide
  obtain ⟨history, c, executed, checked⟩ := Machine.exec_checked passed
  simp only [Bool.and_eq_true, beq_iff_eq, List.all_eq_true, List.mem_range] at checked
  obtain ⟨ticked, paced⟩ := checked
  refine ⟨history, c, executed, ticked, ?_⟩
  refine staysAlive_of_run (fun _ absent => absurd absent List.not_mem_nil)
    (Machine.exec_run executed) ?_ (by decide : 15 * 10 ^ 9 + 30 * 10 ^ 9 ≤ _)
  intro index transition found
  have within : index < history.length := (List.getElem?_eq_some_iff.mp found).1
  have kept := paced index within
  rw [found] at kept
  exact of_decide_eq_true kept

end TimedConnection

end ProxyClient
