import ProxyClient.Foundations.Times
import ProxyClient.Worker.Backoff
import ProxyClient.Worker.Wiring

/-! The writer with a clock: how long a send may last, and how long a control frame waits.
`timeout` polls a send before its own timer, so a send that is ready at its deadline succeeds. The
writer is polled as soon as it can go on; only sends and empty queues take time.
-/

namespace ProxyClient

open Foundations

/-- What `send_ws` returns for a send that takes too long. -/
def sendTimedOut : BoxError := .text "websocket send timed out"

/-- The timeout of the send of a frame. -/
def Frame.timeout (sendTimeout : Nat) : Frame → Nat
  | .control _ => sendTimeout
  | .bulk response => bulkSendTimeout sendTimeout response.json.len

/-- The frame that `send_ws` is sending. -/
def WriterPc.sending? : WriterPc → Option Frame
  | .sendingControl message | .sendingClose message => some (.control message)
  | .sendingBulk response => some (.bulk response)
  | .select | .bulkTurn | .closingSink | .ended _ => none

/-- The timeout of what the writer awaits: a send, or the closing of the sink. -/
def WriterPc.timeout? (sendTimeout : Nat) : WriterPc → Option Nat
  | .sendingControl message | .sendingClose message =>
      some (Frame.timeout sendTimeout (.control message))
  | .sendingBulk response => some (Frame.timeout sendTimeout (.bulk response))
  | .closingSink => some sendTimeout
  | .select | .bulkTurn | .ended _ => none

/-- The writer, the clock, and when the writer has begun what it is doing. -/
structure TimedWire where
  wire : Wire
  now : Nat
  since : Nat

inductive TimedWireAction
  | elapse (duration : Nat)
  | wire (action : WireAction)

namespace TimedWire

/-- `run_writer` starts on empty queues. -/
def start (senders now : Nat) : TimedWire := { wire := .start senders, now, since := now }

/-- The writer has nothing to do. -/
def idle (w : TimedWire) : Bool :=
  match w.wire.writer with
  | .select => w.wire.control.isEmpty && w.wire.bulk.isEmpty
  | .ended _ => true
  | .bulkTurn | .sendingControl _ | .sendingClose _ | .sendingBulk _ | .closingSink => false

/-- Nothing happens for a while: the time of what the writer awaits is not over, or it is idle. -/
def waits (sendTimeout : Nat) (w : TimedWire) (duration : Nat) : Bool :=
  match w.wire.writer.timeout? sendTimeout with
  | some timeout => decide (w.now + duration ≤ w.since + timeout)
  | none => w.idle

/-- A send times out only when its time is over. -/
def ripe (sendTimeout : Nat) (w : TimedWire) : WireAction → Bool
  | .writer (.sendFailed error) =>
      decide (error ≠ sendTimedOut)
      || (w.wire.writer.timeout? sendTimeout).any fun timeout =>
        decide (w.since + timeout ≤ w.now)
  | _ => true

/-- When the writer has begun what it does after a step. -/
def sinceAfter (w : TimedWire) : WireAction → Nat
  | .writer _ => w.now
  | .control _ | .bulk _ | .dropControlSender | .dropBulkSender | .places _ | .abort => w.since

def step (sendTimeout : Nat) (w : TimedWire) : TimedWireAction → Option (TimedWire × List Event)
  | .elapse duration =>
      if w.waits sendTimeout duration then some ({ w with now := w.now + duration }, []) else none
  | .wire action =>
      if w.ripe sendTimeout action then
        (w.wire.stepAmong action).map fun (wire, events) =>
          ({ wire, now := w.now, since := w.sinceAfter action }, events)
      else none

end TimedWire

/-- The writer among arbitrary senders, with a clock. -/
def timedWire (sendTimeout : Nat) : Machine TimedWire TimedWireAction Event where
  step := TimedWire.step sendTimeout

/-- A step of the timed writer, with the states around it. -/
abbrev TimedWireTransition : Type := Transition TimedWire TimedWireAction Event

namespace TimedWire

variable {sendTimeout : Nat}

/-- How a step goes. -/
inductive Stepped (sendTimeout : Nat) (w : TimedWire)
    : TimedWireAction → TimedWire → List Event → Prop
  | elapse {duration} (waits : w.waits sendTimeout duration = true)
    : Stepped sendTimeout w (.elapse duration) { w with now := w.now + duration } []
  | wire {action wire events} (ripe : w.ripe sendTimeout action = true)
    (taken : w.wire.stepAmong action = some (wire, events))
    : Stepped sendTimeout w (.wire action)
        { wire, now := w.now, since := w.sinceAfter action } events

theorem stepped_of_step {w next : TimedWire} {action : TimedWireAction} {events : List Event}
    (taken : w.step sendTimeout action = some (next, events))
    : Stepped sendTimeout w action next events := by
  cases action with
  | elapse duration =>
      simp only [step] at taken
      split at taken
      · next waits =>
          obtain ⟨rfl, rfl⟩ := Prod.mk.inj (Option.some.inj taken)
          exact .elapse waits
      · cases taken
  | wire action =>
      simp only [step] at taken
      split at taken
      · next ripe =>
          obtain ⟨⟨wire, events'⟩, moved, same⟩ := Option.map_eq_some_iff.mp taken
          obtain ⟨rfl, rfl⟩ := same
          exact .wire ripe moved
      · cases taken

/-- A timed run is, without its clock, a run of the writer among its senders. -/
theorem wire_of_run {senders now : Nat} {history : List TimedWireTransition} {w : TimedWire}
    (run : (timedWire sendTimeout).Run (start senders now) history w)
    : ∃ matching,
        wireMachine.Run (.start senders) matching w.wire
        ∧ Machine.eventsOf matching = Machine.eventsOf history := by
  have matched {before next : TimedWire} {action : TimedWireAction} {events : List Event}
      (taken : before.step sendTimeout action = some (next, events))
      : ∃ matching,
          wireMachine.Run before.wire matching next.wire
          ∧ (Machine.eventsOf matching).filterMap some = events.filterMap some := by
    cases stepped_of_step taken with
    | elapse => exact ⟨[], .start, rfl⟩
    | wire ripe moved => exact ⟨_, .single moved, by simp⟩
  obtain ⟨matching, wired, same⟩ := run.refines wire some some fun _ taken => matched taken
  exact ⟨matching, wired, by simpa using same⟩

-----------------------------------------------------------------------------------------
-- How long a send lasts
-----------------------------------------------------------------------------------------

/-- The longest timeout of a send. -/
def longest (sendTimeout : Nat) : Nat := max maxBulkSendTimeout sendTimeout

theorem timeout_le_longest {writer : WriterPc} {timeout : Nat}
    (awaits : writer.timeout? sendTimeout = some timeout)
    : timeout ≤ longest sendTimeout := by
  cases writer with
  | sendingControl | sendingClose | closingSink =>
      obtain rfl := Option.some.inj awaits
      exact Nat.le_max_right _ _
  | sendingBulk response =>
      obtain rfl := Option.some.inj awaits
      exact scaledTimeout_le _ _ _
  | select | bulkTurn | ended => cases awaits

/-- The time of what the writer awaits is not over. -/
structure OnTime (sendTimeout : Nat) (w : TimedWire) : Prop where
  begun : w.since ≤ w.now
  awaits : ∀ timeout, w.wire.writer.timeout? sendTimeout = some timeout → w.now ≤ w.since + timeout

theorem OnTime.step {w next : TimedWire} {action : TimedWireAction} {events : List Event}
    (onTime : w.OnTime sendTimeout) (taken : w.step sendTimeout action = some (next, events))
    : next.OnTime sendTimeout := by
  cases stepped_of_step taken with
  | elapse waits =>
      refine ⟨Nat.le_trans onTime.begun (Nat.le_add_right _ _), fun timeout awaits => ?_⟩
      have here : w.wire.writer.timeout? sendTimeout = some timeout := awaits
      simpa [TimedWire.waits, here] using waits
  | @wire action wire events ripe moved =>
      by_cases own : ∃ step, action = .writer step
      · obtain ⟨step, rfl⟩ := own
        exact ⟨Nat.le_refl _, fun timeout _ => Nat.le_add_right _ _⟩
      · have same := (Wire.writer_of_stepAmong moved fun step same => own ⟨step, same⟩).1
        have still : w.sinceAfter action = w.since := by
          cases action with
          | writer step => exact absurd ⟨step, rfl⟩ own
          | control | bulk | dropControlSender | dropBulkSender | places | abort => rfl
        refine ⟨still ▸ onTime.begun, fun timeout awaits => ?_⟩
        rw [still]
        exact onTime.awaits timeout (same ▸ awaits)

/-- A frame is being sent since it was handed over. -/
def Begun (history : List TimedWireTransition) (w : TimedWire) : Prop :=
  ∀ frame,
    w.wire.writer.sending? = some frame
    → ∃ hand ∈ history, hand.events = [.handed frame] ∧ hand.before.now = w.since

theorem Begun.step {w next : TimedWire} {history : List TimedWireTransition}
    {action : TimedWireAction} {events : List Event} (begun : w.Begun history)
    (taken : w.step sendTimeout action = some (next, events))
    : next.Begun (history ++ [⟨w, action, events, next⟩]) := by
  have still {frame : Frame} (sending : w.wire.writer.sending? = some frame)
      : ∃ hand ∈ history ++ [⟨w, action, events, next⟩],
          hand.events = [.handed frame] ∧ hand.before.now = w.since := by
    obtain ⟨hand, listed, handed, time⟩ := begun frame sending
    exact ⟨hand, List.mem_append_left _ listed, handed, time⟩
  intro frame sending
  cases stepped_of_step taken with
  | elapse => exact still sending
  | @wire action wire events ripe moved =>
      cases Wire.among_of_stepAmong moved with
      | writer stepped =>
          cases Wire.stepped_of_step stepped with
          | control | close | bulk =>
              obtain rfl := Option.some.inj sending
              exact ⟨_, List.mem_append_right _ (List.mem_singleton.mpr rfl), rfl, rfl⟩
          | controlIdle | bulkIdle | bulkClosed | sentControl | sentClose | sentBulk
          | failedClose | drained | failedControl | failedBulk | sinkClosed | panic
          | cancelled => cases sending
          | controlClosed here =>
              have writer : w.wire.writer.sending? = some frame := sending
              simp [here, WriterPc.sending?] at writer
      | @control message =>
          have same := (w.wire.trySend_same message).2.2
          exact still (same ▸ sending)
      | bulk | dropControlSender | dropBulkSender | places | abort => exact still sending

/-- Only the send that is under way ends. -/
theorem sending_of_ended {wire next : Wire} {action : WireAction} {events : List Event}
    {frame : Frame} (taken : wire.stepAmong action = some (next, events))
    (ended : .sent frame ∈ events ∨ .sendFailed frame ∈ events)
    : wire.writer.sending? = some frame := by
  have lost {pieces : List Piece} : .sendFailed frame ∉ lose pieces := by
    simp [lose, Piece.lost]
  have lost' {pieces : List Piece} : .sent frame ∉ lose pieces := by
    simp [lose, Piece.lost]
  cases Wire.among_of_stepAmong taken with
  | writer stepped =>
      cases Wire.stepped_of_step stepped with
      | sentControl here | sentClose here | sentBulk here | failedControl here
      | failedClose here | failedBulk here =>
          simp_all [WriterPc.sending?, Wire.finish, Piece.lost]
      | control | close | bulk | controlIdle | controlClosed | bulkIdle | bulkClosed
      | drained | sinkClosed | panic | cancelled =>
          simp_all [Wire.finish]
  | control =>
      rcases ended with sent | failed
      · cases Wire.trySend_events sent
      · cases Wire.trySend_events failed
  | bulk => simp [Wire.push] at ended
  | dropControlSender | dropBulkSender | places | abort => simp at ended

theorem timeout_of_sending {writer : WriterPc} {frame : Frame}
    (sending : writer.sending? = some frame)
    : writer.timeout? sendTimeout = some (frame.timeout sendTimeout) := by
  cases writer with
  | sendingControl | sendingClose | sendingBulk =>
      obtain rfl := Option.some.inj sending
      rfl
  | select | bulkTurn | closingSink | ended => cases sending

/-- A send that ends was begun no longer ago than its timeout, and one that times out exactly so
long ago.
-/
theorem ends_of_step {w next : TimedWire} {history : List TimedWireTransition}
    {action : TimedWireAction} {events : List Event} {frame : Frame} (begun : w.Begun history)
    (onTime : w.OnTime sendTimeout) (taken : w.step sendTimeout action = some (next, events))
    (ended : .sent frame ∈ events ∨ .sendFailed frame ∈ events)
    : ∃ hand ∈ history,
        hand.events = [.handed frame]
        ∧ w.now ≤ hand.before.now + frame.timeout sendTimeout
        ∧ (action = .wire (.writer (.sendFailed sendTimedOut))
          → w.now = hand.before.now + frame.timeout sendTimeout) := by
  cases stepped_of_step taken with
  | elapse => simp at ended
  | wire ripe moved =>
      have sending := sending_of_ended moved ended
      have timeout : w.wire.writer.timeout? sendTimeout = some (frame.timeout sendTimeout) :=
        timeout_of_sending sending
      have within := onTime.awaits _ timeout
      obtain ⟨hand, listed, handed, time⟩ := begun frame sending
      rw [← time] at within
      refine ⟨hand, listed, handed, within, fun timesOut => ?_⟩
      obtain rfl := TimedWireAction.wire.inj timesOut
      have past : w.since + frame.timeout sendTimeout ≤ w.now := by
        simpa [TimedWire.ripe, timeout] using ripe
      omega

-----------------------------------------------------------------------------------------
-- How long a control frame waits
-----------------------------------------------------------------------------------------

/-- When a control frame that is queued now is due: after the longest send, and after a send of
each control frame in front of it.
-/
def due (sendTimeout : Nat) (w : TimedWire) : Nat :=
  w.now + longest sendTimeout + w.wire.control.length * sendTimeout

/-- When each of the control frames that have been queued was due. -/
def dues (sendTimeout : Nat) (history : List TimedWireTransition) : List Nat :=
  history.flatMap fun transition =>
    (queuedControl transition.events).map fun _ => transition.before.due sendTimeout

@[simp] theorem dues_concat (history : List TimedWireTransition)
    (transition : TimedWireTransition)
    : dues sendTimeout (history ++ [transition])
      = dues sendTimeout history
        ++ (queuedControl transition.events).map fun _ => transition.before.due sendTimeout := by
  simp [dues]

theorem length_dues (sendTimeout : Nat) (history : List TimedWireTransition)
    : (dues sendTimeout history).length = (queuedControl (Machine.eventsOf history)).length := by
  induction history with
  | nil => rfl
  | cons transition rest ih =>
      have first
          : dues sendTimeout (transition :: rest)
            = (queuedControl transition.events).map (fun _ => transition.before.due sendTimeout)
              ++ dues sendTimeout rest :=
        rfl
      have shown
          : Machine.eventsOf (transition :: rest)
            = transition.events ++ Machine.eventsOf rest :=
        rfl
      rw [first, shown, queuedControl_append, List.length_append, List.length_append,
        List.length_map, ih]

/-- When the writer polls its control queue again, at the latest. -/
def free (sendTimeout : Nat) (w : TimedWire) : Nat :=
  match w.wire.writer with
  | .select | .ended _ => w.now
  | .bulkTurn => w.now + longest sendTimeout
  | .sendingControl _ | .sendingClose _ | .closingSink => w.since + sendTimeout
  | .sendingBulk response => w.since + bulkSendTimeout sendTimeout response.json.len

theorem OnTime.now_le_free {w : TimedWire} (onTime : w.OnTime sendTimeout)
    : w.now ≤ w.free sendTimeout := by
  have awaits := onTime.awaits
  unfold free
  cases here : w.wire.writer with
  | select | ended => exact Nat.le_refl _
  | bulkTurn => exact Nat.le_add_right _ _
  | sendingControl | sendingClose | closingSink | sendingBulk => exact awaits _ (by rw [here]; rfl)

theorem OnTime.free_le {w : TimedWire} (onTime : w.OnTime sendTimeout)
    : w.free sendTimeout ≤ w.now + longest sendTimeout := by
  have begun := onTime.begun
  have within {timeout : Nat} (awaits : w.wire.writer.timeout? sendTimeout = some timeout)
      : w.since + timeout ≤ w.now + longest sendTimeout :=
    Nat.add_le_add begun (timeout_le_longest awaits)
  unfold free
  cases here : w.wire.writer with
  | select | ended => exact Nat.le_add_right _ _
  | bulkTurn => exact Nat.le_refl _
  | sendingControl | sendingClose | closingSink | sendingBulk =>
      exact within (by rw [here]; rfl)

/-- Unless it halts, the writer takes each queued control frame by the time it is due. -/
def Punctual (sendTimeout : Nat) (history : List TimedWireTransition) (w : TimedWire) : Prop :=
  w.wire.writer.halted = false
  → InTime sendTimeout (w.free sendTimeout)
      ((dues sendTimeout history).drop
        (controlOf (handedFrames (Machine.eventsOf history))).length)

section Punctual

variable {history : List TimedWireTransition} {w next : TimedWire} {action : TimedWireAction}
  {events : List Event}

/-- The frames that are due and not yet handed over are those on the control queue. -/
theorem length_pending (sendTimeout : Nat)
    (fifo : w.wire.Fifo (Machine.eventsOf history)) (live : w.wire.writer.halted = false)
    : ((dues sendTimeout history).drop
        (controlOf (handedFrames (Machine.eventsOf history))).length).length
      = w.wire.control.length := by
  have going : w.wire.writer.hasEnded = false := by
    cases here : w.wire.writer with
    | ended => simp [here, WriterPc.halted] at live
    | select | bulkTurn | sendingControl | sendingClose | closingSink | sendingBulk => rfl
  rw [List.length_drop, length_dues, fifo.control going, List.length_append,
    Nat.add_sub_cancel_left]

/-- A step that neither queues nor hands over a control frame, and after which the writer polls no
later than before it unless nothing is queued.
-/
theorem Punctual.quietly (punctual : w.Punctual sendTimeout history)
    (fifo : w.wire.Fifo (Machine.eventsOf history)) (live : w.wire.writer.halted = false)
    (queued : queuedControl events = []) (handed : controlOf (handedFrames events) = [])
    (sooner : next.free sendTimeout ≤ w.free sendTimeout ∨ w.wire.control = [])
    : next.Punctual sendTimeout (history ++ [⟨w, action, events, next⟩]) := by
  intro _
  have kept := punctual live
  have size := length_pending sendTimeout fifo live
  simp only [dues_concat, queued, List.map_nil, List.append_nil, Machine.eventsOf_append,
    Machine.eventsOf_singleton, handedFrames_append, controlOf_append, handed]
  rcases sooner with sooner | empty
  · exact kept.mono sooner
  · rw [empty] at size
    rw [List.eq_nil_of_length_eq_zero size]
    exact inTime_nil

/-- The first frame of the control queue is handed over. -/
theorem Punctual.hands {message : Message} (punctual : w.Punctual sendTimeout history)
    (here : w.wire.writer = .select) (later : next.free sendTimeout = w.now + sendTimeout)
    : next.Punctual sendTimeout
        (history ++ [⟨w, action, [.handed (.control message)], next⟩]) := by
  intro _
  have kept := (punctual (by rw [here]; rfl)).next
  have free : w.free sendTimeout = w.now := by simp [TimedWire.free, here]
  rw [free, List.tail_drop] at kept
  have quiet : queuedControl [.handed (.control message)] = [] := rfl
  have handed : controlOf (handedFrames [.handed (.control message)]) = [message] := rfl
  simpa only [dues_concat, quiet, List.map_nil, List.append_nil, Machine.eventsOf_append,
    Machine.eventsOf_singleton, handedFrames_append, controlOf_append, handed, later,
    List.length_append, List.length_singleton] using kept

/-- A frame joins the control queue. -/
theorem Punctual.queues {message : Message} (punctual : w.Punctual sendTimeout history)
    (told : w.wire.Told (Machine.eventsOf history)) (onTime : w.OnTime sendTimeout)
    (live : w.wire.writer.halted = false) (same : next.free sendTimeout = w.free sendTimeout)
    : next.Punctual sendTimeout (history ++ [⟨w, action, [.controlQueued message], next⟩]) := by
  intro _
  have kept := punctual live
  have size := length_pending sendTimeout told.fifo live
  have handed : controlOf (handedFrames [.controlQueued message]) = [] := rfl
  have queued : queuedControl [.controlQueued message] = [message] := rfl
  have enough := told.fifo.controlPrefix.length_le
  rw [← length_dues sendTimeout] at enough
  have last := onTime.free_le
  simp only [dues_concat, queued, List.map_cons, List.map_nil, Machine.eventsOf_append,
    Machine.eventsOf_singleton, handedFrames_append, controlOf_append, handed, List.append_nil,
    same, List.drop_append_of_le_length enough]
  refine kept.concat ?_
  rw [size]
  exact Nat.add_le_add_right last _

/-- Each step keeps the writer punctual: it comes back to its control queue when it said at the
latest, and takes no response while a control frame is queued.
-/
theorem Punctual.step (punctual : w.Punctual sendTimeout history)
    (told : w.wire.Told (Machine.eventsOf history)) (onTime : w.OnTime sendTimeout)
    (taken : w.step sendTimeout action = some (next, events))
    : next.Punctual sendTimeout (history ++ [⟨w, action, events, next⟩]) := by
  intro live
  have inTime := onTime.now_le_free
  cases stepped_of_step taken with
  | @elapse duration waits =>
      have before : w.wire.writer.halted = false := live
      refine punctual.quietly told.fifo before rfl rfl ?_ live
      cases here : w.wire.writer with
      | select =>
          refine .inr ?_
          simp only [TimedWire.waits, here, WriterPc.timeout?, idle, Bool.and_eq_true,
            List.isEmpty_iff] at waits
          exact waits.1
      | bulkTurn => simp [TimedWire.waits, here, WriterPc.timeout?, idle] at waits
      | sendingClose | closingSink | ended => simp [here, WriterPc.halted] at before
      | sendingControl | sendingBulk => exact .inl (Nat.le_of_eq (by simp [free, here]))
  | @wire action wire events ripe moved =>
      have before : w.wire.writer.halted = false := by
        cases halted : w.wire.writer.halted with
        | false => rfl
        | true => simp [(Wire.halted_of_halted moved halted).1] at live
      cases Wire.among_of_stepAmong moved with
      | writer stepped =>
          cases Wire.stepped_of_step stepped with
          | control here opened queued plain => exact punctual.hands here rfl live
          | close | sentClose | failedClose | drained | failedControl | failedBulk
          | sinkClosed | panic | cancelled => cases live
          | controlIdle here idle =>
              refine punctual.quietly told.fifo before rfl rfl (.inr ?_) live
              cases opened : w.wire.controlOpen with
              | true => exact (idle opened).1
              | false => exact (told.shut.control opened).1
          | controlClosed here empty =>
              exact punctual.quietly told.fifo before rfl rfl (.inr empty) live
          | @bulk response rest here =>
              refine punctual.quietly told.fifo before rfl rfl (.inl ?_) live
              have polled : w.free sendTimeout = w.now + longest sendTimeout := by
                simp [free, here]
              rw [polled]
              exact Nat.add_le_add_left (scaledTimeout_le _ _ _) w.now
          | bulkIdle here | bulkClosed here | sentControl here | sentBulk here =>
              exact punctual.quietly told.fifo before rfl rfl (.inl inTime) live
      | @control message =>
          have same : free sendTimeout ⟨(w.wire.trySend message).1, w.now, w.since⟩
              = w.free sendTimeout := by
            simp only [free, (w.wire.trySend_same message).2.2]
          rcases w.wire.trySend_cases message with queued | lost
          · rw [queued]
            exact punctual.queues told onTime before same live
          · rw [lost]
            exact punctual.quietly told.fifo before rfl rfl (.inl (Nat.le_of_eq same)) live
      | bulk | dropControlSender | dropBulkSender | places | abort =>
          exact punctual.quietly told.fifo before rfl rfl (.inl (Nat.le_refl _)) live

end Punctual

-----------------------------------------------------------------------------------------
-- Runs
-----------------------------------------------------------------------------------------

/-- How the writer keeps to its times. Every control frame is handed over by the time it is due,
unless the writer halts before. Every send ends within its timeout, and one that times out has had
all of it: a response has had the time that its length takes at the least throughput as well, or
the longest that one may have.
-/
structure Serves (sendTimeout : Nat) (history : List TimedWireTransition) (w : TimedWire)
    : Prop where
  frames
    : ∀ index due,
        (dues sendTimeout history)[index]? = some due
        → index < (controlOf (handedFrames (Machine.eventsOf history))).length
          ∨ w.wire.writer.halted = true
          ∨ w.now ≤ due
  sends
    : ∀ earlier transition later,
        history = earlier ++ transition :: later
        → ∀ frame,
            .sent frame ∈ transition.events ∨ .sendFailed frame ∈ transition.events
            → ∃ hand ∈ earlier,
                hand.events = [.handed frame]
                ∧ transition.before.now ≤ hand.before.now + frame.timeout sendTimeout
                ∧ (transition.action = .wire (.writer (.sendFailed sendTimedOut))
                  → transition.before.now = hand.before.now + frame.timeout sendTimeout)
  responses
    : ∀ earlier transition later response,
        history = earlier ++ transition :: later
        → .sendFailed (.bulk response) ∈ transition.events
        → transition.action = .wire (.writer (.sendFailed sendTimedOut))
        → ∃ hand ∈ earlier,
            hand.events = [.handed (.bulk response)]
            ∧ hand.before.now
              + min (sendTimeout + transferTime response.json.len) maxBulkSendTimeout
              ≤ transition.before.now

section Runs

variable {senders now : Nat} {history : List TimedWireTransition} {w : TimedWire}
  (run : (timedWire sendTimeout).Run (start senders now) history w)
include run

theorem onTime_of_run : w.OnTime sendTimeout := by
  refine run.invariant (OnTime sendTimeout) ⟨Nat.le_refl _, ?_⟩ OnTime.step
  intro timeout awaits
  cases awaits

theorem begun_of_run : w.Begun history := by
  refine run.recorded Begun ?_ fun _ begun taken => begun.step taken
  intro frame sending
  cases sending

theorem told_of_run : w.wire.Told (Machine.eventsOf history) := by
  obtain ⟨matching, wired, same⟩ := wire_of_run run
  exact same ▸ Wire.told_of_run wired

theorem punctual_of_run : w.Punctual sendTimeout history :=
  run.recorded (Punctual sendTimeout) (fun _ => inTime_nil) fun reached punctual taken =>
    punctual.step (told_of_run reached) (onTime_of_run reached) taken

/-- The writer keeps to its times among arbitrary senders, whatever they queue. -/
theorem serves_of_run : w.Serves sendTimeout history where
  frames index due listed := by
    by_cases handed : index < (controlOf (handedFrames (Machine.eventsOf history))).length
    · exact .inl handed
    · cases live : w.wire.writer.halted with
      | true => exact .inr (.inl rfl)
      | false =>
          refine .inr (.inr ?_)
          obtain ⟨position, rfl⟩ := Nat.exists_eq_add_of_le (Nat.not_lt.mp handed)
          have pending := (punctual_of_run run live).free_le (List.getElem?_drop ▸ listed)
          exact Nat.le_trans (onTime_of_run run).now_le_free pending
  sends earlier transition later split frame ended := by
    rw [split] at run
    obtain ⟨reached, taken⟩ := run.split
    exact ends_of_step (begun_of_run reached) (onTime_of_run reached) taken ended
  responses earlier transition later response split failed timesOut := by
    rw [split] at run
    obtain ⟨reached, taken⟩ := run.split
    obtain ⟨hand, listed, handed, -, exactly⟩ :=
      ends_of_step (begun_of_run reached) (onTime_of_run reached) taken (.inr failed)
    refine ⟨hand, listed, handed, ?_⟩
    rw [exactly timesOut]
    exact Nat.add_le_add_left (le_scaledTimeout (by decide)) hand.before.now

end Runs

/-- A ping is queued while a response is sent for three seconds, and then times out itself. -/
def pingTimesOut : List TimedWireAction :=
  [.wire (.bulk Wire.firstResponse), .wire (.writer .pollControl), .wire (.writer .pollBulk),
    .wire (.control (.ping "worker")), .elapse (3 * second), .wire (.writer .sendOk),
    .wire (.writer .pollControl), .elapse (5 * second),
    .wire (.writer (.sendFailed sendTimedOut))]

theorem serves_of_run_pingTimesOut
    : ∃ history w,
        (timedWire (5 * second)).exec (start 1 0) pingTimesOut = some (history, w)
        ∧ w.Serves (5 * second) history
        ∧ dues (5 * second) history = [45 * second]
        ∧ handedFrames (Machine.eventsOf history)
          = [.bulk Wire.firstResponse, .control (.ping "worker")]
        ∧ w.now = 8 * second := by
  obtain ⟨history, w, executed, due, handed, past⟩
      : ∃ history w,
          (timedWire (5 * second)).exec (start 1 0) pingTimesOut = some (history, w)
          ∧ dues (5 * second) history = [45 * second]
          ∧ handedFrames (Machine.eventsOf history)
            = [.bulk Wire.firstResponse, .control (.ping "worker")]
          ∧ w.now = 8 * second :=
    ⟨_, _, rfl, rfl, rfl, rfl⟩
  exact ⟨history, w, executed, serves_of_run (Machine.exec_run executed), due, handed, past⟩

end TimedWire

end ProxyClient
