import ProxyClient.Worker.Finishing
import ProxyClient.Worker.Wiring

/-! What a connection says besides its responses.
The session answers some of what happens to it with control frames. What the writer hands to the
socket is the register message, and then some of these answers in their order: a full queue or
the end of the writer may lose some, but nothing else is ever said.
-/

namespace ProxyClient

open Foundations List

/-- The control frames that are queued are shown on the wire. -/
theorem queuedControl_wireEvents (events : List Event)
    : queuedControl (wireEvents events) = queuedControl events := by
  rw [queuedControl, wireEvents, List.filterMap_filterMap, queuedControl]
  congr 1
  funext event
  cases event <;> rfl

-----------------------------------------------------------------------------------------
-- Steps that queue no control frame
-----------------------------------------------------------------------------------------

theorem queuedControl_of_moves {events : List Event}
    (moves : ∀ event ∈ events, event.moves = true)
    : queuedControl events = [] := by
  refine List.filterMap_eq_nil_iff.mpr fun event listed => ?_
  have moved := moves event listed
  cases event <;> first | rfl | cases moved

theorem Queueing.queuedControl_of_proceed {who : Sender} {wire next : Wire} {call : Queueing}
    {result : QueueingResult} {events : List Event}
    (taken : call.proceed who wire = some (result, next, events))
    : queuedControl events = [] := by
  cases proceeded_of_proceed taken with
  | dropped | encoded | closed | placed | joined | woken | granted => rfl

theorem Wire.queuedControl_of_step {wire next : Wire} {action : WriterAction} {events : List Event}
    (taken : wire.step action = some (next, events))
    : queuedControl events = [] := by
  cases stepped_of_step taken with
  | control | close | bulk | sentControl | sentClose | failedClose | controlIdle | controlClosed
  | bulkIdle | bulkClosed | sentBulk => rfl
  | drained | sinkClosed | failedControl | failedBulk | panic | cancelled =>
      simp [finish, Piece.lost, Event.controlQueued?]

theorem ScrapePc.queuedControl_of_step {context : WorkerContext} {task : Nat} {aborted : Bool}
    {completions next : Completions} {pc pc' : ScrapePc} {action : ScrapeAction}
    {events : List Event}
    (taken : pc.step context task aborted completions action = some (pc', next, events))
    : queuedControl events = [] := by
  cases stepped_of_step taken with
  | start | posting | called | sent | finished | refused => rfl
  | callReplied replied | postReplied replied =>
      exact queuedControl_of_moves (Execution.reply_moves replied)
  | delivered =>
      unfold deliverByPost
      split
      · rfl
      · simp only
        split <;> rfl
  | lost | cancelled => exact queuedControl_lose _
  | panicked => simp [Event.controlQueued?]

theorem BusySide.queuedControl_of_step {context : WorkerContext} {side next : BusySide}
    {action : BusyActorAction} {events : List Event}
    (taken : side.step context action = some (next, events))
    : queuedControl events = [] := by
  cases stepped_of_step taken with
  | received | inputClosed | failed | delivered => rfl
  | replied here found replied => exact queuedControl_of_moves (Execution.reply_moves replied)
  | encoding here answered => exact queuedControl_of_moves (Queueing.reply_moves answered)
  | queueing here proceeded | queued here proceeded =>
      exact Queueing.queuedControl_of_proceed proceeded
  | closed here proceeded =>
      rw [queuedControl_append, Queueing.queuedControl_of_proceed proceeded, queuedControl_lose,
        List.append_nil]
  | finished | cancelled => exact queuedControl_lose _
  | panicked => simp [Event.controlQueued?]

namespace Connection

-----------------------------------------------------------------------------------------
-- Replies
-----------------------------------------------------------------------------------------

/-- The control frames with which a session answers what happens to it. -/
def repliesTo (context : WorkerContext) (c : Connection) : SessionAction → List Message
  | .shutdown => [closeAway "client shutdown"]
  | .heartbeat timedOut =>
      if timedOut then [closeAway "heartbeat timeout"]
      else [.text .ping, .ping context.workerName]
  | .read (.text (some .ping)) => [.text .pong]
  | .read (.text (some (.ready uid))) =>
      if uid.len ≤ maxUidSize ∧ 2 ≤ context.protocol ∧ c.activeTask = none then
        [.text (.ready uid.text context.workerName)]
      else []
  | .read (.ping payload) => [.pong payload]
  | .read (.close frame) => [.close frame]
  | .read _ | .writerEnded | .completion | .reply _ | .proceed | .flushTimeout => []

/-- The control frames with which a step of a connection is answered. -/
def answersTo (context : WorkerContext)
    (transition : Transition Connection ConnectionAction Event)
    : List Message :=
  match transition.action with
  | .session action => repliesTo context transition.before action
  | .scrape .. | .busyActor _ | .writer _ => []

/-- The replies to everything that happens in a history. -/
def replies (context : WorkerContext)
    (history : List (Transition Connection ConnectionAction Event))
    : List Message :=
  history.flatMap (answersTo context)

/-- The replies that a session has still to offer to its writer. -/
def owed (context : WorkerContext) (c : Connection) : List Message :=
  match c.session with
  | .pinging => [.ping context.workerName]
  | .exited ending | .cancelling _ ending | .droppingBulk ending | .droppingBusy ending
  | .farewelling ending => ending.farewell.toList
  | .select | .reserving .. | .answering _ | .queueing _ | .joining .. | .droppingControl ..
  | .flushing _ | .abortingWriter _ | .awaitingWriter _ | .droppingSelf _ | .abortingActor _
  | .awaitingActor _ | .returned _ => []

/-- What is queued and still owed after a step was owed before or answers the step, and unless
the control queue has no room for it, nothing is lost.
-/
def Replies (context : WorkerContext) (c : Connection) (answers : List Message)
    (next : Connection) (events : List Event)
    : Prop :=
  queuedControl events ++ next.owed context = c.owed context ++ answers
  ∨ queuedControl events ++ next.owed context <+ c.owed context ++ answers
    ∧ c.wire.controlRoom = false

section Steps

variable {context : WorkerContext} {c next : Connection} {events : List Event}

/-- An offered frame is queued, or there is no room for it. -/
theorem queuedControl_offer (c : Connection) (message : Message) (session : SessionPc)
    : queuedControl (c.offer message session).2 = [message]
      ∨ queuedControl (c.offer message session).2 = [] ∧ c.wire.controlRoom = false := by
  have shown : (c.offer message session).2 = (c.wire.trySend message).2 := rfl
  rw [shown]
  unfold Wire.trySend
  split
  · exact .inl rfl
  · next full => exact .inr ⟨rfl, Bool.eq_false_iff.mpr full⟩

/-- A session that offers a frame goes on with what it owes besides. -/
theorem Replies.offered {message : Message} {session : SessionPc} {answers : List Message}
    (more : List Message) (asked : c.owed context ++ answers = message :: more)
    (owed : (c.offer message session).1.owed context = more)
    : Replies context c answers (c.offer message session).1 (c.offer message session).2 := by
  unfold Replies
  rw [asked, owed]
  rcases c.queuedControl_offer message session with queued | ⟨lost, full⟩
  · exact .inl (by simp [queued])
  · exact .inr ⟨by simp [lost], full⟩

/-- A step that queues no control frame leaves what is owed and what answers the step. -/
theorem Replies.quietly {answers : List Message} (quiet : queuedControl events = [])
    (owed : next.owed context = c.owed context ++ answers)
    : Replies context c answers next events :=
  .inl (by rw [quiet, owed, List.nil_append])

theorem replies_handleMessage {message : IncomingMessage} (idle : c.owed context = [])
    (here : c.session = .select) (valid : message.validate = .ok ())
    (handled : c.handleMessage context message = (next, events))
    : Replies context c (repliesTo context c (.read (.text (some message)))) next events := by
  cases message with
  | ping =>
      obtain ⟨rfl, rfl⟩ := handled
      exact .offered [] (by rw [idle]; rfl) rfl
  | pong | unknown =>
      obtain ⟨rfl, rfl⟩ := handled
      exact .quietly rfl (by rw [idle]; rfl)
  | ready uid =>
      have short : uid.len ≤ maxUidSize := validateField_eq_ok.mp valid
      simp only [handleMessage] at handled
      split at handled
      · next free =>
          obtain ⟨rfl, rfl⟩ := handled
          have asked : repliesTo context c (.read (.text (some (.ready uid))))
              = [.text (.ready uid.text context.workerName)] :=
            if_pos ⟨short, free.1, Option.isNone_iff_eq_none.mp free.2⟩
          exact .offered [] (by rw [idle, asked]; rfl) rfl
      · next busy =>
          obtain ⟨rfl, rfl⟩ := handled
          have unasked : repliesTo context c (.read (.text (some (.ready uid)))) = [] :=
            if_neg fun free => busy ⟨free.2.1, Option.isNone_iff_eq_none.mpr free.2.2⟩
          exact .quietly rfl (by rw [idle, unasked]; rfl)
  | request uid resource =>
      simp only [handleMessage] at handled
      split at handled
      · obtain ⟨rfl, rfl⟩ := handled
        exact .quietly rfl (by rw [idle]; rfl)
      · obtain ⟨rfl, rfl⟩ := handled
        exact .quietly rfl (by simp [owed, here, repliesTo])

/-- A message that fails validation is not answered. -/
theorem repliesTo_invalid {message : IncomingMessage} {error : FieldLimitError}
    (invalid : message.validate = .error error)
    : repliesTo context c (.read (.text (some message))) = [] := by
  cases message with
  | ping | pong | unknown => cases invalid
  | request => rfl
  | ready uid =>
      refine if_neg fun free => ?_
      have valid : validateUid uid.text = .ok () := validateField_eq_ok.mpr free.1
      cases invalid.symm.trans valid

theorem replies_handleFrame {frame : ServerFrame} (here : c.session = .select)
    (handled : c.handleFrame context frame = (next, events))
    : Replies context c (repliesTo context c (.read frame)) next events := by
  have idle : c.owed context = [] := by simp [owed, here]
  cases frame with
  | text message =>
      simp only [handleFrame, handleText] at handled
      split at handled
      · obtain ⟨rfl, rfl⟩ := handled
        exact .quietly rfl (by rw [idle]; rfl)
      · next incoming =>
          split at handled
          · next error invalid =>
              obtain ⟨rfl, rfl⟩ := handled
              exact .quietly rfl (by rw [idle, repliesTo_invalid invalid]; rfl)
          · next valid => exact replies_handleMessage idle here valid handled
  | ping payload =>
      obtain ⟨rfl, rfl⟩ := handled
      exact .offered [] (by rw [idle]; rfl) rfl
  | pong | unsupported =>
      obtain ⟨rfl, rfl⟩ := handled
      exact .quietly rfl (by rw [idle]; rfl)
  | close frame | failed | finished =>
      obtain ⟨rfl, rfl⟩ := handled
      exact .quietly (queuedControl_lose _) (by rw [idle]; rfl)

/-- A session that leaves its tasks still owes its farewell, unless the writer has ended. -/
theorem replies_leaveTasks {ending : Ending} (owes : c.owed context = ending.farewell.toList)
    (done : c.writerDone = true → c.wire.writer.hasEnded = true)
    : Replies context c [] (c.leaveTasks ending) [] := by
  unfold leaveTasks
  split
  · next finished =>
      refine .inr ⟨?_, by simp [Wire.controlRoom, done finished]⟩
      exact List.nil_sublist _
  · exact .quietly rfl (by rw [owes, List.append_nil]; rfl)

theorem replies_handleJoined {task : Nat} {response : Option BudgetedResponse}
    {result : TaskResult} (here : c.session = .joining task response)
    : Replies context c [] (c.handleJoined response result).1
        (c.handleJoined response result).2 := by
  have idle : c.owed context = [] := by simp [owed, here]
  cases result with
  | completed => cases response <;> exact .quietly rfl (by rw [idle]; rfl)
  | panicked | cancelled =>
      exact .quietly (by simp [handleJoined, fail, exit]) (by rw [idle]; rfl)

/-- Outside its `select!` the session answers nothing new: it offers what it owes. -/
theorem replies_proceed (done : c.writerDone = true → c.wire.writer.hasEnded = true)
    (taken : c.proceed context = some (next, events))
    : Replies context c [] next events := by
  unfold proceed at taken
  split at taken
  · cases taken
  · next here =>
      obtain ⟨rfl, rfl⟩ := taken
      exact .offered [] (by simp [owed, here]) rfl
  · next uid execution here =>
      obtain ⟨result, -, same⟩ := Option.map_eq_some_iff.mp taken
      cases result with
      | error error | ok response =>
          obtain ⟨rfl, rfl⟩ := same
          exact .quietly rfl (by simp [owed, here])
  · next response here =>
      obtain ⟨rfl, rfl⟩ := taken
      refine .quietly rfl ?_
      unfold answerBusy
      split <;> simp [owed, here]
  · next call here =>
      obtain ⟨⟨result, wire, events'⟩, proceeded, same⟩ := Option.map_eq_some_iff.mp taken
      have quiet := Queueing.queuedControl_of_proceed proceeded
      cases result with
      | again call' | finished =>
          obtain ⟨rfl, rfl⟩ := same
          exact .quietly quiet (by simp [owed, here])
      | closed =>
          obtain ⟨rfl, rfl⟩ := same
          refine .quietly ?_ (by simp [owed, here])
          rw [queuedControl_append, quiet]
          exact queuedControl_lose _
  · next task response here =>
      obtain ⟨result, -, same⟩ := Option.map_eq_some_iff.mp taken
      obtain ⟨rfl, rfl⟩ := Prod.mk.injEq .. ▸ same
      exact replies_handleJoined here
  · next ending here =>
      split at taken
      · obtain ⟨rfl, rfl⟩ := taken
        exact .quietly rfl (by simp [owed, here])
      · obtain ⟨rfl, rfl⟩ := taken
        exact replies_leaveTasks (by simp [owed, here]) done
  · next task ending here =>
      obtain ⟨result, -, same⟩ := Option.map_eq_some_iff.mp taken
      obtain ⟨rfl, rfl⟩ := same
      exact replies_leaveTasks (by simp [owed, here]) done
  · next ending here =>
      obtain ⟨rfl, rfl⟩ := taken
      exact .quietly rfl (by simp [owed, here])
  · next ending here =>
      obtain ⟨rfl, rfl⟩ := taken
      exact .quietly rfl (by simp [owed, here])
  · next ending here =>
      split at taken
      · next message given =>
          obtain ⟨rfl, rfl⟩ := taken
          exact .offered [] (by simp [owed, here, given]) rfl
      · next none =>
          obtain ⟨rfl, rfl⟩ := taken
          exact .quietly rfl (by simp [owed, here, none])
  · next queued result here =>
      obtain ⟨rfl, rfl⟩ := taken
      refine .quietly rfl ?_
      cases queued <;> simp [owed, here]
  · next result here =>
      split at taken
      · obtain ⟨rfl, rfl⟩ := taken
        exact .quietly rfl (by simp [owed, here])
      · cases taken
  · next result here =>
      obtain ⟨rfl, rfl⟩ := taken
      exact .quietly rfl (by simp [owed, here])
  · next result here =>
      split at taken
      · obtain ⟨rfl, rfl⟩ := taken
        exact .quietly rfl (by simp [owed, here])
      · cases taken
  · next result here =>
      obtain ⟨rfl, rfl⟩ := taken
      exact .quietly rfl (by simp [owed, here])
  · next result here =>
      obtain ⟨rfl, rfl⟩ := taken
      exact .quietly rfl (by simp [owed, here])
  · next result here =>
      split at taken
      · obtain ⟨rfl, rfl⟩ := taken
        exact .quietly rfl (by simp [owed, here])
      · cases taken
  · cases taken

/-- Each step of the session offers what it owes or what answers the step, and nothing else. -/
theorem replies_sessionStep {action : SessionAction}
    (done : c.writerDone = true → c.wire.writer.hasEnded = true)
    (taken : c.sessionStep context action = some (next, events))
    : Replies context c (repliesTo context c action) next events := by
  cases action with
  | shutdown =>
      simp only [sessionStep] at taken
      split at taken
      · next here =>
          obtain ⟨rfl, rfl⟩ := taken
          exact .quietly (queuedControl_lose _) (by simp [owed, here, repliesTo])
      · cases taken
  | writerEnded =>
      simp only [sessionStep] at taken
      split at taken
      · next result here ended =>
          obtain ⟨rfl, rfl⟩ := taken
          exact .quietly (queuedControl_lose _) (by simp [owed, here, repliesTo])
      · cases taken
  | heartbeat timedOut =>
      simp only [sessionStep] at taken
      split at taken
      · next here =>
          split at taken
          · next silent =>
              obtain ⟨rfl, rfl⟩ := taken
              exact .quietly (queuedControl_lose _)
                (by simp [owed, here, repliesTo, silent])
          · next heard =>
              obtain ⟨rfl, rfl⟩ := taken
              exact .offered [.ping context.workerName]
                (by simp [owed, here, repliesTo, heard]) rfl
      · cases taken
  | completion =>
      simp only [sessionStep, handleCompletion] at taken
      split at taken
      · next here =>
          split at taken
          · cases taken
          · split at taken
            · obtain ⟨rfl, rfl⟩ := taken
              exact .quietly (queuedControl_lose _)
                (by simp [owed, here, repliesTo])
            · cases taken
          · obtain ⟨rfl, rfl⟩ := taken
            exact .quietly rfl (by simp [owed, here, repliesTo])
      · cases taken
  | read frame =>
      simp only [sessionStep] at taken
      split at taken
      · next here => exact replies_handleFrame here (Option.some.inj taken)
      · cases taken
  | reply reply =>
      simp only [sessionStep] at taken
      split at taken
      · next uid execution here =>
          obtain ⟨⟨execution', events'⟩, answered, same⟩ := Option.map_eq_some_iff.mp taken
          obtain ⟨rfl, rfl⟩ := same
          exact .quietly (queuedControl_of_moves (Execution.reply_moves answered))
            (by simp [owed, here, repliesTo])
      · next call here =>
          obtain ⟨⟨call', events'⟩, answered, same⟩ := Option.map_eq_some_iff.mp taken
          obtain ⟨rfl, rfl⟩ := same
          exact .quietly (queuedControl_of_moves (Queueing.reply_moves answered))
            (by simp [owed, here, repliesTo])
      · cases taken
  | proceed => exact replies_proceed done taken
  | flushTimeout =>
      simp only [sessionStep] at taken
      split at taken
      · next result here =>
          obtain ⟨rfl, rfl⟩ := taken
          exact .quietly rfl (by simp [owed, here, repliesTo])
      · cases taken

/-- The other tasks neither speak for the session nor answer anything. -/
theorem replies_of_step {action : ConnectionAction}
    (done : c.writerDone = true → c.wire.writer.hasEnded = true)
    (taken : c.step context action = some (next, events))
    : Replies context c (answersTo context ⟨c, action, events, next⟩) next events := by
  cases moved_of_step taken with
  | session taken => exact replies_sessionStep done taken
  | scrape found stepped =>
      exact .quietly (ScrapePc.queuedControl_of_step stepped) (List.append_nil _).symm
  | busyActor stepped =>
      exact .quietly (BusySide.queuedControl_of_step stepped) (List.append_nil _).symm
  | writer stepped =>
      exact .quietly (Wire.queuedControl_of_step stepped) (List.append_nil _).symm

end Steps

-----------------------------------------------------------------------------------------
-- Runs
-----------------------------------------------------------------------------------------

/-- Whenever a step has something to say, the control queue has room for it. -/
def HasRoom (context : WorkerContext)
    (history : List (Transition Connection ConnectionAction Event))
    : Prop :=
  ∀ transition ∈ history,
    transition.before.owed context ++ answersTo context transition ≠ []
    → transition.before.wire.controlRoom = true

/-- What a connection says besides its responses: the register message first, and after it some
of its replies in their order, none of which is the register message again. With room for all of
them, none is missing. Nothing follows a `Close`.
-/
structure Converses (context : WorkerContext) (name : String)
    (history : List (Transition Connection ConnectionAction Event)) (c : Connection)
    : Prop where
  handed
    : controlOf (handedFrames (Machine.eventsOf history))
      <+: register context name :: queuedControl (Machine.eventsOf history)
  queued
    : queuedControl (Machine.eventsOf history) ++ c.owed context <+ replies context history
  all
    : HasRoom context history
      → queuedControl (Machine.eventsOf history) ++ c.owed context = replies context history
  once : register context name ∉ queuedControl (Machine.eventsOf history)
  closed
    : ∀ earlier message later,
        handedFrames (Machine.eventsOf history) = earlier ++ .control message :: later
        → message.isClose = true
        → later = []

/-- The register message answers nothing. -/
theorem register_not_mem_replies {context : WorkerContext} {name : String}
    {history : List (Transition Connection ConnectionAction Event)}
    : register context name ∉ replies context history := by
  intro listed
  obtain ⟨transition, -, answered⟩ := List.mem_flatMap.mp listed
  unfold answersTo at answered
  split at answered
  · next action here =>
      unfold repliesTo at answered
      split at answered
      · simp [register, closeAway] at answered
      · split at answered <;> simp [register, closeAway] at answered
      · simp [register] at answered
      · split at answered <;> simp [register] at answered
      all_goals simp [register] at answered
  all_goals simp at answered

section Runs

variable {context : WorkerContext} {name : String}
  {history : List (Transition Connection ConnectionAction Event)} {c : Connection}
  (run : (connectionMachine context).Run (new context name) history c)
include run

/-- What has been queued and is still owed are replies, in their order, by induction over the
run: what a step adds was owed before it or answers it.
-/
theorem replies_of_run
    : queuedControl (Machine.eventsOf history) ++ c.owed context <+ replies context history
      ∧ (HasRoom context history
        → queuedControl (Machine.eventsOf history) ++ c.owed context
          = replies context history) := by
  induction run with
  | start => exact ⟨.slnil, fun _ => rfl⟩
  | @step history before action events next reached taken ih =>
      have answered := replies_of_step (finishing_of_run reached).done taken
      have longer
          : replies context (history ++ [⟨before, action, events, next⟩])
            = replies context history ++ answersTo context ⟨before, action, events, next⟩ := by
        simp [replies]
      simp only [Machine.eventsOf_append, Machine.eventsOf_singleton, queuedControl_append,
        List.append_assoc, longer]
      constructor
      · have earlier := ih.1.append_right (answersTo context ⟨before, action, events, next⟩)
        rw [List.append_assoc] at earlier
        refine .trans (.append_left ?_ _) earlier
        rcases answered with same | ⟨some, -⟩
        · exact same ▸ .refl _
        · exact some
      · intro room
        have said := ih.2 fun transition listed => room transition (List.mem_append_left _ listed)
        rw [← said, List.append_assoc]
        congr 1
        rcases answered with same | ⟨part, full⟩
        · exact same
        · -- There is no room, so there is nothing to say.
          have last := room ⟨before, action, events, next⟩ (by simp)
          by_cases silent
              : before.owed context ++ answersTo context ⟨before, action, events, next⟩ = []
          · rw [silent] at part ⊢
            exact List.sublist_nil.mp part
          · exact absurd (last silent) (by simp [full])

/-- Nothing is said besides the register message and the replies to what happens. -/
theorem converses_of_run : Converses context name history c := by
  obtain ⟨matching, wired, same⟩ := refines_wire run
  have offered
      : wireMachine.Run (Wire.start 2)
          [⟨.start 2, .control (register context name),
            [.controlQueued (register context name)], .new (register context name)⟩]
          (.new (register context name)) :=
    .single rfl
  have told := Wire.told_of_run (offered.trans wired)
  rw [Machine.eventsOf_append, Machine.eventsOf_singleton, List.singleton_append] at told
  have handed
      : handedFrames (Machine.eventsOf matching) = handedFrames (Machine.eventsOf history) := by
    rw [← handedFrames_wireEvents, same, handedFrames_wireEvents]
  have queued
      : queuedControl (Machine.eventsOf matching) = queuedControl (Machine.eventsOf history) := by
    rw [← queuedControl_wireEvents, same, queuedControl_wireEvents]
  obtain ⟨some, all⟩ := replies_of_run run
  refine {
    handed := ?_
    queued := some
    all
    once := fun listed => ?_
    closed := fun earlier message later split closes => ?_
  }
  · rw [← handed, ← queued]
    exact told.fifo.controlPrefix
  · have replied := some.subset (List.mem_append_left _ listed)
    exact register_not_mem_replies replied
  · rw [← handed] at split
    obtain ⟨before, rest, whole, -, shown⟩ := List.filterMap_eq_append_iff.mp split
    obtain ⟨silent, event, after, within, quiet, here, rfl⟩ :=
      List.filterMap_eq_cons_iff.mp shown
    have halts : event.halts = true := by
      cases event with
      | handed frame =>
          obtain rfl := Option.some.inj here
          exact closes
      | acquired | refused | released | requested | posted | dropped | abandoned | panicked
      | controlQueued | bulkQueued | sent | sendFailed | writerReturned => cases here
    refine told.final.after (.controlQueued (register context name) :: before ++ silent) event
      after ?_ halts
    simp [whole, within]

end Runs

/-- The server pings, the heartbeat ticks, and the session is told to shut down; the writer sends
everything up to the `Close`.
-/
def pinged : List ConnectionAction :=
  [.session (.read (.text (some .ping))), .session (.heartbeat false), .session .proceed,
    .session .shutdown, .session .proceed, .session .proceed, .session .proceed,
    .session .proceed, .writer .pollControl, .writer .sendOk, .writer .pollControl,
    .writer .sendOk, .writer .pollControl, .writer .sendOk, .writer .pollControl,
    .writer .sendOk, .writer .pollControl]

/-- The connection registers, answers the ping, sends its own and says why it closes. -/
theorem converses_of_run_pinged
    : ∃ history c,
        Connection.exec (.bare 1) pinged = some (history, c)
        ∧ handedFrames (Machine.eventsOf history)
          = [.control (register (.bare 1) "instance"), .control (.text .pong),
              .control (.text .ping), .control (.ping "worker"),
              .control (closeAway "client shutdown")]
        ∧ Converses (.bare 1) "instance" history c := by
  obtain ⟨history, c, executed, handed⟩
      : ∃ history c,
          Connection.exec (.bare 1) pinged = some (history, c)
          ∧ handedFrames (Machine.eventsOf history)
            = [.control (register (.bare 1) "instance"), .control (.text .pong),
                .control (.text .ping), .control (.ping "worker"),
                .control (closeAway "client shutdown")] :=
    ⟨_, _, rfl, rfl⟩
  exact ⟨history, c, executed, handed, converses_of_run (Machine.exec_run executed)⟩

end Connection

end ProxyClient
