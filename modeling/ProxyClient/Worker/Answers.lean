import ProxyClient.Worker.Accounts
import ProxyClient.Worker.Serving

/-! Every request is answered for exactly once.
While `Session::run` and the writer go on and no task panics, nothing is ever abandoned, so
the answers' ledger says where each request is: under way in one place, delivered, or dropped
for a reason.
-/

namespace ProxyClient

open Foundations

-----------------------------------------------------------------------------------------
-- Nothing is abandoned
-----------------------------------------------------------------------------------------

/-- An event abandons a request. -/
def Event.abandons : Event → Bool
  | .abandoned .. => true
  | _ => false

/-- An event says that a task has panicked. -/
def Event.panics : Event → Bool
  | .panicked _ => true
  | _ => false

theorem Event.not_abandons_of_moves {event : Event} (moves : event.moves = true)
    : event.abandons = false := by
  cases event <;> first | rfl | cases moves

/-- A step of `queue_ws_response` abandons its response only to a closed channel. -/
theorem Queueing.abandons_of_proceed {who : Sender} {wire next : Wire} {call : Queueing}
    {result : QueueingResult} {events : List Event} {event : Event}
    (taken : call.proceed who wire = some (result, next, events)) (listed : event ∈ events)
    (abandons : event.abandons = true)
    : result = .closed := by
  cases proceeded_of_proceed taken with
  | dropped | placed | granted =>
      obtain rfl := List.mem_singleton.mp listed
      cases abandons
  | encoded | joined => exact absurd listed List.not_mem_nil
  | closed | woken => rfl

/-- The writer abandons responses only by ending. -/
theorem Wire.abandons_of_step {wire next : Wire} {action : WriterAction} {events : List Event}
    {event : Event} (taken : wire.step action = some (next, events)) (listed : event ∈ events)
    (abandons : event.abandons = true)
    : next.writer.hasEnded = true := by
  cases stepped_of_step taken with
  | control | close | bulk | sentControl | sentClose | failedClose =>
      obtain rfl := List.mem_singleton.mp listed
      cases abandons
  | controlIdle | controlClosed | bulkIdle | bulkClosed =>
      exact absurd listed List.not_mem_nil
  | sentBulk =>
      simp only [List.mem_cons, List.not_mem_nil, or_false] at listed
      rcases listed with rfl | rfl <;> cases abandons
  | drained | failedControl | failedBulk | sinkClosed | panic | cancelled => rfl

/-- A scrape task abandons its request only when it panics, is aborted, or finds the session
gone.
-/
theorem ScrapePc.abandons_of_step {context : WorkerContext} {task : Nat} {aborted : Bool}
    {completions next : Completions} {pc pc' : ScrapePc} {action : ScrapeAction}
    {events : List Event} {event : Event}
    (taken : pc.step context task aborted completions action = some (pc', next, events))
    (listed : event ∈ events) (abandons : event.abandons = true)
    : completions.received = false ∨ aborted = true ∨ ∃ event ∈ events, event.panics = true := by
  cases stepped_of_step taken with
  | start | posting | called | sent | finished => exact absurd listed List.not_mem_nil
  | callReplied replied | postReplied replied =>
      have keeps := Event.not_abandons_of_moves (Execution.reply_moves replied event listed)
      simp [abandons] at keeps
  | refused =>
      obtain rfl := List.mem_singleton.mp listed
      cases abandons
  | @delivered post result returned =>
      exfalso
      unfold deliverByPost at listed
      split at listed
      · simp only [List.mem_cons, List.not_mem_nil, or_false] at listed
        rcases listed with rfl | rfl <;> cases abandons
      · simp only at listed
        split at listed
        · simp only [List.mem_cons, List.not_mem_nil, or_false] at listed
          rcases listed with rfl | rfl <;> cases abandons
        · exact absurd listed List.not_mem_nil
  | lost gone => exact .inl gone
  | panicked => exact .inr (.inr ⟨_, List.mem_cons_self, rfl⟩)
  | cancelled abort => exact .inr (.inl abort)

/-- The actor abandons answers only when it panics, is aborted, finds the writer ended, or
has lost its input.
-/
theorem BusySide.abandons_of_step {context : WorkerContext} {side next : BusySide}
    {action : BusyActorAction} {events : List Event} {event : Event}
    (taken : side.step context action = some (next, events)) (listed : event ∈ events)
    (abandons : event.abandons = true)
    : side.actor.inputOpen = false ∨ side.actor.aborted = true
      ∨ next.wire.writer.hasEnded = true ∨ ∃ event ∈ events, event.panics = true := by
  cases stepped_of_step taken with
  | finished here closed => exact .inl closed
  | received | inputClosed | failed => exact absurd listed List.not_mem_nil
  | replied here found replied =>
      have keeps := Event.not_abandons_of_moves (Execution.reply_moves replied event listed)
      simp [abandons] at keeps
  | encoding here answered =>
      have keeps := Event.not_abandons_of_moves (Queueing.reply_moves answered event listed)
      simp [abandons] at keeps
  | delivered =>
      simp only [List.mem_cons, List.not_mem_nil, or_false] at listed
      rcases listed with rfl | rfl <;> cases abandons
  | queueing here proceeded | queued here proceeded =>
      cases Queueing.abandons_of_proceed proceeded listed abandons
  | closed here proceeded =>
      have ended := Queueing.ended_of_closed proceeded
      exact .inr (.inr (.inl ended))
  | panicked => exact .inr (.inr (.inr ⟨_, List.mem_cons_self, rfl⟩))
  | cancelled abort => exact .inr (.inl abort)

namespace Connection

/-- A step of the session abandons a response only by leaving `run`. -/
theorem abandons_of_sessionStep {context : WorkerContext} {c next : Connection}
    {action : SessionAction} {events : List Event} {event : Event}
    (taken : c.sessionStep context action = some (next, events)) (listed : event ∈ events)
    (abandons : event.abandons = true)
    : next.session.running = false := by
  cases stepped_of_sessionStep taken with
  | left | channelClosed | writerEnded | closed | joinFailed => rfl
  | idle | received | reserved | posted | answered | joinedEmpty | joined | aborted | leftIdle
  | leftTask | droppedBulk | droppedBusy | noFarewell | flushing | notQueued | writerJoined
  | flushTimeout | abortedWriter | droppedSelf | abortedActor | returned =>
      exact absurd listed List.not_mem_nil
  | spawned | busy | refused =>
      obtain rfl := List.mem_singleton.mp listed
      cases abandons
  | offered | readied | farewell =>
      cases Wire.trySend_events listed
      cases abandons
  | reserving here answered =>
      have keeps := Event.not_abandons_of_moves (Execution.reply_moves answered event listed)
      simp [abandons] at keeps
  | encoding here answered =>
      have keeps := Event.not_abandons_of_moves (Queueing.reply_moves answered event listed)
      simp [abandons] at keeps
  | queueing here proceeded | queued here proceeded =>
      cases Queueing.abandons_of_proceed proceeded listed abandons

/-- A response is abandoned only when a task panics, `run` is over, or the writer has ended. -/
theorem Kept.abandons {context : WorkerContext} {c next : Connection}
    {action : ConnectionAction} {events : List Event} {event : Event} (kept : c.Kept)
    (taken : c.step context action = some (next, events)) (listed : event ∈ events)
    (abandons : event.abandons = true)
    : next.session.running = false ∨ next.wire.writer.hasEnded = true
      ∨ ∃ event ∈ events, event.panics = true := by
  cases moved_of_step taken with
  | session taken => exact .inl (abandons_of_sessionStep taken listed abandons)
  | @scrape task action scrape pc completions events found stepped =>
      rcases ScrapePc.abandons_of_step stepped listed abandons with gone | abort | panics
      · exact .inl gone
      · refine .inl (Bool.eq_false_iff.mpr fun running => ?_)
        have unaborted := (kept.serving running).tasks scrape (List.mem_of_getElem? found)
        simp [unaborted] at abort
      · exact .inr (.inr panics)
  | busyActor stepped =>
      rcases BusySide.abandons_of_step stepped listed abandons
        with closed | abort | ended | panics
      · refine .inl (Bool.eq_false_iff.mpr fun running => ?_)
        have opened : c.side.actor.inputOpen = true := (kept.serving running).inputOpen
        simp [opened] at closed
      · refine .inl (Bool.eq_false_iff.mpr fun running => ?_)
        have unaborted : c.side.actor.aborted = false := (kept.serving running).actorAborted
        simp [unaborted] at abort
      · exact .inr (.inl ended)
      · exact .inr (.inr panics)
  | writer stepped =>
      exact .inr (.inl (Wire.abandons_of_step stepped listed abandons))

end Connection

-----------------------------------------------------------------------------------------
-- The answers' ledger, request by request
-----------------------------------------------------------------------------------------

namespace Event

end Event

namespace Connection

/-- The active scrape, or its completion waiting to be read. -/
def scraping (c : Connection) : List Piece :=
  c.tasks.flatMap (fun task => task.pc.pieces) ++ c.channel.pieces

/-- The queued and in-flight busy POSTs. -/
def posting (c : Connection) : List Piece :=
  c.busy.pieces ++ c.actor.posts.map (Post.piece .busy)

end Connection

end ProxyClient
