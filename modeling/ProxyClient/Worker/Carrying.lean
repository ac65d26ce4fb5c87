import ProxyClient.Network
import ProxyClient.Worker.Accounts
import ProxyClient.Worker.Handshake

/-! What a connection carries from the calls that made it to the socket and the HTTP client.
`Carries` says that every response in a connection, in whatever form it is held, is one that
`made` allows, with its origin. No step but the two that make responses can break that.
-/

namespace ProxyClient

open Foundations Memory

-----------------------------------------------------------------------------------------
-- What is carried
-----------------------------------------------------------------------------------------

section Carried

variable (made : Origin → ResourceResponse → Prop)

/-- An encoded response carries a response that was made: that one or its downgraded form. -/
def EncodedResponse.Carries (encoded : EncodedResponse) : Prop :=
  ∃ response,
    made encoded.origin response
    ∧ (encoded.source = response ∨ encoded.source = response.downgraded)

/-- So does a call of `queue_ws_response`, which still encodes it or already holds its text. -/
def Queueing.Carries : Queueing → Prop
  | .encoding origin _ execution =>
      ∃ response,
        made origin response
        ∧ Running.Sound (coverage 0) (Encoded responseEncoder origin response 0) execution
        ∧ execution.Within Op.Local
  | .sending response | .suspended response => response.Carries made

/-- A POST carries a response that was made, and will post nothing but its form. -/
structure Post.Carries (context : WorkerContext) (origin : Origin) (post : Post) : Prop where
  response : made origin post.response.response
  form : post.execution.Within (DeliversOnly context post.response.response)

/-- The response of a completion, if it has one, was made by a scrape. -/
def CompletionCarries (response : Option BudgetedResponse) : Prop :=
  ∀ kept ∈ response, made .scrape kept.response

def Completions.Carries (completions : Completions) : Prop :=
  ∀ completion ∈ completions.queue, CompletionCarries made completion.2

/-- A scrape task carries nothing before its call has returned. -/
def ScrapePc.Carries (context : WorkerContext) : ScrapePc → Prop
  | .posting post => post.Carries made context .scrape
  | .completing response => CompletionCarries made response
  | .spawned .. | .calling .. | .returning | .ended _ => True

/-- The responses on their way to the socket. -/
def Wire.Carries (wire : Wire) : Prop :=
  ∀ response ∈ wire.writer.inHand ++ wire.bulk, response.Carries made

/-- What the actor, its queue and the wire carry. -/
structure BusySide.Carries (context : WorkerContext) (side : BusySide) : Prop where
  call : ∀ call, side.actor.pc = .queueing call → call.Carries made
  posts : ∀ post ∈ side.actor.posts, post.Carries made context .busy
  queued : ∀ response ∈ side.busy.queue, made .busy response.response
  wire : side.wire.Carries made

/-- A rejection that `try_new` makes, if it does. -/
def Rejection (uid : RustString) (result : Except MemoryBudgetError BudgetedResponse) : Prop :=
  ∀ response, result = .ok response → response.response = .new uid 503 .new

/-- What the session carries. -/
def SessionPc.Carries : SessionPc → Prop
  | .reserving uid execution =>
      made .busy (.new uid 503 .new)
      ∧ Running.Sound (coverage 0) (fun _ => Rejection uid) execution
      ∧ execution.Within Op.Local
  | .answering response => made .busy response.response
  | .queueing call => call.Carries made
  | .joining _ response => CompletionCarries made response
  | .select | .pinging | .exited _ | .cancelling .. | .droppingBulk _ | .droppingBusy _
  | .farewelling _ | .droppingControl .. | .flushing _ | .abortingWriter _
  | .awaitingWriter _ | .droppingSelf _ | .abortingActor _ | .awaitingActor _
  | .returned _ => True

/-- Everything a connection carries. -/
structure Connection.Carries (context : WorkerContext) (c : Connection) : Prop where
  session : c.session.Carries made
  tasks : ∀ task ∈ c.tasks, task.pc.Carries made context
  completions : c.channel.Carries made
  side : c.side.Carries made context

/-- An event shows only responses that were made. -/
def Event.Carries : Event → Prop
  | .bulkQueued response | .handed (.bulk response) | .sent (.bulk response)
  | .sendFailed (.bulk response) => response.Carries made
  | .posted origin response => made origin response
  | _ => True

/-- An event that shows no response. -/
def Event.plain : Event → Bool
  | .bulkQueued _ | .posted .. => false
  | .handed frame | .sent frame | .sendFailed frame =>
      match frame with
      | .control _ => true
      | .bulk _ => false
  | .acquired _ | .refused _ | .released _ | .requested .. | .controlQueued _ | .dropped ..
  | .abandoned .. | .panicked _ | .writerReturned _ => true

/-- The events of a step show only responses that were made. -/
def Shows (events : List Event) : Prop := ∀ event ∈ events, event.Carries made

end Carried

variable {made : Origin → ResourceResponse → Prop}

theorem shows_nil : Shows made [] := fun _ absent => absurd absent List.not_mem_nil

theorem Shows.cons {event : Event} {events : List Event} (first : event.Carries made)
    (rest : Shows made events)
    : Shows made (event :: events) :=
  List.forall_mem_cons.mpr ⟨first, rest⟩

theorem Shows.note {event : Event} {events : List Event} (rest : Shows made events)
    (plain : event.plain = true)
    : Shows made (event :: events) := by
  refine rest.cons ?_
  cases event with
  | bulkQueued | posted => cases plain
  | handed frame | sent frame | sendFailed frame =>
      cases frame with
      | control message => trivial
      | bulk response => cases plain
  | acquired | refused | released | requested | controlQueued | dropped | abandoned | panicked
  | writerReturned => trivial

theorem Shows.append {left right : List Event} (first : Shows made left)
    (rest : Shows made right)
    : Shows made (left ++ right) :=
  List.forall_mem_append.mpr ⟨first, rest⟩

theorem shows_of_moves {events : List Event} (moves : ∀ event ∈ events, event.moves = true)
    : Shows made events := by
  intro event listed
  have moved := moves event listed
  cases event with
  | acquired | refused | released => trivial
  | requested | controlQueued | bulkQueued | handed | sent | sendFailed | posted | dropped
  | abandoned | panicked | writerReturned => cases moved

theorem shows_lose (pieces : List Piece) : Shows made (lose pieces) := by
  intro event listed
  obtain ⟨piece, -, lost⟩ := List.mem_flatMap.mp listed
  simp only [Piece.lost, List.mem_cons, List.not_mem_nil, or_false] at lost
  rcases lost with rfl | rfl <;> trivial

-----------------------------------------------------------------------------------------
-- More may be made later
-----------------------------------------------------------------------------------------

section Mono

variable {later : Origin → ResourceResponse → Prop} {context : WorkerContext}
  (weaken : ∀ origin response, made origin response → later origin response)
include weaken

theorem EncodedResponse.Carries.mono {encoded : EncodedResponse}
    (carries : encoded.Carries made)
    : encoded.Carries later := by
  obtain ⟨response, new, source⟩ := carries
  exact ⟨response, weaken _ _ new, source⟩

theorem Queueing.Carries.mono {call : Queueing} (carries : call.Carries made)
    : call.Carries later := by
  cases call with
  | encoding origin uid execution =>
      obtain ⟨response, new, runs⟩ := carries
      exact ⟨response, weaken _ _ new, runs⟩
  | sending response | suspended response => exact EncodedResponse.Carries.mono weaken carries

theorem Post.Carries.mono {origin : Origin} {post : Post}
    (carries : post.Carries made context origin)
    : post.Carries later context origin :=
  ⟨weaken _ _ carries.response, carries.form⟩

theorem CompletionCarries.mono {response : Option BudgetedResponse}
    (carries : CompletionCarries made response)
    : CompletionCarries later response :=
  fun kept same => weaken _ _ (carries kept same)

theorem ScrapePc.Carries.mono {pc : ScrapePc} (carries : pc.Carries made context)
    : pc.Carries later context := by
  cases pc with
  | posting post => exact Post.Carries.mono weaken carries
  | completing response => exact CompletionCarries.mono weaken carries
  | spawned | calling | returning | ended => trivial

theorem Wire.Carries.mono {wire : Wire} (carries : wire.Carries made) : wire.Carries later :=
  fun response listed => (carries response listed).mono weaken

theorem BusySide.Carries.mono {side : BusySide} (carries : side.Carries made context)
    : side.Carries later context where
  call call here := (carries.call call here).mono weaken
  posts post listed := (carries.posts post listed).mono weaken
  queued response listed := weaken _ _ (carries.queued response listed)
  wire := carries.wire.mono weaken

theorem SessionPc.Carries.mono {session : SessionPc} (carries : session.Carries made)
    : session.Carries later := by
  cases session with
  | reserving uid execution => exact ⟨weaken _ _ carries.1, carries.2⟩
  | answering response => exact weaken _ _ carries
  | queueing call => exact Queueing.Carries.mono weaken carries
  | joining task response => exact CompletionCarries.mono weaken carries
  | select | pinging | exited | cancelling | droppingBulk | droppingBusy | farewelling
  | droppingControl | flushing | abortingWriter | awaitingWriter | droppingSelf
  | abortingActor | awaitingActor | returned => trivial

theorem Connection.Carries.mono {c : Connection} (carries : c.Carries made context)
    : c.Carries later context where
  session := carries.session.mono weaken
  tasks task listed := (carries.tasks task listed).mono weaken
  completions completion listed := (carries.completions completion listed).mono weaken
  side := carries.side.mono weaken

theorem Shows.mono {events : List Event} (shown : Shows made events) : Shows later events := by
  intro event listed
  have carries := shown event listed
  cases event with
  | bulkQueued response => exact EncodedResponse.Carries.mono weaken carries
  | posted origin response => exact weaken _ _ carries
  | handed frame | sent frame | sendFailed frame =>
      cases frame with
      | control message => trivial
      | bulk response => exact EncodedResponse.Carries.mono weaken carries
  | acquired | refused | released | requested | controlQueued | dropped | abandoned | panicked
  | writerReturned => trivial

end Mono

-----------------------------------------------------------------------------------------
-- The writer and `queue_ws_response`
-----------------------------------------------------------------------------------------

theorem Wire.Carries.push {wire : Wire} {response : EncodedResponse} {slots : Slots Sender}
    (carries : wire.Carries made) (new : response.Carries made)
    : Wire.Carries made { wire with bulk := wire.bulk ++ [response], slots } := by
  intro other listed
  simp only [← List.append_assoc, List.mem_append, List.mem_singleton] at listed
  rcases listed with before | rfl
  · exact carries other (by simpa using before)
  · exact new

theorem Wire.carries_ended {wire : Wire} {result : Except BoxError Unit}
    : (wire.ended result).Carries made :=
  fun _ absent => absurd absent List.not_mem_nil

/-- The writer hands over, sends and loses only what it was given. -/
theorem Wire.Carries.step {wire next : Wire} {action : WriterAction} {events : List Event}
    (carries : wire.Carries made) (taken : wire.step action = some (next, events))
    : next.Carries made ∧ Shows made events := by
  have finished {result : Except BoxError Unit} : Shows made (wire.finish result).2 :=
    (shows_lose _).note rfl
  unfold Wire.Carries at carries
  cases stepped_of_step taken with
  | control here | close here =>
      rw [here] at carries
      exact ⟨carries, shows_nil.note rfl⟩
  | controlIdle here | bulkIdle here | bulkClosed here =>
      rw [here] at carries
      exact ⟨carries, shows_nil⟩
  | controlClosed => exact ⟨carries, shows_nil⟩
  | bulk here opened queued =>
      rw [here, queued] at carries
      exact ⟨carries, shows_nil.cons (carries _ List.mem_cons_self)⟩
  | drained | sinkClosed => exact ⟨carries_ended, finished⟩
  | sentControl here | sentClose here | failedClose here =>
      rw [here] at carries
      exact ⟨carries, shows_nil.note rfl⟩
  | failedControl => exact ⟨carries_ended, finished.note rfl⟩
  | sentBulk here =>
      rw [here] at carries
      obtain ⟨inHand, queued⟩ := List.forall_mem_cons.mp carries
      exact ⟨queued, (shows_nil.note rfl).cons inHand⟩
  | failedBulk here =>
      rw [here] at carries
      obtain ⟨inHand, -⟩ := List.forall_mem_cons.mp carries
      exact ⟨carries_ended, ((finished.note rfl).note rfl).cons inHand⟩
  | panic => exact ⟨carries_ended, (shows_lose _).note rfl⟩
  | cancelled => exact ⟨carries_ended, shows_lose _⟩

theorem Wire.carries_trySend {wire : Wire} {message : Message} (carries : wire.Carries made)
    : (wire.trySend message).1.Carries made ∧ Shows made (wire.trySend message).2 := by
  obtain ⟨bulk, -, writer⟩ := wire.trySend_same message
  constructor
  · simpa only [Wire.Carries, bulk, writer] using carries
  · intro event listed
    cases trySend_events listed
    trivial

/-- What a finished encoding leaves is its response or the downgraded one. -/
theorem EncodedResponse.Covers.carries {encoded : EncodedResponse} {encoder : Encoder}
    {origin : Origin} {response : ResourceResponse}
    (covers : encoded.Covers encoder origin response) (new : made origin response)
    : encoded.Carries made :=
  ⟨response, covers.sameOrigin ▸ new, covers.source⟩

namespace Queueing

theorem carries_start {origin : Origin} {response : BudgetedResponse}
    (new : made origin response.response) (exactly : response.Exact)
    : (start origin response).Carries made :=
  ⟨response.response, new, meets_encodeForQueue exactly,
    (performs_encodeForQueue fun _ here => here).within _⟩

theorem Carries.reply {call next : Queueing} {reply : Reply} {events : List Event}
    (carries : call.Carries made) (replied : call.reply reply = some (next, events))
    : next.Carries made := by
  cases call with
  | encoding origin uid execution =>
      obtain ⟨⟨execution', events'⟩, answered, same⟩ := Option.map_eq_some_iff.mp replied
      obtain ⟨rfl, rfl⟩ := same
      obtain ⟨response, new, running, within⟩ := carries
      exact ⟨response, new, Running.Sound.advance running answered, within.reply answered⟩
  | sending | suspended => cases replied

/-- A step of `queue_ws_response` puts on the queue what it was called with, or nothing. -/
theorem Carries.proceed {who : Sender} {wire next : Wire} {call : Queueing}
    {result : QueueingResult} {events : List Event} (carries : call.Carries made)
    (wired : wire.Carries made) (taken : call.proceed who wire = some (result, next, events))
    : (∀ again, result = .again again → again.Carries made)
      ∧ next.Carries made
      ∧ Shows made events := by
  cases proceeded_of_proceed taken with
  | dropped => exact ⟨by simp, wired, shows_nil.note rfl⟩
  | encoded done =>
      obtain ⟨response, new, running, -⟩ := carries
      refine ⟨?_, wired, shows_nil⟩
      intro again same
      obtain rfl := QueueingResult.again.inj same
      obtain ⟨-, covers⟩ := running.result done
      exact covers.carries new
  | closed | woken =>
      exact ⟨by simp, wired, (shows_nil.note rfl).note rfl⟩
  | placed | granted =>
      exact ⟨by simp, wired.push carries, shows_nil.cons carries⟩
  | joined =>
      refine ⟨?_, wired, shows_nil⟩
      intro again same
      obtain rfl := QueueingResult.again.inj same
      exact carries

end Queueing

-----------------------------------------------------------------------------------------
-- POSTs, scrape tasks and the busy-response actor
-----------------------------------------------------------------------------------------

theorem Post.carries_start {context : WorkerContext} {origin : Origin}
    {response : BudgetedResponse} (new : made origin response.response)
    : (start context response).Carries made context origin :=
  ⟨new, performs_postResponse.within _⟩

theorem Post.Carries.reply {context : WorkerContext} {origin : Origin} {post : Post}
    {next : Execution (Except BoxError Unit)} {reply : Reply} {events : List Event}
    (carries : post.Carries made context origin)
    (replied : post.execution.reply reply = some (next, events))
    : Post.Carries made context origin { post with execution := next } :=
  ⟨carries.response, carries.form.reply replied⟩

theorem completionCarries_none : CompletionCarries made none := by
  simp [CompletionCarries]

theorem completionCarries_some {response : BudgetedResponse}
    (new : made .scrape response.response)
    : CompletionCarries made (some response) := by
  intro kept same
  obtain rfl := Option.some.inj same
  exact new

/-- `deliver_by_post` shows its response or hands it back. -/
theorem carries_deliverByPost {response : BudgetedResponse} (new : made .scrape response.response)
    (result : Except BoxError Unit)
    : CompletionCarries made (deliverByPost response result).1
      ∧ Shows made (deliverByPost response result).2 := by
  unfold deliverByPost
  split
  · exact ⟨completionCarries_none, (shows_nil.note rfl).cons new⟩
  · dsimp only
    split
    · exact ⟨completionCarries_none, (shows_nil.note rfl).note rfl⟩
    · exact ⟨completionCarries_some new, shows_nil⟩

/-- A scrape task carries what its call has returned, and nothing else. -/
theorem ScrapePc.Carries.step {context : WorkerContext} {task : Nat} {aborted : Bool}
    {completions next : Completions} {pc pc' : ScrapePc} {action : ScrapeAction}
    {events : List Event} (carries : pc.Carries made context)
    (waiting : completions.Carries made)
    (returned
      : ∀ uid execution response,
          action = .called
          → pc = .calling uid execution
          → execution.result? = some (some response)
          → made .scrape response.response)
    (taken : pc.step context task aborted completions action = some (pc', next, events))
    : pc'.Carries made context ∧ next.Carries made ∧ Shows made events := by
  cases stepped_of_step taken with
  | start => exact ⟨trivial, waiting, shows_nil⟩
  | callReplied replied =>
      exact ⟨trivial, waiting, shows_of_moves (Execution.reply_moves replied)⟩
  | postReplied replied =>
      exact ⟨Post.Carries.reply carries replied, waiting,
        shows_of_moves (Execution.reply_moves replied)⟩
  | refused => exact ⟨completionCarries_none, waiting, shows_nil.note rfl⟩
  | posting done =>
      exact ⟨Post.carries_start (returned _ _ _ rfl rfl done), waiting, shows_nil⟩
  | called done =>
      exact ⟨completionCarries_some (returned _ _ _ rfl rfl done), waiting, shows_nil⟩
  | delivered =>
      obtain ⟨kept, shown⟩ := carries_deliverByPost carries.response _
      exact ⟨kept, waiting, shown⟩
  | sent =>
      refine ⟨trivial, ?_, shows_nil⟩
      intro completion listed
      obtain rfl := List.mem_singleton.mp listed
      exact carries
  | lost => exact ⟨trivial, waiting, shows_lose _⟩
  | finished => exact ⟨trivial, waiting, shows_nil⟩
  | panicked => exact ⟨trivial, waiting, (shows_lose _).note rfl⟩
  | cancelled => exact ⟨trivial, waiting, shows_lose _⟩

namespace BusySide

/-- An ended actor leaves the wire what it carried. -/
theorem Carries.stop {context : WorkerContext} {side : BusySide} {wire : Wire}
    (carries : side.Carries made context) (bulk : wire.bulk = side.wire.bulk)
    (writer : wire.writer = side.wire.writer)
    : (side.stop wire).Carries made context := by
  refine { call := ?_, posts := ?_, queued := ?_, wire := ?_ }
  · exact fun _ absent => BusyActorPc.noConfusion absent
  · exact fun _ absent => absurd absent List.not_mem_nil
  · exact fun _ absent => absurd absent List.not_mem_nil
  · intro response listed
    apply carries.wire response
    simpa [BusySide.stop, Wire.dropBulkSender, bulk, writer] using listed

/-- The actor passes on, delivers and loses only what it was given. -/
theorem Carries.step {context : WorkerContext} {side next : BusySide}
    {action : BusyActorAction} {events : List Event} (sound : side.Sound)
    (carries : side.Carries made context) (taken : side.step context action = some (next, events))
    : next.Carries made context ∧ Shows made events := by
  cases stepped_of_step taken with
  | finished => exact ⟨carries.stop rfl rfl, shows_lose _⟩
  | @received response queue here opened room queued =>
      have given := carries.queued
      rw [queued] at given
      obtain ⟨first, rest⟩ := List.forall_mem_cons.mp given
      refine ⟨{ carries with posts := ?_, queued := rest }, shows_nil⟩
      intro post listed
      rcases List.mem_append.mp listed with older | new
      · exact carries.posts post older
      · obtain rfl := List.mem_singleton.mp new
        exact Post.carries_start first
  | inputClosed => exact ⟨{ carries with }, shows_nil⟩
  | replied here found answered =>
      obtain ⟨front, back, opened⟩ := opened_of_getElem? found
      have posting := (carries.posts _ opened.entry_mem).reply answered
      refine ⟨{ carries with posts := ?_ }, shows_of_moves (Execution.reply_moves answered)⟩
      rw [opened.replaced]
      exact opened.forall_replaced carries.posts posting
  | delivered here found =>
      obtain ⟨front, back, opened⟩ := opened_of_getElem? found
      have posted := (carries.posts _ opened.entry_mem).response
      refine ⟨{ carries with posts := ?_ }, (shows_nil.note rfl).cons posted⟩
      rw [opened.removed]
      exact opened.forall_removed carries.posts
  | failed here found =>
      obtain ⟨front, back, opened⟩ := opened_of_getElem? found
      have posted := (carries.posts _ opened.entry_mem).response
      have exactly := (sound.posts _ opened.entry_mem).response.exactly
      refine ⟨{ carries with call := ?_, posts := ?_ }, shows_nil⟩
      · intro call same
        obtain rfl := BusyActorPc.queueing.inj same
        exact Queueing.carries_start posted exactly
      · rw [opened.removed]
        exact opened.forall_removed carries.posts
  | encoding here answered =>
      have encoding := (carries.call _ here).reply answered
      refine ⟨{ carries with call := ?_ }, shows_of_moves (Queueing.reply_moves answered)⟩
      intro call same
      obtain rfl := BusyActorPc.queueing.inj same
      exact encoding
  | queueing here proceeded =>
      obtain ⟨again, wired, shown⟩ := (carries.call _ here).proceed carries.wire proceeded
      refine ⟨{ carries with call := ?_, wire := wired }, shown⟩
      intro call same
      obtain rfl := BusyActorPc.queueing.inj same
      exact again _ rfl
  | queued here proceeded =>
      obtain ⟨-, wired, shown⟩ := (carries.call _ here).proceed carries.wire proceeded
      refine ⟨{ carries with call := ?_, wire := wired }, shown⟩
      exact fun _ absent => BusyActorPc.noConfusion absent
  | closed here proceeded =>
      obtain ⟨-, wired, shown⟩ := (carries.call _ here).proceed carries.wire proceeded
      refine ⟨{ call := ?_, posts := ?_, queued := ?_, wire := wired }, shown.append (shows_lose _)⟩
      · exact fun _ absent => BusyActorPc.noConfusion absent
      · exact fun _ absent => absurd absent List.not_mem_nil
      · exact fun _ absent => absurd absent List.not_mem_nil
  | panicked =>
      obtain ⟨bulk, writer⟩ := side.leaveLine_same
      exact ⟨carries.stop bulk writer, (shows_lose _).note rfl⟩
  | cancelled =>
      obtain ⟨bulk, writer⟩ := side.leaveLine_same
      exact ⟨carries.stop bulk writer, shows_lose _⟩

end BusySide

-----------------------------------------------------------------------------------------
-- The session
-----------------------------------------------------------------------------------------

/-- A request too many reserves a rejection with its own uid. -/
theorem meets_rejection {uid : RustString}
    : (BudgetedResponse.tryNew uid 503 .new).Meets (coverage 0) (fun _ => Rejection uid) 0 := by
  refine BudgetedResponse.meets_tryNew ?_ ?_
  · intro response same _ other equal
    obtain rfl := Except.ok.inj equal
    exact same
  · exact fun _ _ absent => nomatch absent

namespace Connection

theorem carries_new {context : WorkerContext} {name : String}
    : (new context name).Carries made context := by
  refine { session := trivial, tasks := ?_, completions := ?_, side := ?_ }
  · exact fun _ absent => absurd absent List.not_mem_nil
  · exact fun _ absent => absurd absent List.not_mem_nil
  · refine { call := ?_, posts := ?_, queued := ?_, wire := ?_ }
    · exact fun _ absent => BusyActorPc.noConfusion absent
    all_goals exact fun _ absent => absurd absent List.not_mem_nil

/-- A request event is shown only for a valid request frame, read in the `select!`. -/
theorem read_of_requested {context : WorkerContext} {c next : Connection}
    {action : SessionAction} {events : List Event} {origin : Origin} {asked : String}
    (taken : c.sessionStep context action = some (next, events))
    (shown : .requested origin asked ∈ events)
    : ∃ uid resource,
        action = .read (.text (some (.request uid resource)))
        ∧ (IncomingMessage.request uid resource).validate = .ok ()
        ∧ c.handleMessage context (.request uid resource) = (next, events) := by
  have never (silent : Silent events) : False := nomatch silent _ shown
  cases action with
  | shutdown =>
      simp only [sessionStep] at taken
      split at taken
      · obtain ⟨rfl, rfl⟩ := taken
        exact (never (silent_lose _)).elim
      · cases taken
  | writerEnded =>
      simp only [sessionStep] at taken
      split at taken
      · obtain ⟨rfl, rfl⟩ := taken
        exact (never (silent_lose _)).elim
      · cases taken
  | heartbeat timedOut =>
      simp only [sessionStep] at taken
      split at taken
      · split at taken
        · obtain ⟨rfl, rfl⟩ := taken
          exact (never (silent_lose _)).elim
        · obtain ⟨rfl, rfl⟩ := taken
          cases Wire.trySend_events shown
      · cases taken
  | completion =>
      simp only [sessionStep, handleCompletion] at taken
      split at taken
      · split at taken
        · cases taken
        · split at taken
          · obtain ⟨rfl, rfl⟩ := taken
            exact (never (silent_lose _)).elim
          · cases taken
        · obtain ⟨rfl, rfl⟩ := taken
          exact (never silent_nil).elim
      · cases taken
  | read frame =>
      simp only [sessionStep] at taken
      split at taken
      · replace taken := Option.some.inj taken
        cases frame with
        | text message =>
            simp only [handleFrame, handleText] at taken
            split at taken
            · obtain ⟨rfl, rfl⟩ := taken
              exact (never silent_nil).elim
            · next incoming =>
                split at taken
                · obtain ⟨rfl, rfl⟩ := taken
                  exact (never silent_nil).elim
                · next valid =>
                    cases incoming with
                    | request uid resource => exact ⟨uid, resource, rfl, valid, taken⟩
                    | ping =>
                        obtain ⟨rfl, rfl⟩ := taken
                        cases Wire.trySend_events shown
                    | pong | unknown =>
                        obtain ⟨rfl, rfl⟩ := taken
                        exact (never silent_nil).elim
                    | ready uid =>
                        simp only [handleMessage] at taken
                        split at taken
                        · obtain ⟨rfl, rfl⟩ := taken
                          cases Wire.trySend_events shown
                        · obtain ⟨rfl, rfl⟩ := taken
                          exact (never silent_nil).elim
        | ping payload =>
            obtain ⟨rfl, rfl⟩ := taken
            cases Wire.trySend_events shown
        | pong | unsupported =>
            obtain ⟨rfl, rfl⟩ := taken
            exact (never silent_nil).elim
        | close | failed | finished =>
            obtain ⟨rfl, rfl⟩ := taken
            exact (never (silent_lose _)).elim
      · cases taken
  | reply reply =>
      simp only [sessionStep] at taken
      split at taken
      · obtain ⟨⟨execution', events'⟩, answered, same⟩ := Option.map_eq_some_iff.mp taken
        obtain ⟨rfl, rfl⟩ := same
        exact (never (silent_of_moves (Execution.reply_moves answered))).elim
      · obtain ⟨⟨call', events'⟩, answered, same⟩ := Option.map_eq_some_iff.mp taken
        obtain ⟨rfl, rfl⟩ := same
        exact (never (silent_of_moves (Queueing.reply_moves answered))).elim
      · cases taken
  | proceed =>
      have elsewhere : c.session ≠ .select := by
        intro here
        simp only [sessionStep, proceed, here] at taken
        cases taken
      cases handshake_of_sessionStep taken with
      | silent silent => exact (never silent).elim
      | readied uid handshake here => exact absurd here elsewhere
      | spawned uid resource here => exact absurd here elsewhere
      | rejected uid here => exact absurd here elsewhere
  | flushTimeout =>
      simp only [sessionStep] at taken
      split at taken
      · obtain ⟨rfl, rfl⟩ := taken
        exact (never silent_nil).elim
      · cases taken

/-- What a step makes is allowed: the rejection of a request too many, and what a call has
returned.
-/
structure Makes (made : Origin → ResourceResponse → Prop) (c : Connection)
    (action : ConnectionAction)
    : Prop where
  rejects
    : ∀ uid resource,
        action = .session (.read (.text (some (.request uid resource))))
        → (IncomingMessage.request uid resource).validate = .ok ()
        → c.activeTask.isSome = true
        → made .busy (.new uid 503 .new)
  returns
    : ∀ task scrape uid execution response,
        action = .scrape task .called
        → c.tasks[task]? = some scrape
        → scrape.pc = .calling uid execution
        → execution.result? = some (some response)
        → made .scrape response.response

/-- A step that leaves the scrape tasks and their channel alone. -/
theorem Carries.keeps {context : WorkerContext} {c next : Connection}
    (carries : c.Carries made context) (session : next.session.Carries made)
    (side : next.side.Carries made context) (tasks : next.tasks = c.tasks)
    (completions : next.completions = c.completions)
    : next.Carries made context := by
  refine { session, tasks := ?_, completions := ?_, side }
  · rw [tasks]
    exact carries.tasks
  · have waiting := carries.completions
    simp only [Completions.Carries, channel, completions] at waiting ⊢
    exact waiting

/-- `run` returns and drops the completion channel. -/
theorem Carries.exit {context : WorkerContext} {c : Connection} {ending : Ending}
    (carries : c.Carries made context)
    : (c.exit ending).1.Carries made context ∧ Shows made (c.exit ending).2 := by
  refine ⟨{ carries with session := trivial, completions := ?_ }, shows_lose _⟩
  exact fun _ absent => absurd absent List.not_mem_nil

/-- The session offers a control frame. -/
theorem Carries.offer {context : WorkerContext} {c : Connection} {message : Message}
    {session : SessionPc} (carries : c.Carries made context) (after : session.Carries made)
    : (c.offer message session).1.Carries made context
      ∧ Shows made (c.offer message session).2 := by
  have offered
      : (c.wire.trySend message).1.Carries made ∧ Shows made (c.wire.trySend message).2 :=
    Wire.carries_trySend carries.side.wire
  obtain ⟨wired, shown⟩ := offered
  exact ⟨carries.keeps after { carries.side with wire := wired } rfl rfl, shown⟩

/-- An abort only sets a flag. -/
theorem Carries.abortTask {context : WorkerContext} {c : Connection}
    (carries : c.Carries made context) (task : Nat)
    : ∀ scrape ∈ c.abortTask task, scrape.pc.Carries made context := by
  unfold Connection.abortTask
  split
  · next scrape found =>
      obtain ⟨front, back, opened⟩ := opened_of_getElem? found
      have kept : scrape.pc.Carries made context := carries.tasks scrape opened.entry_mem
      simp only [opened.replaced]
      exact opened.forall_replaced carries.tasks kept
  · exact carries.tasks

/-- A step of the session, by cases on what it can do. -/
theorem Carries.sessionStep {context : WorkerContext} {c next : Connection}
    {action : SessionAction} {events : List Event} (sound : c.Sound)
    (carries : c.Carries made context) (makes : Makes made c (.session action))
    (taken : c.sessionStep context action = some (next, events))
    : next.Carries made context ∧ Shows made events := by
  have holds := sound.session
  have held := carries.session
  cases stepped_of_sessionStep taken with
  | idle => exact ⟨carries, shows_nil⟩
  | left | channelClosed => exact carries.exit
  | writerEnded =>
      obtain ⟨kept, shown⟩ := carries.exit
      exact ⟨{ kept with }, shown⟩
  | offered here next =>
      apply carries.offer
      rcases next with rfl | rfl <;> trivial
  | readied => exact carries.offer trivial
  | spawned =>
      refine ⟨{ carries with tasks := ?_, completions := carries.completions },
        shows_nil.note rfl⟩
      intro task listed
      rcases List.mem_append.mp listed with older | new
      · exact carries.tasks task older
      · obtain rfl := List.mem_singleton.mp new
        trivial
  | @busy action uid here active =>
      obtain ⟨asked, resource, rfl, valid, handled⟩ :=
        read_of_requested taken List.mem_cons_self
      have rejected := makes.rejects asked resource rfl valid active
      simp only [handleMessage, active, if_true, Prod.mk.injEq] at handled
      obtain ⟨same, -⟩ := handled
      obtain ⟨rfl, -⟩ := SessionPc.reserving.inj (congrArg Connection.session same)
      refine ⟨carries.keeps ⟨rejected, meets_rejection, ?_⟩ carries.side rfl rfl,
        shows_nil.note rfl⟩
      exact (BudgetedResponse.performs_tryNew fun _ here => here).within 0
  | @received task sender response rest here active queued =>
      have waiting := carries.completions
      simp only [Completions.Carries, channel, queued] at waiting
      obtain ⟨first, later⟩ := List.forall_mem_cons.mp waiting
      exact ⟨{ carries with session := first, completions := later }, shows_nil⟩
  | reserving here answered =>
      rw [here] at held
      obtain ⟨new, running, within⟩ := held
      refine ⟨carries.keeps ⟨new, ?_, within.reply answered⟩ carries.side rfl rfl,
        shows_of_moves (Execution.reply_moves answered)⟩
      exact Running.Sound.advance running answered
  | encoding here answered =>
      rw [here] at held
      exact ⟨carries.keeps (Queueing.Carries.reply held answered) carries.side rfl rfl,
        shows_of_moves (Queueing.reply_moves answered)⟩
  | refused => exact ⟨carries.keeps trivial carries.side rfl rfl, shows_nil.note rfl⟩
  | reserved here returned =>
      rw [here] at held
      obtain ⟨new, running, -⟩ := held
      have same : _ = _ := running.result returned _ rfl
      refine ⟨carries.keeps ?_ carries.side rfl rfl, shows_nil⟩
      simp only [SessionPc.Carries, same]
      exact new
  | posted here =>
      rw [here] at held
      refine ⟨carries.keeps trivial { carries.side with queued := ?_ } rfl rfl, shows_nil⟩
      intro response listed
      rcases List.mem_append.mp listed with older | new
      · exact carries.side.queued response older
      · obtain rfl := List.mem_singleton.mp new
        exact held
  | answered here =>
      rw [here] at held holds
      exact ⟨carries.keeps (Queueing.carries_start held holds.exactly) carries.side rfl rfl,
        shows_nil⟩
  | queueing here proceeded =>
      rw [here] at held
      obtain ⟨again, wired, shown⟩ := Queueing.Carries.proceed held carries.side.wire proceeded
      exact ⟨carries.keeps (again _ rfl) { carries.side with wire := wired } rfl rfl, shown⟩
  | queued here proceeded =>
      rw [here] at held
      obtain ⟨-, wired, shown⟩ := Queueing.Carries.proceed held carries.side.wire proceeded
      exact ⟨carries.keeps trivial { carries.side with wire := wired } rfl rfl, shown⟩
  | @closed call wire events error here proceeded =>
      rw [here] at held
      obtain ⟨-, wired, shown⟩ := Queueing.Carries.proceed held carries.side.wire proceeded
      have rest : Connection.Carries made context { c with session := .select, wire } :=
        carries.keeps trivial { carries.side with wire := wired } rfl rfl
      exact ⟨rest.exit.1, shown.append rest.exit.2⟩
  | joinedEmpty => exact ⟨carries.keeps trivial carries.side rfl rfl, shows_nil⟩
  | joined here =>
      rw [here] at held holds
      have started := Queueing.carries_start (held _ rfl) (holds _ rfl).exactly
      exact ⟨carries.keeps started carries.side rfl rfl, shows_nil⟩
  | joinFailed =>
      have rest : Connection.Carries made context { c with session := .select } :=
        carries.keeps trivial carries.side rfl rfl
      exact ⟨rest.exit.1, (shows_lose _).append rest.exit.2⟩
  | aborted =>
      refine ⟨{ carries with session := trivial, tasks := carries.abortTask _, completions := ?_ },
        shows_nil⟩
      exact carries.completions
  | leftIdle | leftTask =>
      unfold leaveTasks
      split <;> exact ⟨carries.keeps trivial carries.side rfl rfl, shows_nil⟩
  | droppedBulk | droppedBusy | noFarewell | flushing | notQueued | writerJoined | flushTimeout
  | abortedWriter | droppedSelf | abortedActor | returned =>
      exact ⟨carries.keeps trivial { carries.side with } rfl rfl, shows_nil⟩
  | farewell => exact carries.offer trivial

/-- Every step carries what there was before, and what it makes itself. -/
theorem Carries.step {context : WorkerContext} {c next : Connection}
    {action : ConnectionAction} {events : List Event} (sound : c.Sound)
    (carries : c.Carries made context) (makes : Makes made c action)
    (taken : c.step context action = some (next, events))
    : next.Carries made context ∧ Shows made events := by
  cases moved_of_step taken with
  | session taken => exact carries.sessionStep sound makes taken
  | @scrape task action scrape pc completions events found stepped =>
      obtain ⟨front, back, opened⟩ := opened_of_getElem? found
      obtain ⟨kept, waiting, shown⟩ :=
        ScrapePc.Carries.step (carries.tasks _ opened.entry_mem) carries.completions
          (fun uid execution response called here =>
            makes.returns task scrape uid execution response (called ▸ rfl) found here)
          stepped
      refine ⟨{ carries with tasks := ?_, completions := waiting }, shown⟩
      simp only [opened.replaced]
      exact opened.forall_replaced carries.tasks kept
  | busyActor stepped =>
      obtain ⟨kept, shown⟩ := carries.side.step sound.side stepped
      exact ⟨{ carries with side := kept }, shown⟩
  | writer stepped =>
      obtain ⟨kept, shown⟩ := carries.side.wire.step stepped
      exact ⟨{ carries with side := { carries.side with wire := kept } }, shown⟩

end Connection

end ProxyClient
