import ProxyClient.Coverage
import ProxyClient.Foundations.Ledger
import ProxyClient.Foundations.Position
import ProxyClient.Worker.BusyActor

/-! What the steps of a connection's parts do to the responses they hold.
Two ledgers are kept: who still owes an answer to which request, and the bytes of the budget.
Both balance at every step as long as what is held is sound, and every step keeps it sound.
-/

namespace ProxyClient

open Foundations

-----------------------------------------------------------------------------------------
-- The two ledgers
-----------------------------------------------------------------------------------------

/-- Requests and answers, where `weight` says how much a request counts for: a request comes
in, and goes out once it is delivered, dropped or abandoned.
-/
def answers (weight : Origin → String → Nat) : Ledger Piece Event where
  worth piece := weight piece.origin piece.uid
  gain
    | .requested origin uid => weight origin uid
    | _ => 0
  loss
    | .posted origin response => weight origin response.uid.text
    | .sent (.bulk response) => weight response.origin response.source.uid.text
    | .dropped origin uid _ | .abandoned origin uid => weight origin uid
    | _ => 0

/-- The bytes of live reservations. -/
def reservedBytes : Ledger Piece Event where
  worth piece := piece.bytes
  gain
    | .acquired bytes => bytes
    | _ => 0
  loss
    | .released bytes => bytes
    | _ => 0

-----------------------------------------------------------------------------------------
-- What is held is sound
-----------------------------------------------------------------------------------------

@[simp] theorem answers_worth {weight : Origin → String → Nat} {piece : Piece}
    : (answers weight).worth piece = weight piece.origin piece.uid :=
  rfl

@[simp] theorem reservedBytes_worth {piece : Piece} : reservedBytes.worth piece = piece.bytes :=
  rfl

/-- A busy answer says nothing but that the worker is busy. -/
def Origin.Admits (origin : Origin) (response : ResourceResponse) : Prop :=
  origin = .busy
  → (response.status = 503 ∨ response.status = 500) ∧ response.body = .new

/-- An exact response that fits its origin. -/
structure BudgetedResponse.Sound (origin : Origin) (response : BudgetedResponse) : Prop where
  exactly : response.Exact
  admitted : origin.Admits response.response

/-- An encoded response covers its text, which is the JSON of a response that fits. -/
structure EncodedResponse.Sound (encoded : EncodedResponse) : Prop where
  covered : encoded.json.capacity ≤ encoded.reservation.bytes
  encodes : encoded.json.text = responseJson encoded.source
  admitted : encoded.origin.Admits encoded.source

/-- The requests that may be dropped for a reason, and the size of a body that is not resent. -/
def DropReason.Fits (origin : Origin) : DropReason → Prop
  | .callResource => origin = .scrape
  | .busyResponse _ => origin = .busy
  | .encoding _ => True
  | .postTimedOut bodyLength => origin = .scrape ∧ fallbackAfterTimeoutLimit < bodyLength

/-- An event shows only sound responses, and only fitting reasons. -/
def Event.Sound : Event → Prop
  | .bulkQueued response | .handed (.bulk response) | .sent (.bulk response)
  | .sendFailed (.bulk response) => response.Sound
  | .posted origin response => origin.Admits response
  | .dropped origin _ reason => reason.Fits origin
  | _ => True

/-- An event that moves neither requests nor bytes. -/
def Event.quiet : Event → Bool
  | .refused _ | .controlQueued _ | .bulkQueued _ | .handed _
  | .sent (.control _) | .sendFailed _ | .panicked _ | .writerReturned _ => true
  | .acquired _ | .released _ | .requested .. | .sent (.bulk _) | .posted ..
  | .dropped .. | .abandoned .. => false

/-- An event that answers, drops or abandons the request of a piece. -/
def Event.settles (piece : Piece) : Event → Prop
  | .sent (.bulk response) =>
      response.origin = piece.origin ∧ response.source.uid.text = piece.uid
  | .posted origin response => origin = piece.origin ∧ response.uid.text = piece.uid
  | .dropped origin uid _ | .abandoned origin uid => origin = piece.origin ∧ uid = piece.uid
  | _ => False

theorem Event.quiet_moves {event : Event} (quiet : event.quiet)
    (weight : Origin → String → Nat)
    : ((answers weight).gain event = 0 ∧ (answers weight).loss event = 0)
      ∧ reservedBytes.gain event = 0 ∧ reservedBytes.loss event = 0 := by
  cases event with
  | sent frame =>
      cases frame with
      | control message => exact ⟨⟨rfl, rfl⟩, rfl, rfl⟩
      | bulk response => cases quiet
  | acquired | released | requested | posted | dropped | abandoned => cases quiet
  | refused | controlQueued | bulkQueued | handed | sendFailed | panicked
  | writerReturned => exact ⟨⟨rfl, rfl⟩, rfl, rfl⟩

theorem Event.settles_moves {event : Event} {piece : Piece} (settles : event.settles piece)
    (weight : Origin → String → Nat)
    : ((answers weight).gain event = 0
        ∧ (answers weight).loss event = weight piece.origin piece.uid)
      ∧ reservedBytes.gain event = 0 ∧ reservedBytes.loss event = 0 := by
  cases event with
  | sent frame =>
      cases frame with
      | control message => cases settles
      | bulk response =>
          obtain ⟨origin, uid⟩ := settles
          exact ⟨⟨rfl, by rw [← origin, ← uid]; rfl⟩, rfl, rfl⟩
  | posted | dropped | abandoned =>
      obtain ⟨origin, uid⟩ := settles
      exact ⟨⟨rfl, by rw [← origin, ← uid]; rfl⟩, rfl, rfl⟩
  | acquired | released | requested | refused | controlQueued | bulkQueued | handed
  | sendFailed | panicked | writerReturned => cases settles

/-- A downgraded response keeps its uid, so an encoded one answers the same request. -/
theorem EncodedResponse.Covers.piece {encoded : EncodedResponse} {encoder : Encoder}
    {origin : Origin} {response : ResourceResponse}
    (covers : encoded.Covers encoder origin response)
    : encoded.piece = ⟨origin, response.uid.text, encoded.reservation.bytes⟩ := by
  unfold EncodedResponse.piece
  rcases covers.source with same | downgraded
  · rw [covers.sameOrigin, same]
  · rw [covers.sameOrigin, downgraded]
    rfl

/-- What a successful encoding leaves is sound. -/
theorem EncodedResponse.Covers.sound {encoded : EncodedResponse} {origin : Origin}
    {response : ResourceResponse} (covers : encoded.Covers responseEncoder origin response)
    (admitted : origin.Admits response)
    : encoded.Sound := by
  have encodes := (Except.ok.inj covers.encodes).symm
  refine { covered := covers.covered, encodes, admitted := ?_ }
  rw [covers.sameOrigin]
  rcases covers.source with same | downgraded
  · rwa [same]
  · rw [downgraded]
    exact fun _ => ⟨.inr rfl, rfl⟩

-----------------------------------------------------------------------------------------
-- Exchanges
-----------------------------------------------------------------------------------------

/-- A step exchanges what was held for what is held now, in both ledgers, and shows only
sound responses.
-/
structure Exchange (before : List Piece) (events : List Event) (after : List Piece)
    : Prop where
  answered : ∀ weight, (answers weight).Balanced before events after
  covered : reservedBytes.Balanced before events after
  shown : ∀ event ∈ events, event.Sound

namespace Exchange

variable {before middle after : List Piece} {events more : List Event}

theorem refl : Exchange before [] before :=
  ⟨fun _ => .refl, .refl, fun _ absent => absurd absent List.not_mem_nil⟩

theorem trans (first : Exchange before events middle) (second : Exchange middle more after)
    : Exchange before (events ++ more) after where
  answered weight := (first.answered weight).trans (second.answered weight)
  covered := first.covered.trans second.covered
  shown event listed :=
    (List.mem_append.mp listed).elim (first.shown event) (second.shown event)

theorem frame (exchange : Exchange before events after) (left right : List Piece)
    : Exchange (left ++ before ++ right) events (left ++ after ++ right) where
  answered weight := (exchange.answered weight).frame left right
  covered := exchange.covered.frame left right
  shown := exchange.shown

/-- An exchange inside a larger whole whose other items are the same before and after. -/
theorem within {whole whole' : List Piece} (exchange : Exchange before events after)
    (placed
      : ∀ ledger : Ledger Piece Event,
          ledger.total whole + ledger.total after = ledger.total whole' + ledger.total before)
    : Exchange whole events whole' where
  answered weight := by
    have balanced := exchange.answered weight
    have same := placed (answers weight)
    simp only [Ledger.Balanced] at *
    omega
  covered := by
    have balanced := exchange.covered
    have same := placed reservedBytes
    simp only [Ledger.Balanced] at *
    omega
  shown := exchange.shown

/-- An event that moves nothing may come first. -/
theorem note {event : Event} (quiet : event.quiet) (sound : event.Sound)
    (rest : Exchange before events after)
    : Exchange before (event :: events) after where
  answered weight := by
    have moves := event.quiet_moves quiet weight
    exact (rest.answered weight).note moves.1.1 moves.1.2
  covered := by
    have moves := event.quiet_moves quiet fun _ _ => 0
    exact rest.covered.note moves.2.1 moves.2.2
  shown other listed := by
    rcases List.mem_cons.mp listed with rfl | later
    · exact sound
    · exact rest.shown other later

/-- The answer of a piece goes out and its bytes are released. -/
theorem settle {piece : Piece} {event : Event} (settles : event.settles piece)
    (sound : event.Sound)
    : Exchange (piece :: before) [event, .released piece.bytes] before where
  answered weight := by
    have moves := event.settles_moves settles weight
    have silent : (answers weight).gain (.released piece.bytes) = 0
        ∧ (answers weight).loss (.released piece.bytes) = 0 := ⟨rfl, rfl⟩
    simp only [Ledger.Balanced, Ledger.total_cons, Ledger.gained_cons, Ledger.lost_cons,
      Ledger.gained_nil, Ledger.lost_nil, answers_worth]
    omega
  covered := by
    have moves := event.settles_moves settles fun _ _ => 0
    have released : reservedBytes.gain (.released piece.bytes) = 0
        ∧ reservedBytes.loss (.released piece.bytes) = piece.bytes := ⟨rfl, rfl⟩
    simp only [Ledger.Balanced, Ledger.total_cons, Ledger.gained_cons, Ledger.lost_cons,
      Ledger.gained_nil, Ledger.lost_nil, reservedBytes_worth]
    omega
  shown other listed := by
    simp only [List.mem_cons, List.not_mem_nil, or_false] at listed
    rcases listed with rfl | rfl
    · exact sound
    · trivial

/-- The answer of a piece that holds no bytes goes out. -/
theorem settleEmpty {piece : Piece} {event : Event} (settles : event.settles piece)
    (sound : event.Sound) (empty : piece.bytes = 0)
    : Exchange (piece :: before) [event] before where
  answered weight := by
    have moves := event.settles_moves settles weight
    simp only [Ledger.Balanced, Ledger.total_cons, Ledger.gained_cons, Ledger.lost_cons,
      Ledger.gained_nil, Ledger.lost_nil, answers_worth]
    omega
  covered := by
    have moves := event.settles_moves settles fun _ _ => 0
    simp only [Ledger.Balanced, Ledger.total_cons, Ledger.gained_cons, Ledger.lost_cons,
      Ledger.gained_nil, Ledger.lost_nil, reservedBytes_worth]
    omega
  shown other listed := List.mem_singleton.mp listed ▸ sound

/-- A request comes in and holds nothing yet. -/
theorem request (origin : Origin) (uid : String)
    : Exchange [] [.requested origin uid] [⟨origin, uid, 0⟩] where
  answered weight := by simp [Ledger.Balanced, answers]
  covered := by simp [Ledger.Balanced, reservedBytes]
  shown other listed := by
    obtain rfl := List.mem_singleton.mp listed
    trivial

/-- Pieces move to other places. -/
theorem of_perm (same : before.Perm after) : Exchange before [] after where
  answered weight := by simpa [Ledger.Balanced] using Ledger.total_perm _ same
  covered := by simpa [Ledger.Balanced] using Ledger.total_perm _ same
  shown _ absent := absurd absent List.not_mem_nil

theorem abandon (piece : Piece) : Exchange (piece :: before) piece.lost before := by
  have abandoned : (Event.abandoned piece.origin piece.uid).settles piece := ⟨rfl, rfl⟩
  exact .settle abandoned trivial

/-- Losing pieces abandons their requests and releases their bytes, by induction over them. -/
theorem lose (pieces : List Piece) : Exchange pieces (ProxyClient.lose pieces) [] := by
  induction pieces with
  | nil => exact .refl
  | cons piece rest ih => exact (abandon piece).trans ih

/-- The pieces of one holder are lost beside those of others. -/
theorem loseFirst (pieces rest : List Piece)
    : Exchange (pieces ++ rest) (ProxyClient.lose pieces) rest := by
  simpa using (lose pieces).frame [] rest

end Exchange

-----------------------------------------------------------------------------------------
-- Programs under execution
-----------------------------------------------------------------------------------------

/-- An answered operation moves exactly the bytes that its events show. -/
theorem held_of_allowed {outside held : Nat} {op : Op}
    (allowed : (coverage outside).allowed held op) (answer : op.Answer)
    : held + reservedBytes.gained (op.report answer)
      = op.held held answer + reservedBytes.lost (op.report answer) := by
  cases op with
  | tryAcquire bytes =>
      cases answer <;> simp [Op.report, Op.held, reservedBytes]
  | release bytes =>
      have enough : bytes ≤ held := allowed
      simp [Op.report, Op.held, reservedBytes]
      omega
  | fault message => exact absurd allowed id
  | withCapacity | tryReserveExact | get | nextChunk | post => rfl

/-- The events of an operation answer no request. -/
theorem answers_report (weight : Origin → String → Nat) {op : Op} (answer : op.Answer)
    : (answers weight).gained (op.report answer) = 0
      ∧ (answers weight).lost (op.report answer) = 0 := by
  cases op with
  | tryAcquire bytes => cases answer <;> simp [Op.report, answers]
  | release bytes => simp [Op.report, answers]
  | fault message => exact answer.elim
  | withCapacity | tryReserveExact | get | nextChunk | post => exact ⟨rfl, rfl⟩

theorem sound_report {op : Op} (answer : op.Answer)
    : ∀ event ∈ op.report answer, event.Sound := by
  cases op with
  | tryAcquire bytes => cases answer <;> simp [Op.report, Event.Sound]
  | release bytes => simp [Op.report, Event.Sound]
  | fault message => exact answer.elim
  | withCapacity | tryReserveExact | get | nextChunk | post =>
      exact fun _ absent => absurd absent List.not_mem_nil

/-- Answering an operation keeps a program sound, and changes only the bytes it holds. -/
theorem Execution.exchange {α : Type} {outside : Nat} {post : Nat → α → Prop}
    {execution next : Execution α} {reply : Reply} {events : List Event}
    (sound : Running.Sound (coverage outside) post execution)
    (replied : execution.reply reply = some (next, events)) (origin : Origin) (uid : String)
    (beside : Nat)
    : Running.Sound (coverage outside) post next
      ∧ Exchange [⟨origin, uid, beside + execution.ghost⟩] events
          [⟨origin, uid, beside + next.ghost⟩] := by
  have advanced
      : execution.advance (coverage outside).after Op.read Op.report reply
        = some (next, events) :=
    replied
  refine ⟨sound.advance advanced, ?_⟩
  obtain ⟨op, rest, answer, pending, -, rfl, rfl⟩ := Running.advance_eq_some advanced
  rw [Running.Sound, pending] at sound
  have moved := held_of_allowed sound.1 answer
  refine { answered := fun weight => ?_, covered := ?_, shown := sound_report answer }
  · have silent := answers_report weight answer
    rw [Ledger.Balanced, silent.1, silent.2]
    rfl
  · simp only [Ledger.Balanced, Ledger.total_cons, Ledger.total_nil, reservedBytes_worth]
    have after : (coverage outside).after execution.ghost op answer
        = op.held execution.ghost answer := rfl
    omega

-----------------------------------------------------------------------------------------
-- The writer
-----------------------------------------------------------------------------------------

/-- The responses on their way to the socket are sound. -/
def Wire.Sound (wire : Wire) : Prop :=
  ∀ response ∈ wire.writer.inHand ++ wire.bulk, response.Sound

theorem Wire.Sound.push {wire : Wire} {response : EncodedResponse} {slots : Slots Sender}
    (wired : wire.Sound) (sound : response.Sound)
    : Wire.Sound { wire with bulk := wire.bulk ++ [response], slots } := by
  intro other listed
  simp only [← List.append_assoc, List.mem_append, List.mem_singleton] at listed
  rcases listed with before | rfl
  · exact wired other (by simpa using before)
  · exact sound

/-- A response that is put on the bulk queue is one of the wire's. -/
theorem Wire.exchange_push {wire : Wire} {response : EncodedResponse} {slots : Slots Sender}
    : Exchange (response.piece :: wire.pieces) []
        (Wire.pieces { wire with bulk := wire.bulk ++ [response], slots }) := by
  refine .of_perm ?_
  simpa [Wire.pieces] using (List.perm_append_singleton response.piece wire.pieces).symm

theorem Wire.sound_ended {wire : Wire} {result : Except BoxError Unit}
    : (wire.ended result).Sound :=
  fun _ absent => absurd absent List.not_mem_nil

/-- `run_writer` returns: the responses it did not take are lost. -/
theorem Wire.exchange_finish (wire : Wire) (result : Except BoxError Unit)
    : Exchange (wire.bulk.map EncodedResponse.piece) (wire.finish result).2
        (wire.finish result).1.pieces :=
  .note rfl trivial (.lose _)

/-- Every step of the writer sends or loses what it takes off the queue. -/
theorem Wire.Sound.exchange {wire next : Wire} {action : WriterAction} {events : List Event}
    (sound : wire.Sound) (taken : wire.step action = some (next, events))
    : next.Sound ∧ Exchange wire.pieces events next.pieces := by
  have stepped := stepped_of_step taken
  unfold Wire.Sound at sound
  unfold Wire.pieces
  cases stepped with
  | control here | close here =>
      rw [here] at sound ⊢
      exact ⟨sound, .note rfl trivial .refl⟩
  | controlIdle here | bulkIdle here | bulkClosed here =>
      rw [here] at sound ⊢
      exact ⟨sound, .refl⟩
  | controlClosed => exact ⟨sound, .refl⟩
  | bulk here _ queued =>
      rw [here, queued] at sound ⊢
      exact ⟨sound, .note rfl (sound _ (by simp)) .refl⟩
  | drained here | sinkClosed here =>
      rw [here]
      exact ⟨sound_ended, wire.exchange_finish _⟩
  | sentControl here | sentClose here | failedClose here =>
      rw [here] at sound ⊢
      exact ⟨sound, .note rfl trivial .refl⟩
  | failedControl here =>
      rw [here]
      exact ⟨sound_ended, .note rfl trivial (wire.exchange_finish _)⟩
  | sentBulk here =>
      rw [here] at sound ⊢
      exact ⟨fun response listed => sound response (by simp_all [WriterPc.inHand]),
        .settle ⟨rfl, rfl⟩ (sound _ (by simp [WriterPc.inHand]))⟩
  | failedBulk here =>
      rw [here] at sound ⊢
      exact ⟨sound_ended, .note rfl (sound _ (by simp [WriterPc.inHand]))
        (.trans (.abandon _) (wire.exchange_finish _))⟩
  | panic live => exact ⟨sound_ended, .note rfl trivial (.lose _)⟩
  | cancelled aborted => exact ⟨sound_ended, .lose _⟩

/-- `control.try_send` moves no response. -/
theorem Wire.exchange_trySend (wire : Wire) (message : Message) (pieces : List Piece)
    : Exchange pieces (wire.trySend message).2 pieces := by
  unfold Wire.trySend
  split
  · exact .note rfl trivial .refl
  · exact .refl

-----------------------------------------------------------------------------------------
-- `queue_ws_response`
-----------------------------------------------------------------------------------------

/-- A call of `queue_ws_response` will leave a covered text of its response, or nothing. -/
def Queueing.Sound : Queueing → Prop
  | .encoding origin uid execution =>
      ∃ response : ResourceResponse,
        response.uid.text = uid
        ∧ origin.Admits response
        ∧ Running.Sound (coverage 0) (Encoded responseEncoder origin response 0) execution
  | .sending response | .suspended response => response.Sound

def QueueingResult.Sound : QueueingResult → Prop
  | .again call => call.Sound
  | .finished | .closed => True

def QueueingResult.pieces : QueueingResult → List Piece
  | .again call => [call.piece]
  | .finished | .closed => []

namespace Queueing

/-- A call starts sound, and with exactly what its response retains. -/
theorem sound_start {origin : Origin} {response : BudgetedResponse}
    (sound : response.Sound origin)
    : (start origin response).Sound :=
  ⟨response.response, rfl, sound.admitted, meets_encodeForQueue sound.exactly⟩

theorem Sound.exchange_reply {call next : Queueing} {reply : Reply} {events : List Event}
    (sound : call.Sound) (replied : call.reply reply = some (next, events))
    : next.Sound ∧ Exchange [call.piece] events [next.piece] := by
  cases call with
  | encoding origin uid execution =>
      obtain ⟨⟨execution', events'⟩, answered, same⟩ := Option.map_eq_some_iff.mp replied
      obtain ⟨rfl, rfl⟩ := same
      obtain ⟨response, named, admitted, running⟩ := sound
      obtain ⟨running, exchange⟩ := execution.exchange running answered origin uid 0
      exact ⟨⟨response, named, admitted, running⟩, by simpa [piece] using exchange⟩
  | sending | suspended => cases replied

/-- A step of `queue_ws_response` moves its response to the queue, or drops it, or loses it
with the channel.
-/
theorem Sound.exchange {who : Sender} {wire next : Wire} {call : Queueing}
    {result : QueueingResult} {events : List Event} (sound : call.Sound) (wired : wire.Sound)
    (taken : call.proceed who wire = some (result, next, events))
    : result.Sound ∧ next.Sound
      ∧ Exchange (call.piece :: wire.pieces) events (result.pieces ++ next.pieces) := by
  have proceeded := proceeded_of_proceed taken
  cases proceeded with
  | dropped failed =>
      obtain ⟨response, rfl, -, running⟩ := sound
      exact ⟨trivial, wired, .settleEmpty ⟨rfl, rfl⟩ trivial (running.result failed)⟩
  | encoded done =>
      obtain ⟨response, rfl, admitted, running⟩ := sound
      obtain ⟨holds, covers⟩ := running.result done
      refine ⟨covers.sound admitted, wired, ?_⟩
      simp only [piece, QueueingResult.pieces, covers.piece, holds, Nat.zero_add]
      exact .refl
  | closed ended => exact ⟨trivial, wired, .abandon _⟩
  | placed | granted =>
      exact ⟨trivial, wired.push sound, .note rfl sound Wire.exchange_push⟩
  | joined => exact ⟨sound, wired, .refl⟩
  | woken => exact ⟨trivial, wired, .abandon _⟩

end Queueing

-----------------------------------------------------------------------------------------
-- POSTs and scrape tasks
-----------------------------------------------------------------------------------------

/-- A POST under way keeps its response exact and will release its form. -/
structure Post.Sound (origin : Origin) (post : Post) : Prop where
  response : post.response.Sound origin
  execution : Running.Sound (coverage 0) (fun held _ => held = 0) post.execution

theorem Post.sound_start {context : WorkerContext} {origin : Origin}
    {response : BudgetedResponse} (sound : response.Sound origin)
    : (Post.start context response).Sound origin :=
  ⟨sound, meets_postResponse⟩

theorem Post.Sound.exchange {origin : Origin} {post : Post}
    {next : Execution (Except BoxError Unit)} {reply : Reply} {events : List Event}
    (sound : post.Sound origin) (replied : post.execution.reply reply = some (next, events))
    : Post.Sound origin { post with execution := next }
      ∧ Exchange [post.piece origin] events
          [Post.piece origin { post with execution := next }] := by
  obtain ⟨running, exchange⟩ :=
    post.execution.exchange sound.execution replied origin post.response.response.uid.text
      post.response.retained.bytes
  exact ⟨⟨sound.response, running⟩, exchange⟩

/-- A POST that has returned holds its response alone. -/
theorem Post.Sound.returned {origin : Origin} {post : Post} {result : Except BoxError Unit}
    (sound : post.Sound origin) (returned : post.execution.result? = some result)
    : post.piece origin = post.response.piece origin := by
  have empty : post.execution.ghost = 0 := sound.execution.result returned
  simp only [Post.piece, BudgetedResponse.piece, empty, Nat.add_zero]

/-- The responses of the completion channel are exact. -/
def Completions.Sound (completions : Completions) : Prop :=
  ∀ completion ∈ completions.queue, ∀ response ∈ completion.2, response.Sound .scrape

/-- What a scrape task holds is sound. -/
def ScrapePc.Sound : ScrapePc → Prop
  | .calling uid execution => Running.Sound (coverage uid.capacity) (Called uid) execution
  | .posting post => post.Sound .scrape
  | .completing response => ∀ kept ∈ response, kept.Sound .scrape
  | .spawned .. | .returning | .ended _ => True

/-- An exact response of a scrape is sound: only busy answers are restricted. -/
theorem BudgetedResponse.Exact.sound {response : BudgetedResponse} (exactly : response.Exact)
    : response.Sound .scrape :=
  ⟨exactly, fun busy => nomatch busy⟩

/-- A response that `post_response` delivered is answered for and dropped. -/
theorem BudgetedResponse.Sound.exchange_posted {origin : Origin} {response : BudgetedResponse}
    (sound : response.Sound origin)
    : Exchange [response.piece origin]
        [.posted origin response.response, .released response.retained.bytes] [] := by
  have posted : (Event.posted origin response.response).settles (response.piece origin) :=
    ⟨rfl, rfl⟩
  exact .settle posted sound.admitted

/-- `deliver_by_post` hands its response back or is done with it. -/
theorem exchange_deliverByPost {response : BudgetedResponse} (sound : response.Sound .scrape)
    (result : Except BoxError Unit)
    : (∀ kept ∈ (deliverByPost response result).1, kept.Sound .scrape)
      ∧ Exchange [response.piece .scrape] (deliverByPost response result).2
          ((deliverByPost response result).1.toList.map (BudgetedResponse.piece .scrape)) := by
  unfold deliverByPost
  split
  · exact ⟨by simp, sound.exchange_posted⟩
  · next error =>
      simp only
      split
      · next large =>
          have dropped
              : (Event.dropped .scrape response.response.uid.text
                  (.postTimedOut response.response.body.len)).settles (response.piece .scrape) :=
            ⟨rfl, rfl⟩
          exact ⟨by simp, .settle dropped ⟨rfl, large.2⟩⟩
      · exact ⟨by simpa using sound, .refl⟩

/-- Every step of a scrape task passes its request on, answers it, or loses it. -/
theorem ScrapePc.Sound.exchange {context : WorkerContext} {task : Nat} {aborted : Bool}
    {completions next : Completions} {pc pc' : ScrapePc} {action : ScrapeAction}
    {events : List Event} (sound : pc.Sound) (waiting : completions.Sound)
    (taken : pc.step context task aborted completions action = some (pc', next, events))
    : pc'.Sound ∧ next.Sound
      ∧ Exchange (pc.pieces ++ completions.pieces) events (pc'.pieces ++ next.pieces) := by
  have stepped := stepped_of_step taken
  cases stepped with
  | start => exact ⟨meets_callResource, waiting, .refl⟩
  | callReplied replied =>
      obtain ⟨running, exchange⟩ := Execution.exchange sound replied .scrape _ 0
      refine ⟨running, waiting, ?_⟩
      simpa [pieces] using exchange.frame [] completions.pieces
  | postReplied replied =>
      obtain ⟨posting, exchange⟩ := Post.Sound.exchange sound replied
      exact ⟨posting, waiting, by simpa [pieces] using exchange.frame [] completions.pieces⟩
  | refused returned =>
      refine ⟨by simp [Sound], waiting, ?_⟩
      exact .settleEmpty ⟨rfl, rfl⟩ rfl (Running.Sound.result sound returned)
  | posting returned =>
      obtain ⟨same, exactly, holds⟩ := Running.Sound.result sound returned
      refine ⟨Post.sound_start exactly.sound, waiting, ?_⟩
      simp only [pieces, Post.piece, Post.start, Execution.begin, same, holds, Nat.add_zero]
      exact .refl
  | called returned =>
      obtain ⟨same, exactly, holds⟩ := Running.Sound.result sound returned
      refine ⟨by simpa [Sound] using exactly.sound, waiting, ?_⟩
      simp only [pieces, BudgetedResponse.piece, Option.toList, List.map_cons, List.map_nil,
        same, holds]
      exact .refl
  | delivered returned =>
      obtain ⟨kept, exchange⟩ := exchange_deliverByPost sound.response _
      refine ⟨kept, waiting, ?_⟩
      simp only [pieces, sound.returned returned]
      exact exchange.frame [] completions.pieces
  | sent received empty =>
      refine ⟨trivial, ?_, ?_⟩
      · intro completion listed
        obtain rfl := List.mem_singleton.mp listed
        exact sound
      · simp only [pieces, Completions.pieces, empty, List.flatMap_nil, List.append_nil,
          List.flatMap_cons, List.nil_append]
        exact .refl
  | lost gone => exact ⟨trivial, waiting, .loseFirst _ _⟩
  | finished => exact ⟨trivial, waiting, .refl⟩
  | panicked before =>
      exact ⟨trivial, waiting, .note rfl trivial (.loseFirst _ _)⟩
  | cancelled abort awaits => exact ⟨trivial, waiting, .loseFirst _ _⟩

-----------------------------------------------------------------------------------------
-- The busy-response actor
-----------------------------------------------------------------------------------------

/-- What the actor, its queue and the wire hold is sound. -/
structure BusySide.Sound (side : BusySide) : Prop where
  call : ∀ call, side.actor.pc = .queueing call → call.Sound
  posts : ∀ post ∈ side.actor.posts, post.Sound .busy
  queued : ∀ response ∈ side.busy.queue, response.Sound .busy
  wire : side.wire.Sound

namespace BusySide

/-- The actor's end loses what it and its queue hold, and nothing of the wire. -/
theorem Sound.exchange_stop {side : BusySide} {wire : Wire} (sound : side.Sound)
    (bulk : wire.bulk = side.wire.bulk) (writer : wire.writer = side.wire.writer)
    : (side.stop wire).Sound ∧ Exchange side.pieces (lose side.held) (side.stop wire).pieces := by
  constructor
  · refine { call := ?_, posts := ?_, queued := ?_, wire := ?_ }
    · exact fun _ absent => nomatch absent
    · exact fun _ absent => absurd absent List.not_mem_nil
    · exact fun _ absent => absurd absent List.not_mem_nil
    · intro response listed
      exact sound.wire response (by simpa [stop, Wire.dropBulkSender, bulk, writer] using listed)
  · have same : (side.stop wire).pieces = side.wire.pieces := by
      simp [pieces, stop, BusyActor.pieces, BusyActorPc.pieces, BusyQueue.pieces, Wire.pieces,
        Wire.dropBulkSender, bulk, writer]
    rw [same]
    exact .loseFirst side.held side.wire.pieces

/-- What a step of `queue_ws_response` exchanges, the actor and the wire exchange. -/
theorem exchange_call {side : BusySide} {call : Queueing} {pc : BusyActorPc} {wire : Wire}
    {events : List Event} (here : side.actor.pc = .queueing call)
    (exchange : Exchange (call.piece :: side.wire.pieces) events (pc.pieces ++ wire.pieces))
    : Exchange side.pieces events
        (pieces { side with actor := { side.actor with pc }, wire }) := by
  refine exchange.within fun ledger => ?_
  simp only [pieces, BusyActor.pieces, here, BusyActorPc.pieces, Ledger.total_append,
    Ledger.total_cons, Ledger.total_nil]
  omega

/-- Every step of the actor passes a busy answer on, delivers it, drops it, or loses it. -/
theorem Sound.exchange {context : WorkerContext} {side next : BusySide}
    {action : BusyActorAction} {events : List Event} (sound : side.Sound)
    (taken : side.step context action = some (next, events))
    : next.Sound ∧ Exchange side.pieces events next.pieces := by
  have stepped := stepped_of_step taken
  cases stepped with
  | finished here => exact sound.exchange_stop rfl rfl
  | @received response queue here opened room queued =>
      have fit := sound.queued response (by simp [queued])
      constructor
      · refine { sound with posts := ?_, queued := ?_ }
        · intro post listed
          rcases List.mem_append.mp listed with older | new
          · exact sound.posts post older
          · obtain rfl := List.mem_singleton.mp new
            exact Post.sound_start fit
        · exact fun other listed => sound.queued other (by simp [queued, listed])
      · have same : (Post.start context response).piece .busy = response.piece .busy := rfl
        simp only [pieces, BusyActor.pieces, BusyQueue.pieces, queued, List.map_append,
          List.map_cons, List.map_nil, same, List.nil_append, List.append_assoc,
          List.cons_append]
        exact .refl
  | inputClosed here empty closed => exact ⟨{ sound with }, .refl⟩
  | replied here found answered =>
      obtain ⟨front, back, opened⟩ := opened_of_getElem? found
      obtain ⟨posting, exchange⟩ := (sound.posts _ opened.entry_mem).exchange answered
      constructor
      · refine { sound with posts := ?_ }
        rw [opened.replaced]
        exact opened.forall_replaced sound.posts posting
      · have framed := exchange.frame (front.map (Post.piece .busy))
          (back.map (Post.piece .busy) ++ side.busy.pieces ++ side.wire.pieces)
        simp only [pieces, BusyActor.pieces, here, BusyActorPc.pieces]
        rw [opened.replaced, opened.whole]
        simpa using framed
  | delivered here found returned =>
      obtain ⟨front, back, opened⟩ := opened_of_getElem? found
      have posted := sound.posts _ opened.entry_mem
      constructor
      · refine { sound with posts := ?_ }
        rw [opened.removed]
        exact opened.forall_removed sound.posts
      · have framed := posted.response.exchange_posted.frame (front.map (Post.piece .busy))
          (back.map (Post.piece .busy) ++ side.busy.pieces ++ side.wire.pieces)
        simp only [pieces, BusyActor.pieces, here, BusyActorPc.pieces]
        rw [opened.removed, opened.whole]
        simpa [posted.returned returned] using framed
  | failed here found returned =>
      obtain ⟨front, back, opened⟩ := opened_of_getElem? found
      have posted := sound.posts _ opened.entry_mem
      constructor
      · refine { sound with call := ?_, posts := ?_ }
        · rintro call ⟨⟩
          exact Queueing.sound_start posted.response
        · rw [opened.removed]
          exact opened.forall_removed sound.posts
      · simp only [pieces, BusyActor.pieces, here, BusyActorPc.pieces]
        rw [opened.removed, opened.whole]
        have moves : (Queueing.start .busy _).piece = _ := (posted.returned returned).symm
        refine .of_perm ?_
        simp [moves]
  | encoding here answered =>
      obtain ⟨encoding, exchange⟩ := (sound.call _ here).exchange_reply answered
      constructor
      · refine { sound with call := ?_ }
        rintro call ⟨⟩
        exact encoding
      · have framed := exchange.frame []
          (side.actor.posts.map (Post.piece .busy) ++ side.busy.pieces ++ side.wire.pieces)
        simpa [pieces, BusyActor.pieces, here, BusyActorPc.pieces] using framed
  | queueing here proceeded =>
      obtain ⟨again, wired, exchange⟩ := (sound.call _ here).exchange sound.wire proceeded
      refine ⟨{ sound with call := ?_, wire := wired }, exchange_call here exchange⟩
      rintro call ⟨⟩
      exact again
  | queued here proceeded =>
      obtain ⟨-, wired, exchange⟩ := (sound.call _ here).exchange sound.wire proceeded
      refine ⟨{ sound with call := ?_, wire := wired }, exchange_call here exchange⟩
      exact fun _ absent => nomatch absent
  | @closed call wire events here proceeded =>
      obtain ⟨-, wired, exchange⟩ := (sound.call _ here).exchange sound.wire proceeded
      let rest : BusySide := { side with actor := { side.actor with pc := .top }, wire }
      have kept : rest.Sound :=
        { sound with
          call := fun _ absent => BusyActorPc.noConfusion absent
          wire := wired }
      obtain ⟨stopped, lost⟩ := kept.exchange_stop rfl rfl
      exact ⟨stopped, (exchange_call here exchange).trans lost⟩
  | panicked live =>
      obtain ⟨bulk, writer⟩ := side.leaveLine_same
      obtain ⟨stopped, exchange⟩ := sound.exchange_stop bulk writer
      exact ⟨stopped, .note rfl trivial exchange⟩
  | cancelled abort live =>
      obtain ⟨bulk, writer⟩ := side.leaveLine_same
      exact sound.exchange_stop bulk writer

end BusySide

end ProxyClient
