import ProxyClient.Encoding.Bounded
import ProxyClient.Worker.Scrape

/-! What becomes of a busy answer whose POST has failed: `queue_ws_response` queues a text that
stands for it, or the memory budget has no room for one.
-/

namespace ProxyClient

open Foundations Memory

/-- A text is that of the response, or of the empty error in its place. -/
structure EncodedResponse.StandsFor (encoded : EncodedResponse) (response : ResourceResponse)
    : Prop where
  origin : encoded.origin = .busy
  source : encoded.source = response ∨ encoded.source = response.downgraded
  text : encoded.json.text = responseJson encoded.source

/-- What `queue_ws_response` may have for a response: a text that stands for it, or an error. A
busy answer always has a short uid and no body, and then only the memory budget refuses.
-/
def StandsFor (response : ResourceResponse) : Except BoxError EncodedResponse → Prop
  | .ok encoded => encoded.StandsFor response
  | .error error =>
      response.uid.len ≤ maxUidSize
      → response.body.len ≤ maxBodySize
      → ∃ refused, error = .memoryBudget refused

/-- What becomes of a failed response: a text that stands for it is queued for the WebSocket, or
the memory budget has no room for one.
-/
inductive FallsBack (response : BudgetedResponse) : Event → Prop
  | queued {encoded} (stands : StandsFor response.response (.ok encoded))
    : FallsBack response (.bulkQueued encoded)
  | dropped {error} (stands : StandsFor response.response (.error error))
    : FallsBack response (.dropped .busy response.response.uid.text (.encoding error))

/-- What a reserved response is encoded to: its own text, unless the slack is refused. -/
def EncodesOwn (source : ResourceResponse) : Except BoxError EncodedResponse → Prop
  | .ok encoded =>
      encoded.origin = .busy ∧ encoded.source = source ∧ encoded.json.text = responseJson source
  | .error error => ∃ refused, error = .memoryBudget refused

theorem EncodesOwn.standsFor {response source : ResourceResponse}
    {result : Except BoxError EncodedResponse} (own : EncodesOwn source result)
    (same : source = response ∨ source = response.downgraded)
    : StandsFor response result := by
  cases result with
  | error error =>
      intro _ _
      exact own
  | ok encoded =>
      obtain ⟨origin, rfl, text⟩ := own
      exact ⟨origin, same, text⟩

section

variable {response : BudgetedResponse}

/-- Once the computed length is reserved, only the slack of the buffer can be refused. -/
theorem meets_encodeReserved_own {length : Nat} {reservation : MemoryReservation}
    (computed : responseJsonEncodedLen response.response = some length)
    : (encodeReserved responseEncoder .busy response length reservation).Meets anything
        (fun _ result => EncodesOwn response.response result) () := by
  have same := jsonLength_eq computed
  simp only [encodeReserved, responseEncoder, same, ne_eq, not_true_eq_false, if_false,
    Program.bind_eq]
  apply meets_anything_bind
  intro capacity
  apply meets_anything_bind
  rintro (error | reservation)
  · apply meets_anything_bind
    intro _
    exact ⟨error, rfl⟩
  · exact ⟨rfl, rfl, rfl⟩

/-- A downgraded response has a short text, so only the budget can refuse it. -/
theorem meets_encodeDowngraded_stands
    : (encodeDowngraded maxWsMessageSize responseEncoder .busy response).Meets anything
        (fun _ result => StandsFor response.response result.2) () := by
  have becomes
      : response.downgradeToError.Meets anything
          (fun _ after => after.response = response.response.downgraded) () := by
    simp only [BudgetedResponse.downgradeToError, Program.bind_eq]
    apply meets_anything_bind
    intro _
    rfl
  simp only [encodeDowngraded, Program.bind_eq]
  refine becomes.bind ?_
  intro _ after same
  rw [same]
  have short (uid : response.response.uid.len ≤ maxUidSize)
      : responseJsonEncodedLen response.response.downgraded
          = some (responseJson response.response.downgraded).utf8ByteSize
        ∧ (responseJson response.response.downgraded).utf8ByteSize ≤ maxWsMessageSize :=
    ⟨jsonLength_of_admitted uid (Nat.zero_le _),
      Nat.le_trans (downgraded_small uid) (by decide)⟩
  split
  · next overflows =>
      intro uid _
      rw [(short uid).1] at overflows
      cases overflows
  · next length computed =>
      split
      · next beyond =>
          intro uid _
          obtain ⟨computed', small⟩ := short uid
          obtain rfl := Option.some.inj (computed'.symm.trans computed)
          exact absurd small (Nat.not_le.mpr beyond)
      · apply meets_anything_bind
        rintro (error | reservation)
        · intro _ _
          exact ⟨error, rfl⟩
        · rw [← same] at computed
          refine (meets_encodeReserved_own computed).bind ?_
          intro _ result own
          exact own.standsFor (.inr same)

/-- Every end of `queue_ws_response` for a busy answer. -/
theorem meets_encodeForQueue_stands
    : (encodeForQueue .busy response).Meets anything
        (fun _ result => StandsFor response.response result) () := by
  have bounded
      : (boundedResponseJson .busy response).Meets anything
          (fun _ result => StandsFor response.response result.2) () := by
    unfold boundedResponseJson boundedResponseJsonWith
    split
    · next overflows =>
        intro uid body
        rw [jsonLength_of_admitted uid body] at overflows
        cases overflows
    · next length computed =>
        split
        · apply meets_anything_bind
          rintro (error | reservation)
          · exact meets_encodeDowngraded_stands
          · refine (meets_encodeReserved_own computed).bind ?_
            intro _ result own
            exact own.standsFor (.inl rfl)
        · exact meets_encodeDowngraded_stands
  simp only [encodeForQueue, Program.bind_eq]
  refine bounded.bind ?_
  rintro _ ⟨after, encoded⟩ stands
  apply meets_anything_bind
  intro _
  exact stands

end

/-- A call of `queue_ws_response` for a busy answer, wherever it stands. -/
def Queueing.Sends (response : BudgetedResponse) : Queueing → Prop
  | .encoding origin uid execution =>
      origin = .busy
      ∧ uid = response.response.uid.text
      ∧ execution.rest.Meets anything (fun _ result => StandsFor response.response result) ()
  | .sending encoded | .suspended encoded => StandsFor response.response (.ok encoded)

/-- What one step of such a call may leave: the call, or the event that ends it. -/
def QueueingResult.Leaves (response : BudgetedResponse) (events : List Event)
    : QueueingResult → Prop
  | .again next => next.Sends response ∧ events = []
  | .finished => ∃ event, events = [event] ∧ FallsBack response event
  | .closed => True

namespace Queueing

variable {response : BudgetedResponse} {call next : Queueing}

theorem sends_start (response : BudgetedResponse) : (start .busy response).Sends response :=
  ⟨rfl, rfl, meets_encodeForQueue_stands⟩

theorem Sends.reply {reply : Reply} {events : List Event} (sends : call.Sends response)
    (replied : call.reply reply = some (next, events))
    : next.Sends response := by
  cases call with
  | encoding origin uid execution =>
      obtain ⟨⟨execution', events'⟩, answered, same⟩ := Option.map_eq_some_iff.mp replied
      obtain ⟨rfl, rfl⟩ := same
      obtain ⟨busy, named, meets⟩ := sends
      obtain ⟨op, rest, answer, pending, -, rfl, -⟩ := Running.advance_eq_some answered
      rw [pending] at meets
      exact ⟨busy, named, meets.2 answer⟩
  | sending | suspended => cases replied

/-- An encoding that has ended leaves what stands for its response. -/
theorem Sends.result {origin : Origin} {uid : String}
    {execution : Execution (Except BoxError EncodedResponse)}
    {result : Except BoxError EncodedResponse}
    (sends : (encoding origin uid execution).Sends response)
    (returned : execution.result? = some result)
    : StandsFor response.response result := by
  obtain ⟨-, -, meets⟩ := sends
  unfold Running.result? at returned
  split at returned
  · next ended =>
      obtain rfl := Option.some.inj returned
      rw [ended] at meets
      exact meets
  · cases returned

/-- One step of the call leaves the call, or the one event that ends it. -/
theorem Sends.proceed {who : Sender} {wire after : Wire} {result : QueueingResult}
    {events : List Event} (sends : call.Sends response)
    (taken : call.proceed who wire = some (result, after, events))
    : result.Leaves response events := by
  cases proceeded_of_proceed taken with
  | @dropped origin uid execution error failed =>
      have stands := sends.result failed
      obtain ⟨rfl, rfl, -⟩ := sends
      exact ⟨_, rfl, .dropped stands⟩
  | encoded done => exact ⟨sends.result done, rfl⟩
  | placed | granted => exact ⟨_, rfl, .queued sends⟩
  | joined => exact ⟨sends, rfl⟩
  | closed | woken => trivial

end Queueing

end ProxyClient
