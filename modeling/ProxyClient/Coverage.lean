import ProxyClient.Resource
import ProxyClient.Worker.Delivery

/-! Every program keeps its buffers covered by the reservations it holds.
The judgement is `Program.Meets` for one contract, over the bytes a program holds: it never
releases more than it holds, never fails an assertion, and at every await point its buffers
fit into what it holds, whatever the budget, the allocator and the network answer.
-/

namespace ProxyClient

open Foundations Memory

/-- What a program that holds `held` bytes may do, while buffers of `outside` bytes live
beside the ones it allocates itself.
-/
def coverage (outside : Nat) : Contract Op Op.Answer Nat where
  allowed held op :=
    match op with
    | .release bytes => bytes ≤ held
    | .get _ => outside ≤ held
    | .nextChunk capacity => outside + capacity ≤ held
    | .post prepared =>
        prepared.form.capacity ≤ prepared.reservation.bytes ∧ prepared.reservation.bytes ≤ held
    | .fault _ => False
    | .tryAcquire _ | .withCapacity _ | .tryReserveExact _ => True
  after := Op.held

-----------------------------------------------------------------------------------------
-- Rules for one operation
-----------------------------------------------------------------------------------------

section Rules

variable {outside held : Nat}

theorem meets_tryAcquire {bytes : Nat} {post : Nat → Except MemoryBudgetError Unit → Prop}
    : (perform (.tryAcquire bytes)).Meets (coverage outside) post held
      ↔ post (held + bytes) (.ok ()) ∧ ∀ error, post held (.error error) := by
  constructor
  · rintro ⟨-, met⟩
    exact ⟨met (.ok ()), fun error => met (.error error)⟩
  · rintro ⟨granted, refused⟩
    refine ⟨trivial, ?_⟩
    rintro (error | ⟨⟩)
    · exact refused error
    · exact granted

@[simp] theorem meets_release {bytes : Nat} {post : Nat → Unit → Prop}
    : (perform (.release bytes)).Meets (coverage outside) post held
      ↔ bytes ≤ held ∧ post (held - bytes) () :=
  and_congr_right fun _ => ⟨fun met => met (), fun met _ => met⟩

@[simp] theorem meets_withCapacity {least : Nat} {post : Nat → Capacity least → Prop}
    : (perform (.withCapacity least)).Meets (coverage outside) post held
      ↔ ∀ capacity, post held capacity :=
  ⟨fun met => met.2, fun met => ⟨trivial, met⟩⟩

theorem meets_tryReserveExact {least : Nat}
    {post : Nat → Except BoxError (Capacity least) → Prop}
    : (perform (.tryReserveExact least)).Meets (coverage outside) post held
      ↔ (∀ capacity, post held (.ok capacity)) ∧ ∀ error, post held (.error error) := by
  constructor
  · rintro ⟨-, met⟩
    exact ⟨fun capacity => met (.ok capacity), fun error => met (.error error)⟩
  · rintro ⟨given, refused⟩
    refine ⟨trivial, ?_⟩
    rintro (error | capacity)
    · exact refused error
    · exact given capacity

@[simp] theorem meets_get {url : String}
    {post : Nat → Except BoxError ExporterResponse → Prop}
    : (perform (.get url)).Meets (coverage outside) post held
      ↔ outside ≤ held ∧ ∀ answer, post held answer :=
  Iff.rfl

@[simp] theorem meets_nextChunk {capacity : Nat} {post : Nat → Unit → Prop}
    : (perform (.nextChunk capacity)).Meets (coverage outside) post held
      ↔ outside + capacity ≤ held ∧ post held () :=
  and_congr_right fun _ => ⟨fun met => met (), fun met _ => met⟩

@[simp] theorem meets_post {prepared : PreparedFormRequest}
    {post : Nat → Except BoxError UInt16 → Prop}
    : (perform (.post prepared)).Meets (coverage outside) post held
      ↔ (prepared.form.capacity ≤ prepared.reservation.bytes
          ∧ prepared.reservation.bytes ≤ held)
        ∧ ∀ answer, post held answer :=
  Iff.rfl

-----------------------------------------------------------------------------------------
-- Rules for reservations
-----------------------------------------------------------------------------------------

/-- `try_reserve` either adds a reservation of exactly the requested bytes or nothing. -/
@[simp] theorem meets_tryReserve {bytes : Nat}
    {post : Nat → Except MemoryBudgetError MemoryReservation → Prop}
    : (tryReserve bytes).Meets (coverage outside) post held
      ↔ post (held + bytes) (.ok ⟨bytes⟩) ∧ ∀ error, post held (.error error) := by
  simp only [tryReserve, Program.bind_eq, Program.meets_bind, meets_tryAcquire,
    Program.pure_eq, Program.meets_pure]

/-- `try_grow` either adds exactly the requested bytes or nothing. -/
@[simp] theorem meets_tryGrow {reservation : MemoryReservation} {additional : Nat}
    {post : Nat → Except MemoryBudgetError MemoryReservation → Prop}
    : (reservation.tryGrow additional).Meets (coverage outside) post held
      ↔ post (held + additional) (.ok ⟨reservation.bytes + additional⟩)
        ∧ ∀ error, post held (.error error) := by
  simp only [MemoryReservation.tryGrow, Program.bind_eq, Program.meets_bind, meets_tryAcquire,
    Program.pure_eq, Program.meets_pure]

/-- Growing a reservation that covers `covered` bytes so that it covers `actual`. -/
theorem meets_growBeyond {reservation : MemoryReservation} {actual covered : Nat}
    {post : Nat → Except MemoryBudgetError MemoryReservation → Prop}
    (granted
      : post (held + (actual - covered)) (.ok ⟨reservation.bytes + (actual - covered)⟩))
    (refused : ∀ error, post held (.error error))
    : (reservation.growBeyond actual covered).Meets (coverage outside) post held := by
  unfold MemoryReservation.growBeyond
  split
  · exact meets_tryGrow.mpr ⟨granted, refused⟩
  · next within =>
      have none : actual - covered = 0 := by omega
      simpa [none] using granted

/-- `shrink_to` to at most the reservation's own bytes passes its assertion. -/
theorem meets_shrinkTo {reservation : MemoryReservation} {bytes : Nat}
    {post : Nat → MemoryReservation → Prop} (smaller : bytes ≤ reservation.bytes)
    (live : reservation.bytes ≤ held)
    (shrunk : post (held - (reservation.bytes - bytes)) ⟨bytes⟩)
    : (reservation.shrinkTo bytes).Meets (coverage outside) post held := by
  simp only [MemoryReservation.shrinkTo, smaller, if_true, Program.bind_eq, Program.meets_bind,
    meets_release, Program.pure_eq, Program.meets_pure]
  exact ⟨by omega, shrunk⟩

@[simp] theorem meets_drop {reservation : MemoryReservation} {post : Nat → Unit → Prop}
    : reservation.drop.Meets (coverage outside) post held
      ↔ reservation.bytes ≤ held ∧ post (held - reservation.bytes) () :=
  meets_release

end Rules

-----------------------------------------------------------------------------------------
-- Budgeted responses
-----------------------------------------------------------------------------------------

/-- A response retains exactly the capacities of its two buffers. -/
def BudgetedResponse.Exact (response : BudgetedResponse) : Prop :=
  response.retained.bytes = response.capacity

namespace BudgetedResponse

variable {outside held : Nat}

/-- `try_new` either holds exactly its new response or nothing. -/
theorem meets_tryNew {uid body : RustString} {status : UInt16}
    {post : Nat → Except MemoryBudgetError BudgetedResponse → Prop}
    (created
      : ∀ response : BudgetedResponse,
          response.response = .new uid status body
          → response.Exact
          → post (held + response.retained.bytes) (.ok response))
    (refused : ∀ error, post held (.error error))
    : (tryNew uid status body).Meets (coverage outside) post held := by
  simp only [tryNew, retainedResponseBytes, checkedAdd_capacity, Program.bind_eq,
    Program.meets_bind, meets_tryReserve, Program.pure_eq, Program.meets_pure]
  exact ⟨created ⟨_, ⟨uid.capacity + body.capacity⟩⟩ rfl rfl, refused⟩

/-- `from_reserved` passes its assertions when the reservation covers the two buffers, and
gives back what is beyond them.
-/
theorem meets_fromReserved {uid body : RustString} {status : UInt16}
    {retained : MemoryReservation} {post : Nat → BudgetedResponse → Prop}
    (covers : uid.capacity + body.capacity ≤ retained.bytes) (live : retained.bytes ≤ held)
    (created
      : ∀ response : BudgetedResponse,
          response.response = .new uid status body
          → response.Exact
          → post (held - retained.bytes + response.retained.bytes) response)
    : (fromReserved uid status body retained).Meets (coverage outside) post held := by
  simp only [fromReserved, checkedAdd_capacity, covers, if_true, Program.bind_eq,
    Program.meets_bind]
  refine meets_shrinkTo covers live ?_
  have balance
      : held - (retained.bytes - (uid.capacity + body.capacity))
        = held - retained.bytes + (uid.capacity + body.capacity) := by
    omega
  rw [balance]
  exact created ⟨_, ⟨uid.capacity + body.capacity⟩⟩ rfl rfl

/-- `downgrade_to_error` keeps the response exact: it gives back the body's capacity. -/
theorem meets_downgradeToError {response : BudgetedResponse}
    {post : Nat → BudgetedResponse → Prop} (exactly : response.Exact)
    (live : response.retained.bytes ≤ held)
    (downgraded
      : ∀ error : BudgetedResponse,
          error.response = { response.response with body := .new, status := 500 }
          → error.Exact
          → post (held - response.retained.bytes + error.retained.bytes) error)
    : response.downgradeToError.Meets (coverage outside) post held := by
  have total : response.retained.bytes
      = response.response.uid.capacity + response.response.body.capacity := exactly
  simp only [downgradeToError, Program.bind_eq, Program.meets_bind]
  refine meets_shrinkTo (by omega) live ?_
  have balance
      : held - (response.retained.bytes - response.response.uid.capacity)
        = held - response.retained.bytes + response.response.uid.capacity := by
    omega
  rw [balance]
  exact downgraded ⟨_, ⟨response.response.uid.capacity⟩⟩ rfl rfl

end BudgetedResponse

-----------------------------------------------------------------------------------------
-- One exporter call
-----------------------------------------------------------------------------------------

/-- What reading a body leaves in the caller's reservation: the uid stays covered, and a body
that was read is covered exactly.
-/
structure Fetched {Body : Type} (uid : RustString) (capacity : Body → Nat) (held : Nat)
    (result : Except BoxError Body × MemoryReservation)
    : Prop where
  live : held = result.2.bytes
  uidCovered : uid.capacity ≤ result.2.bytes
  bodyCovered : ∀ body, result.1 = .ok body → result.2.bytes = uid.capacity + capacity body

theorem Fetched.error {Body : Type} {uid : RustString} {capacity : Body → Nat}
    {error : BoxError} {retained : MemoryReservation}
    (uidCovered : uid.capacity ≤ retained.bytes)
    : Fetched uid capacity retained.bytes (.error error, retained) :=
  { live := rfl, uidCovered, bodyCovered := fun _ absent => nomatch absent }

/-- The body loop keeps the buffer covered exactly, by induction over the chunks: each one is
admitted, covered by `try_grow`, allocated for, and its slack covered before the next await.
-/
theorem meets_readChunks {uid : RustString} {buffer : BodyBuffer} {retained : MemoryReservation}
    {chunks : List (Except BoxError (List UInt8))}
    (covered : retained.bytes = uid.capacity + buffer.capacity)
    : (readChunks buffer retained chunks).Meets (coverage uid.capacity)
        (Fetched uid BodyBuffer.capacity) retained.bytes := by
  have uidCovered : uid.capacity ≤ retained.bytes := by omega
  induction chunks generalizing buffer retained with
  | nil =>
      simp only [readChunks, Program.bind_eq, Program.meets_bind, meets_nextChunk,
        Program.pure_eq, Program.meets_pure]
      refine ⟨by omega, rfl, uidCovered, ?_⟩
      rintro _ ⟨⟩
      exact covered
  | cons chunk chunks ih =>
      cases chunk with
      | error error =>
          simp only [readChunks, Program.bind_eq, Program.meets_bind, meets_nextChunk,
            Program.pure_eq, Program.meets_pure]
          exact ⟨by omega, .error uidCovered⟩
      | ok chunk =>
          simp only [readChunks, Program.bind_eq, Program.meets_bind, meets_nextChunk]
          refine ⟨by omega, ?_⟩
          split
          · next within =>
              split
              · next room => exact ih covered uidCovered
              · next room =>
                  have sum := saturatingAdd_eq within
                  simp only [Program.meets_bind, meets_tryGrow]
                  refine ⟨?_, fun error => .error uidCovered⟩
                  simp only [meets_tryReserveExact, Program.meets_bind]
                  have grown (more : Nat) : uid.capacity ≤ retained.bytes + more := by omega
                  refine ⟨fun capacity => ?_, fun error => .error (grown _)⟩
                  have larger := capacity.property.1
                  refine meets_growBeyond ?_ fun error => .error (grown _)
                  exact ih (by simp only [BodyBuffer.extend]; omega)
                    (Nat.le_add_right_of_le (grown _))
          · exact .error uidCovered

/-- `fetch_resource` keeps the uid covered and covers its body exactly. -/
theorem meets_fetchResource {uid : RustString} {url : String} {retained : MemoryReservation}
    (covered : retained.bytes = uid.capacity)
    : (fetchResource url retained).Meets (coverage uid.capacity)
        (Fetched uid fun body => body.2.capacity) retained.bytes := by
  have uidCovered : uid.capacity ≤ retained.bytes := by omega
  simp only [fetchResource, Program.bind_eq, Program.meets_bind, meets_get]
  refine ⟨uidCovered, ?_⟩
  rintro (error | response)
  · exact .error uidCovered
  · simp only
    split
    · exact .error uidCovered
    · have grown (more : Nat) : uid.capacity ≤ retained.bytes + more := by omega
      simp only [Program.meets_bind, meets_tryGrow, meets_withCapacity]
      refine ⟨fun capacity => ?_, fun error => .error uidCovered⟩
      have larger := capacity.property.1
      refine meets_growBeyond ?_ fun error => .error (grown _)
      refine Program.Meets.bind (meets_readChunks (by simp only; omega)) ?_
      rintro held ⟨body, retained⟩ ⟨rfl, uidCovered, bodyCovered⟩
      cases body with
      | error error => exact .error uidCovered
      | ok buffer =>
          simp only [Except.bind]
          split
          · exact .error uidCovered
          · next body read =>
              refine ⟨rfl, uidCovered, ?_⟩
              rintro _ ⟨⟩
              rw [BodyBuffer.fromUtf8_capacity read]
              exact bodyCovered buffer rfl

/-- What `call_resource` leaves: nothing, or an exact response with the caller's uid. -/
def Called (uid : RustString) (held : Nat) : Option BudgetedResponse → Prop
  | none => held = 0
  | some response =>
      response.response.uid = uid ∧ response.Exact ∧ held = response.retained.bytes

/-- Every branch of `call_resource` ends in `from_reserved` with a reservation that covers
its two buffers.
-/
theorem meets_called {uid body : RustString} {status : UInt16} {retained : MemoryReservation}
    {outside : Nat} (covers : uid.capacity + body.capacity ≤ retained.bytes)
    : (BudgetedResponse.fromReserved uid status body retained).Meets (coverage outside)
        (fun held response => Called uid held (some response)) retained.bytes := by
  refine BudgetedResponse.meets_fromReserved covers (Nat.le_refl _) ?_
  intro response same covered
  exact ⟨by rw [same]; rfl, covered, by omega⟩

theorem meets_callResource {resources : String → Option String} {uid : RustString}
    {resource : String}
    : (callResource resources uid resource).Meets (coverage uid.capacity) (Called uid) 0 := by
  simp only [callResource, Program.bind_eq, Program.meets_bind, meets_tryReserve, Nat.zero_add]
  refine ⟨?_, fun error => rfl⟩
  cases resources resource with
  | none =>
      simp only [Program.meets_bind, meets_tryGrow]
      exact ⟨meets_called (Nat.le_refl _), fun error => meets_called (Nat.le_refl _)⟩
  | some url =>
      simp only [Program.meets_bind]
      have reserved : (⟨uid.capacity⟩ : MemoryReservation).bytes = uid.capacity := rfl
      refine (meets_fetchResource reserved).mono ?_
      rintro held ⟨body, retained⟩ ⟨rfl, uidCovered, bodyCovered⟩
      cases body with
      | error error =>
          have shrunk : retained.bytes - (retained.bytes - uid.capacity) = uid.capacity := by
            simp only at uidCovered
            omega
          simp only [Program.meets_bind]
          refine meets_shrinkTo uidCovered (Nat.le_refl _) ?_
          rw [shrunk]
          exact meets_called (Nat.le_refl _)
      | ok fetched =>
          obtain ⟨status, body⟩ := fetched
          simp only [Program.meets_bind]
          exact meets_called (Nat.le_of_eq (bodyCovered _ rfl).symm)

-----------------------------------------------------------------------------------------
-- Responses for the WebSocket
-----------------------------------------------------------------------------------------

/-- The response after `downgrade_to_error`. -/
def ResourceResponse.downgraded (response : ResourceResponse) : ResourceResponse :=
  { response with body := .new, status := 500 }

/-- What an encoder may leave of a response: its text is covered until it is sent, and is
the text of the response or of its downgraded form.
-/
structure EncodedResponse.Covers (encoded : EncodedResponse) (encoder : Encoder)
    (origin : Origin) (response : ResourceResponse)
    : Prop where
  covered : encoded.json.capacity ≤ encoded.reservation.bytes
  sameOrigin : encoded.origin = origin
  source : encoded.source = response ∨ encoded.source = response.downgraded
  encodes : encoder encoded.source = .ok encoded.json.text

/-- What an encoder holds when it has ended, beside `base` other bytes. -/
def Encoded (encoder : Encoder) (origin : Origin) (response : ResourceResponse)
    (base held : Nat)
    : Except BoxError EncodedResponse → Prop
  | .error _ => held = base
  | .ok encoded =>
      held = base + encoded.reservation.bytes ∧ encoded.Covers encoder origin response

/-- Once its length is reserved, a text is covered with the slack of its buffer, or nothing
is left.
-/
theorem meets_encodeReserved {encoder : Encoder} {origin : Origin}
    {response : BudgetedResponse} {original : ResourceResponse} {length outside base : Nat}
    (source : response.response = original ∨ response.response = original.downgraded)
    : (encodeReserved encoder origin response length ⟨length⟩).Meets (coverage outside)
        (Encoded encoder origin original base) (base + length) := by
  unfold encodeReserved
  split
  · simp only [Program.bind_eq, Program.meets_bind, meets_drop, Program.pure_eq,
      Program.meets_pure]
    exact ⟨by omega, by simp [Encoded]⟩
  · next json encodes =>
      simp only [Program.bind_eq, Program.meets_bind, meets_withCapacity]
      intro capacity
      have fits := capacity.property.1
      split
      · simp only [Program.meets_bind, meets_drop, Program.pure_eq, Program.meets_pure]
        exact ⟨by omega, by simp [Encoded]⟩
      · next agreed =>
          simp only [Program.meets_bind]
          refine meets_growBeyond ?_ fun error => ?_
          · exact ⟨by simp only; omega, by simp only; omega, rfl, source, encodes⟩
          · simp only [Program.meets_bind, meets_drop, Program.pure_eq, Program.meets_pure]
            exact ⟨by omega, by simp [Encoded]⟩

/-- What `bounded_response_json` leaves: the response, downgraded or not, and the encoder's
own result.
-/
def Bounded (encoder : Encoder) (origin : Origin) (original : ResourceResponse) (held : Nat)
    (result : BudgetedResponse × Except BoxError EncodedResponse)
    : Prop :=
  Encoded encoder origin original result.1.retained.bytes held result.2

theorem meets_encodeDowngraded {limit outside : Nat} {encoder : Encoder} {origin : Origin}
    {response : BudgetedResponse} (exactly : response.Exact)
    : (encodeDowngraded limit encoder origin response).Meets (coverage outside)
        (Bounded encoder origin response.response) response.retained.bytes := by
  simp only [encodeDowngraded, Program.bind_eq, Program.meets_bind]
  refine BudgetedResponse.meets_downgradeToError exactly (Nat.le_refl _) ?_
  intro error same _
  rw [Nat.sub_self, Nat.zero_add]
  split
  · rfl
  · split
    · rfl
    · simp only [Program.meets_bind, meets_tryReserve]
      refine ⟨?_, fun _ => rfl⟩
      exact (meets_encodeReserved (.inr same)).mono fun _ _ encoded => encoded

/-- `bounded_response_json` covers its text, whichever form of the response it encodes. -/
theorem meets_boundedResponseJsonWith {limit outside : Nat} {encoder : Encoder}
    {origin : Origin} {response : BudgetedResponse} (exactly : response.Exact)
    : (boundedResponseJsonWith limit encoder origin response).Meets (coverage outside)
        (Bounded encoder origin response.response) response.retained.bytes := by
  unfold boundedResponseJsonWith
  split
  · rfl
  · split
    · simp only [Program.bind_eq, Program.meets_bind, meets_tryReserve]
      refine ⟨?_, fun _ => meets_encodeDowngraded exactly⟩
      exact (meets_encodeReserved (.inl rfl)).mono fun _ _ encoded => encoded
    · exact meets_encodeDowngraded exactly

/-- The encoder that a connection uses. -/
def responseEncoder : Encoder := fun response => .ok (responseJson response)

/-- `queue_ws_response` leaves nothing of a response but its covered text. -/
theorem meets_encodeForQueue {outside : Nat} {origin : Origin} {response : BudgetedResponse}
    (exactly : response.Exact)
    : (encodeForQueue origin response).Meets (coverage outside)
        (Encoded responseEncoder origin response.response 0) response.retained.bytes := by
  simp only [encodeForQueue, Program.bind_eq, Program.meets_bind]
  refine (meets_boundedResponseJsonWith exactly).mono ?_
  rintro held ⟨final, encoded⟩ ended
  simp only [BudgetedResponse.drop, meets_drop, Program.pure_eq, Program.meets_pure]
  cases encoded with
  | error error =>
      obtain rfl : held = final.retained.bytes := ended
      exact ⟨Nat.le_refl _, Nat.sub_self _⟩
  | ok encoded =>
      obtain ⟨rfl, covers⟩ := ended
      exact ⟨Nat.le_add_right _ _, by simp only; omega, covers⟩

-----------------------------------------------------------------------------------------
-- Responses for the POST
-----------------------------------------------------------------------------------------

/-- A prepared POST covers its form; a failed one leaves nothing. -/
def Prepared (held : Nat) : Except BoxError PreparedFormRequest → Prop
  | .error _ => held = 0
  | .ok prepared =>
      held = prepared.reservation.bytes
      ∧ prepared.form.capacity ≤ prepared.reservation.bytes

/-- A failure after the reservation gives it back. -/
theorem meets_failed {reservation : MemoryReservation} {error : BoxError} {outside : Nat}
    : (reservation.drop.bind fun _ => .pure (.error error)).Meets (coverage outside) Prepared
        reservation.bytes := by
  simp only [Program.meets_bind, meets_drop, Program.meets_pure]
  exact ⟨Nat.le_refl _, Nat.sub_self _⟩

theorem meets_prepareFormRequestWith {context : WorkerContext} {encoder : Encoder}
    {response : ResourceResponse} {outside : Nat}
    : (prepareFormRequestWith context encoder response).Meets (coverage outside)
        Prepared 0 := by
  unfold prepareFormRequestWith
  split
  · rfl
  · next encodedLength _ =>
      simp only [Program.bind_eq, Program.meets_bind, meets_tryReserve, Nat.zero_add]
      refine ⟨?_, fun _ => rfl⟩
      split
      · exact meets_failed
      · simp only [Program.meets_bind, meets_withCapacity]
        intro capacity
        have fits := capacity.property.1
        split
        · exact meets_failed
        · simp only [Program.meets_bind]
          refine meets_growBeyond ?_ fun error => meets_failed
          have covered : capacity.val ≤ encodedLength + (capacity.val - encodedLength) := by
            omega
          simp only
          split
          · exact meets_failed
          · exact meets_failed
          · exact ⟨rfl, covered⟩

/-- `post_response` releases its form however the POST ends. -/
theorem meets_postResponse {context : WorkerContext} {response : ResourceResponse}
    {outside : Nat}
    : (postResponse context response).Meets (coverage outside) (fun held _ => held = 0)
        0 := by
  simp only [postResponse, prepareFormRequest, Program.bind_eq, Program.meets_bind]
  refine meets_prepareFormRequestWith.mono ?_
  rintro held (error | prepared) ended
  · exact ended
  · obtain ⟨rfl, covered⟩ := ended
    simp only [Program.meets_bind, meets_post, meets_drop, Program.pure_eq,
      Program.meets_pure]
    exact ⟨⟨covered, Nat.le_refl _⟩, fun _ => ⟨Nat.le_refl _, Nat.sub_self _⟩⟩

end ProxyClient
