import ProxyClient.Encoding.Bounded
import ProxyClient.Encoding.Form
import ProxyClient.Worker.Scrape

/-! A response that has the default budget for itself: whether its own status and body arrive. The
budget is four times the body limit, and the worst case of a form is a little more.
-/

namespace ProxyClient

open Foundations Memory

def defaultMemoryBudgetSize : Nat := 4 * maxBodySize

/-- A process with one response: the budget, and the forms that the server has accepted. -/
structure Alone where
  budget : MemoryBudgetInner
  received : List String

namespace Alone

/-- The process once the response has been reserved. -/
def start (response : BudgetedResponse) : Alone where
  budget := {
    limit := defaultMemoryBudgetSize
    used := response.retained.bytes
    highWatermark := response.retained.bytes
  }
  received := []

/-- Nobody else uses the budget, buffers are allocated exactly, and the server accepts a POST. -/
def handle (alone : Alone) : (op : Op) → Option (op.Answer × Alone)
  | .tryAcquire bytes =>
      match alone.budget.fetchUpdate bytes with
      | .ok (budget, previous) =>
          some (.ok (), { alone with budget := budget.fetchMax (wrappingAdd previous bytes) })
      | .error error => some (.error error, alone)
  | .release bytes => some ((), { alone with budget := alone.budget.fetchSub bytes })
  | .withCapacity least =>
      if fits : least ≤ isizeMax then some (⟨least, Nat.le_refl _, fits⟩, alone) else none
  | .post prepared =>
      some (.ok 200, { alone with received := alone.received ++ [prepared.form.text] })
  | .tryReserveExact _ | .get _ | .nextChunk _ | .fault _ => none

end Alone

/-- How wire v3 delivers a response: `post_response`, what `deliver_by_post` makes of its result,
and the encoding of `queue_ws_response` for what is left.
-/
def deliver (context : WorkerContext) (response : BudgetedResponse)
    : Proc (Option EncodedResponse) := do
  let result ← postResponse context response.response
  match (deliverByPost response result).1 with
  | none => return none
  | some kept =>
      match ← encodeForQueue .scrape kept with
      | .ok encoded => return some encoded
      | .error _ => return none

/-- The response arrives as it is: its form has been accepted, or its own JSON text is queued. -/
def DeliversOwn (context : WorkerContext) (response : BudgetedResponse) : Prop :=
  ∃ queued after,
    (deliver context response).run Alone.handle (.start response) = some (queued, after)
    ∧ (after.received = [encodeForm response.response]
      ∨ ∃ encoded, queued = some encoded ∧ encoded.json.text = responseJson response.response)

/-- A response as `call_resource` admits it, with buffers of the exact length. -/
structure Admitted (response : BudgetedResponse) : Prop where
  uid : response.response.uid.len ≤ maxUidSize
  body : response.response.body.len ≤ maxBodySize
  uidExact : response.response.uid.capacity = response.response.uid.len
  bodyExact : response.response.body.capacity = response.response.body.len
  retained : response.Exact

-----------------------------------------------------------------------------------------
-- Running alone
-----------------------------------------------------------------------------------------

/-- The budget has its limit and this counter, and the server these forms. -/
structure Alone.Is (alone : Alone) (used : Nat) (received : List String) : Prop where
  limit : alone.budget.limit = defaultMemoryBudgetSize
  used : alone.budget.used = used
  received : alone.received = received

namespace Alone

variable {alone : Alone} {used bytes : Nat} {received : List String}

/-- A counter below the limit is a `usize`. -/
theorem limit_le_usizeMax : defaultMemoryBudgetSize ≤ usizeMax := by decide

theorem limit_le_isizeMax : defaultMemoryBudgetSize ≤ isizeMax := by decide

/-- The process after a granted acquisition. -/
def acquire (alone : Alone) (bytes : Nat) : Alone :=
  { alone with
    budget :=
      MemoryBudgetInner.fetchMax { alone.budget with used := alone.budget.used + bytes }
        (wrappingAdd alone.budget.used bytes) }

/-- The process after an accepted form. -/
def accept (alone : Alone) (form : String) : Alone :=
  { alone with received := alone.received ++ [form] }

/-- The process after a release. -/
def release (alone : Alone) (bytes : Nat) : Alone :=
  { alone with budget := alone.budget.fetchSub bytes }

theorem Is.acquire (is : alone.Is used received) (bytes : Nat)
    : (alone.acquire bytes).Is (used + bytes) received where
  limit := is.limit
  used := congrArg (· + bytes) is.used
  received := is.received

theorem Is.release (is : alone.Is used received) (covered : bytes ≤ used)
    : (alone.release bytes).Is (used - bytes) received where
  limit := is.limit
  used := by
    have covered' : bytes ≤ alone.budget.used := is.used.symm ▸ covered
    rw [Alone.release, MemoryBudgetInner.fetchSub_used covered', is.used]
  received := is.received

/-- An acquisition within the limit is granted. -/
theorem run_tryReserve (is : alone.Is used received)
    (fits : used + bytes ≤ defaultMemoryBudgetSize)
    : (tryReserve bytes).run handle alone = some (.ok ⟨bytes⟩, alone.acquire bytes) := by
  have within : alone.budget.used + bytes ≤ usizeMax := by
    rw [is.used]
    exact Nat.le_trans fits limit_le_usizeMax
  have below : alone.budget.used + bytes ≤ alone.budget.limit := by
    rw [is.used, is.limit]
    exact fits
  have updated : alone.budget.fetchUpdate bytes
      = .ok ({ alone.budget with used := alone.budget.used + bytes }, alone.budget.used) := by
    simp [MemoryBudgetInner.fetchUpdate, checkedAdd, within, below, Option.filter]
  have handled : handle alone (.tryAcquire bytes) = some (.ok (), alone.acquire bytes) := by
    simp only [handle, updated]
    rfl
  exact Program.run_bind_of (Program.run_call.trans handled)

/-- One beyond it is refused. -/
theorem run_tryReserve_refused (is : alone.Is used received)
    (exceeds : defaultMemoryBudgetSize < used + bytes)
    : ∃ error, (tryReserve bytes).run handle alone = some (.error error, alone) := by
  have beyond : ¬ alone.budget.used + bytes ≤ alone.budget.limit := by
    rw [is.used, is.limit]
    exact Nat.not_le.mpr exceeds
  have refused : ∃ error, alone.budget.fetchUpdate bytes = .error error := by
    unfold MemoryBudgetInner.fetchUpdate
    split
    · next next found =>
        obtain ⟨added, below⟩ := Option.filter_eq_some_iff.mp found
        unfold checkedAdd at added
        split at added
        · obtain rfl := Option.some.inj added
          exact absurd (of_decide_eq_true below) beyond
        · cases added
    · exact ⟨_, rfl⟩
  obtain ⟨error, updated⟩ := refused
  have handled : handle alone (.tryAcquire bytes) = some (.error error, alone) := by
    simp only [handle, updated]
  exact ⟨error, Program.run_bind_of (Program.run_call.trans handled)⟩

/-- A release is a release. -/
theorem run_release
    : (perform (.release bytes)).run handle alone = some ((), alone.release bytes) :=
  Program.run_call

/-- A buffer gets what it asks for. -/
theorem run_withCapacity (fits : bytes ≤ isizeMax)
    : (perform (.withCapacity bytes)).run handle alone
      = some (⟨bytes, Nat.le_refl _, fits⟩, alone) := by
  refine Program.run_call.trans ?_
  simp only [handle, dif_pos fits]

/-- So there is no slack to cover. -/
theorem run_growBeyond {reservation : MemoryReservation}
    : (reservation.growBeyond bytes bytes).run handle alone = some (.ok reservation, alone) := by
  rw [MemoryReservation.growBeyond, if_neg (Nat.lt_irrefl _)]
  rfl

/-- With room for its form, a POST is prepared. -/
theorem run_prepareFormRequest {context : WorkerContext} {response : ResourceResponse}
    {url : String} (is : alone.Is used received)
    (computed : responseFormEncodedLen response = some (encodeForm response).utf8ByteSize)
    (fits : used + (encodeForm response).utf8ByteSize ≤ defaultMemoryBudgetSize)
    (locates : context.responseUrl response.uid.text = .ok url)
    (headers : context.cfHeaders = .ok ())
    : ∃ prepared,
        (prepareFormRequest context response).run handle alone
          = some (.ok prepared, alone.acquire (encodeForm response).utf8ByteSize)
        ∧ prepared.form.text = encodeForm response := by
  have small : (encodeForm response).utf8ByteSize ≤ isizeMax := by
    have limit := limit_le_isizeMax
    omega
  let prepared : PreparedFormRequest := {
    url
    form := ⟨encodeForm response, _, Nat.le_refl _, small⟩
    reservation := ⟨(encodeForm response).utf8ByteSize⟩
  }
  refine ⟨prepared, ?_, rfl⟩
  simp only [prepareFormRequest, prepareFormRequestWith, computed, Program.bind_eq]
  rw [Program.run_bind_of (run_tryReserve is fits)]
  dsimp only
  rw [Program.run_bind_of (run_withCapacity small)]
  simp only [ne_eq, not_true_eq_false, if_false]
  rw [Program.run_bind_of run_growBeyond]
  simp only [locates, headers]
  rfl

/-- With room for its form, a response is posted. -/
theorem run_postResponse {context : WorkerContext} {response : ResourceResponse} {length : Nat}
    {url : String} (is : alone.Is used received)
    (computed : responseFormEncodedLen response = some length)
    (fits : used + length ≤ defaultMemoryBudgetSize)
    (locates : context.responseUrl response.uid.text = .ok url)
    (headers : context.cfHeaders = .ok ())
    : ∃ after : Alone,
        (postResponse context response).run handle alone = some (.ok (), after)
        ∧ after.received = received ++ [encodeForm response] := by
  obtain ⟨rfl, -⟩ := formUrlencoded_documented.length_eq_some.mp computed
  rw [formUrlencoded_formOf] at computed fits
  obtain ⟨prepared, ran, form⟩ := run_prepareFormRequest is computed fits locates headers
  have posted : (perform (.post prepared)).run handle
        (alone.acquire (encodeForm response).utf8ByteSize)
      = some (.ok 200, (alone.acquire (encodeForm response).utf8ByteSize).accept
          (encodeForm response)) := by
    refine Program.run_call.trans ?_
    simp only [handle, form]
    rfl
  have ran' : (postResponse context response).run handle alone
      = some (.ok (), ((alone.acquire (encodeForm response).utf8ByteSize).accept
          (encodeForm response)).release prepared.reservation.bytes) := by
    simp only [postResponse, Program.bind_eq]
    rw [Program.run_bind_of ran]
    dsimp only
    rw [Program.run_bind_of posted, MemoryReservation.drop, Program.run_bind_of run_release]
    rfl
  exact ⟨_, ran', congrArg (· ++ [encodeForm response]) is.received⟩

/-- Without it, the POST fails before anything is sent. -/
theorem run_postResponse_refused (context : WorkerContext) {response : ResourceResponse}
    {length : Nat} (is : alone.Is used received)
    (computed : responseFormEncodedLen response = some length)
    (exceeds : defaultMemoryBudgetSize < used + length)
    : ∃ error,
        (postResponse context response).run handle alone
          = some (.error (.memoryBudget error), alone) := by
  obtain ⟨error, refused⟩ := run_tryReserve_refused is exceeds
  have prepared : (prepareFormRequest context response).run handle alone
      = some (.error (.memoryBudget error), alone) := by
    simp only [prepareFormRequest, prepareFormRequestWith, computed, Program.bind_eq]
    rw [Program.run_bind_of refused]
    rfl
  refine ⟨error, ?_⟩
  simp only [postResponse, Program.bind_eq]
  rw [Program.run_bind_of prepared]
  rfl

/-- A reserved response is encoded into a buffer of its length. -/
theorem run_encodeReserved (alone : Alone) (origin : Origin) {response : BudgetedResponse}
    {length : Nat} (computed : responseJsonEncodedLen response.response = some length)
    (small : length ≤ isizeMax)
    : ∃ encoded,
        (encodeReserved (fun response => .ok (responseJson response)) origin response length
          ⟨length⟩).run handle alone
          = some (.ok encoded, alone)
        ∧ encoded.json.text = responseJson response.response := by
  obtain rfl := jsonLength_eq computed
  let encoded : EncodedResponse := {
    json := ⟨responseJson response.response, _, Nat.le_refl _, small⟩
    reservation := ⟨(responseJson response.response).utf8ByteSize⟩
    origin
    source := response.response
  }
  refine ⟨encoded, ?_, rfl⟩
  simp only [encodeReserved, Program.bind_eq]
  rw [Program.run_bind_of (run_withCapacity small)]
  simp only [ne_eq, not_true_eq_false, if_false]
  rw [Program.run_bind_of run_growBeyond]
  rfl

/-- A response within the message limit is queued as it is, if there is room for its text. -/
theorem run_encodeForQueue (origin : Origin) {response : BudgetedResponse} {length : Nat}
    (is : alone.Is used received)
    (computed : responseJsonEncodedLen response.response = some length)
    (within : length ≤ maxWsMessageSize) (fits : used + length ≤ defaultMemoryBudgetSize)
    : ∃ encoded after,
        (encodeForQueue origin response).run handle alone = some (.ok encoded, after)
        ∧ encoded.json.text = responseJson response.response := by
  have small : length ≤ isizeMax := Nat.le_trans within (by decide)
  obtain ⟨encoded, encodes, text⟩ :=
    run_encodeReserved (alone.acquire length) origin computed small
  have bounded : (boundedResponseJson origin response).run handle alone
      = some ((response, .ok encoded), alone.acquire length) := by
    simp only [boundedResponseJson, boundedResponseJsonWith, computed, within, if_true,
      Program.bind_eq]
    rw [Program.run_bind_of (run_tryReserve is fits)]
    dsimp only
    rw [Program.run_bind_of encodes]
    rfl
  have ran : (encodeForQueue origin response).run handle alone
      = some (.ok encoded, (alone.acquire length).release response.retained.bytes) := by
    simp only [encodeForQueue, Program.bind_eq]
    rw [Program.run_bind_of bounded]
    dsimp only
    rw [BudgetedResponse.drop, MemoryReservation.drop, Program.run_bind_of run_release]
    rfl
  exact ⟨encoded, _, ran, text⟩

/-- One beyond the message limit is replaced by an empty error. -/
theorem run_encodeForQueue_downgraded (origin : Origin) {response : BudgetedResponse}
    {length fallback : Nat} (is : alone.Is response.retained.bytes received)
    (exactly : response.Exact)
    (computed : responseJsonEncodedLen response.response = some length)
    (beyond : maxWsMessageSize < length)
    (computed' : responseJsonEncodedLen response.response.downgraded = some fallback)
    (within : fallback ≤ maxWsMessageSize)
    (fits : response.response.uid.capacity + fallback ≤ defaultMemoryBudgetSize)
    : ∃ encoded after,
        (encodeForQueue origin response).run handle alone = some (.ok encoded, after)
        ∧ encoded.json.text = responseJson response.response.downgraded
        ∧ after.received = received := by
  have total : response.retained.bytes
      = response.response.uid.capacity + response.response.body.capacity := exactly
  have small : fallback ≤ isizeMax := Nat.le_trans within (by decide)
  let after := alone.release (response.retained.bytes - response.response.uid.capacity)
  let kept : BudgetedResponse :=
    { response := response.response.downgraded, retained := ⟨response.response.uid.capacity⟩ }
  have downgrades : response.downgradeToError.run handle alone = some (kept, after) := by
    simp only [BudgetedResponse.downgradeToError, MemoryReservation.shrinkTo, Program.bind_eq]
    rw [if_pos (by omega), Program.run_bind, Program.run_bind_of run_release]
    rfl
  have isKept : after.Is response.response.uid.capacity received := by
    have released := is.release (Nat.sub_le _ response.response.uid.capacity)
    rwa [Nat.sub_sub_self (by omega)] at released
  have computedKept : responseJsonEncodedLen kept.response = some fallback := computed'
  obtain ⟨encoded, encodes, text⟩ :=
    run_encodeReserved (after.acquire fallback) origin computedKept small
  have bounded : (boundedResponseJson origin response).run handle alone
      = some ((kept, .ok encoded), after.acquire fallback) := by
    have beyond' : ¬ length ≤ maxWsMessageSize := Nat.not_le.mpr beyond
    have within' : ¬ fallback > maxWsMessageSize := Nat.not_lt.mpr within
    simp only [boundedResponseJson, boundedResponseJsonWith, computed, beyond', if_false,
      encodeDowngraded, Program.bind_eq]
    rw [Program.run_bind_of downgrades]
    simp only [kept, computed', within', if_false]
    rw [Program.run_bind_of (run_tryReserve isKept fits)]
    dsimp only
    rw [Program.run_bind_of encodes]
    rfl
  have ran : (encodeForQueue origin response).run handle alone
      = some (.ok encoded, (after.acquire fallback).release kept.retained.bytes) := by
    simp only [encodeForQueue, Program.bind_eq]
    rw [Program.run_bind_of bounded]
    dsimp only
    rw [BudgetedResponse.drop, MemoryReservation.drop, Program.run_bind_of run_release]
    rfl
  exact ⟨encoded, _, ran, text, (isKept.acquire fallback).received⟩

end Alone

-----------------------------------------------------------------------------------------
-- Which responses arrive
-----------------------------------------------------------------------------------------

/-- The escapes leave room: either the response and its form are within four body limits, or its
JSON text is within one.
-/
def LeavesRoom (response : ResourceResponse) : Prop :=
  response.uid.len + response.body.len
      + (formFields + decimalDigits response.status + formBytes response.body.text)
    ≤ 4 * maxBodySize
  ∨ 48 + decimalDigits response.status + jsonBytes response.uid.text
      + jsonBytes response.body.text
    ≤ maxBodySize

namespace Admitted

variable {response : BudgetedResponse} (admitted : Admitted response)
include admitted

/-- An admitted response retains its own bytes. -/
theorem retains
    : response.retained.bytes = response.response.uid.len + response.response.body.len := by
  have retained : response.retained.bytes
      = response.response.uid.capacity + response.response.body.capacity := admitted.retained
  rw [retained, admitted.uidExact, admitted.bodyExact]

end Admitted

/-- When the POST has failed for want of memory, the response is left for the queue. -/
theorem run_deliver_refused {context : WorkerContext} {response : BudgetedResponse}
    {alone after : Alone} {error : MemoryBudgetError} {encoded : EncodedResponse}
    (posted
      : (postResponse context response.response).run Alone.handle alone
        = some (.error (.memoryBudget error), alone))
    (queued : (encodeForQueue .scrape response).run Alone.handle alone = some (.ok encoded, after))
    : (deliver context response).run Alone.handle alone = some (some encoded, after) := by
  simp only [deliver, Program.bind_eq]
  rw [Program.run_bind_of posted]
  have kept
      : (deliverByPost response (.error (.memoryBudget error))).1 = some response := rfl
  simp only [kept]
  rw [Program.run_bind_of queued]
  rfl

section

variable {context : WorkerContext} {response : BudgetedResponse}

/-- When neither the form nor the text fits, what is queued is shorter than the text. -/
theorem leavesRoom_of_deliversOwn (admitted : Admitted response)
    (own : DeliversOwn context response)
    : LeavesRoom response.response := by
  apply Classical.byContradiction
  intro narrow
  unfold LeavesRoom at narrow
  rw [not_or, Nat.not_le, Nat.not_le] at narrow
  have limits : maxUidSize = 128 ∧ maxWsMessageSize = maxBodySize ∧ maxBodySize = 67108864 :=
    ⟨rfl, rfl, rfl⟩
  have exceeds : defaultMemoryBudgetSize
      < response.retained.bytes + (encodeForm response.response).utf8ByteSize := by
    rw [admitted.retains, encodeForm_size]
    exact narrow.1
  have beyond : maxWsMessageSize < (responseJson response.response).utf8ByteSize := by
    rw [responseJson_size]
    exact narrow.2
  have form := formLength_of_admitted admitted.body
  have json := jsonLength_of_admitted admitted.uid admitted.body
  have computed' : responseJsonEncodedLen response.response.downgraded
      = some (responseJson response.response.downgraded).utf8ByteSize :=
    jsonLength_of_admitted admitted.uid (Nat.zero_le _)
  have small := downgraded_small admitted.uid
  have fallback : response.response.uid.capacity
      + (responseJson response.response.downgraded).utf8ByteSize ≤ defaultMemoryBudgetSize := by
    have uid := admitted.uid
    have budget : defaultMemoryBudgetSize = 4 * maxBodySize := rfl
    rw [admitted.uidExact]
    omega
  have start : (Alone.start response).Is response.retained.bytes [] := ⟨rfl, rfl, rfl⟩
  obtain ⟨error, posted⟩ := Alone.run_postResponse_refused context start form exceeds
  obtain ⟨encoded, after, queued, text, received⟩ :=
    Alone.run_encodeForQueue_downgraded .scrape start admitted.retained json beyond computed'
      (by omega) fallback
  obtain ⟨queued', after', ran, arrives⟩ := own
  rw [run_deliver_refused posted queued] at ran
  cases ran
  rcases arrives with posted | ⟨encoded', same, own⟩
  · rw [received] at posted
    cases posted
  · obtain rfl := Option.some.inj same
    rw [text] at own
    rw [own] at small
    omega

/-- When the form fits it is accepted, and otherwise the text is queued as it is. -/
theorem deliversOwn_of_leavesRoom {url : String} (admitted : Admitted response)
    (locates : context.responseUrl response.response.uid.text = .ok url)
    (headers : context.cfHeaders = .ok ()) (room : LeavesRoom response.response)
    : DeliversOwn context response := by
  have start : (Alone.start response).Is response.retained.bytes [] := ⟨rfl, rfl, rfl⟩
  rcases Nat.lt_or_ge defaultMemoryBudgetSize
      (response.retained.bytes + (encodeForm response.response).utf8ByteSize) with exceeds | fits
  · have within : (responseJson response.response).utf8ByteSize ≤ maxWsMessageSize := by
      rw [responseJson_size]
      rw [admitted.retains, encodeForm_size] at exceeds
      rcases room with form | json
      · exact absurd form (Nat.not_le.mpr exceeds)
      · exact json
    have beside : response.retained.bytes + (responseJson response.response).utf8ByteSize
        ≤ defaultMemoryBudgetSize := by
      have uid := admitted.uid
      have body := admitted.body
      have limits : maxUidSize = 128 ∧ maxWsMessageSize = maxBodySize ∧ maxBodySize = 67108864
          ∧ defaultMemoryBudgetSize = 4 * maxBodySize :=
        ⟨rfl, rfl, rfl, rfl⟩
      rw [admitted.retains]
      omega
    have form := formLength_of_admitted admitted.body
    have json := jsonLength_of_admitted admitted.uid admitted.body
    obtain ⟨error, posted⟩ := Alone.run_postResponse_refused context start form exceeds
    obtain ⟨encoded, after, queued, text⟩ :=
      Alone.run_encodeForQueue .scrape start json within beside
    exact ⟨_, after, run_deliver_refused posted queued, .inr ⟨encoded, rfl, text⟩⟩
  · obtain ⟨after, posted, received⟩ :=
      Alone.run_postResponse start (formLength_of_admitted admitted.body) fits locates headers
    have ran : (deliver context response).run Alone.handle (.start response)
        = some (none, after) := by
      simp only [deliver, Program.bind_eq]
      rw [Program.run_bind_of posted]
      rfl
    exact ⟨_, after, ran, .inl received⟩

/-- A response that has the default budget for itself arrives as it is exactly when its escapes
leave room.
-/
theorem deliversOwn_iff {url : String} (admitted : Admitted response)
    (locates : context.responseUrl response.response.uid.text = .ok url)
    (headers : context.cfHeaders = .ok ())
    : DeliversOwn context response ↔ LeavesRoom response.response := by
  constructor
  · intro own
    exact leavesRoom_of_deliversOwn admitted own
  · intro room
    exact deliversOwn_of_leavesRoom admitted locates headers room

end

/-- A worker with a fixed response URL and without Cloudflare headers. -/
def fixedContext : WorkerContext where
  protocol := 3
  resources := fun _ => none
  workerName := "worker"
  responseUrl := fun _ => .ok "https://example.test/response/"
  cfHeaders := .ok ()

-- Bodies of control characters, at the boundary and beyond it.

section

variable {length : Nat} {addressable : length ≤ isizeMax}

/-- Every control character of such a body takes what one takes. -/
theorem sum_controls {cost : UInt8 → Nat}
    : ((bytesOf (controlBody length addressable).text).map cost).sum = length * cost 1 := by
  have byte : String.utf8EncodeChar '\x01' = [1] := by decide
  have bytes : bytesOf (controlBody length addressable).text = List.replicate length 1 := by
    rw [bytesOf, toByteArray_eq_flatMap, controlBody, String.toList_ofList, List.flatMap_replicate,
      byte, List.flatten_replicate_singleton]
  rw [bytes, List.map_replicate, List.sum_replicate_nat]

theorem controlBody_len : (controlBody length addressable).len = length := by
  rw [RustString.len, controlBody, utf8ByteSize_ascii (by simp), List.length_replicate]

theorem controlResponse_admitted (within : length ≤ maxBodySize)
    : Admitted (controlResponse length addressable) where
  uid := by
    change 0 ≤ maxUidSize
    exact Nat.zero_le _
  body := Nat.le_trans (Nat.le_of_eq controlBody_len) within
  uidExact := rfl
  bodyExact := controlBody_len.symm
  retained := controlResponse_exact length addressable

/-- Each character takes three bytes in the form and six in the JSON text. -/
theorem leavesRoom_controls
    : LeavesRoom (controlResponse length addressable).response ↔ length + 4 ≤ maxBodySize := by
  have uid : (controlResponse length addressable).response.uid.len = 0 := rfl
  have body : (controlResponse length addressable).response.body.len = length := controlBody_len
  have form : formBytes (controlResponse length addressable).response.body.text = length * 3 :=
    sum_controls
  have json : jsonBytes (controlResponse length addressable).response.body.text = length * 6 :=
    sum_controls
  have fields : formFields = 13 := rfl
  have digits : decimalDigits (controlResponse length addressable).response.status = 3 := rfl
  have limit : maxBodySize = 67108864 := rfl
  unfold LeavesRoom
  omega

end

/-- The longest body of control characters that arrives, and the next one, which does not. -/
theorem deliversOwn_iff_controls
    : DeliversOwn fixedContext (controlResponse 67108860 (by decide))
      ∧ ¬ DeliversOwn fixedContext (controlResponse 67108861 (by decide)) := by
  constructor
  · refine (deliversOwn_iff (controlResponse_admitted (by decide)) rfl rfl).mpr ?_
    exact leavesRoom_controls.mpr (by decide)
  · intro own
    have room :=
      (deliversOwn_iff (controlResponse_admitted (by decide)) rfl rfl).mp own
    exact absurd (leavesRoom_controls.mp room) (by decide)

/-- A body of the maximal length, all control characters. -/
def maximalControls : BudgetedResponse := controlResponse maxBodySize (by decide)

/-- An admitted response that does not arrive, although it has the default budget for itself. -/
theorem not_deliversOwn_controls
    : Admitted maximalControls ∧ ¬ DeliversOwn fixedContext maximalControls := by
  have admitted : Admitted maximalControls := controlResponse_admitted (Nat.le_refl _)
  refine ⟨admitted, ?_⟩
  intro own
  have room := leavesRoom_controls.mp (leavesRoom_of_deliversOwn admitted own)
  exact absurd room (by decide)

end ProxyClient
