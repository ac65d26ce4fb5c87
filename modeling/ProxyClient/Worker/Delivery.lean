import ProxyClient.Memory.Reservation

/-! The two ways a response leaves the client, as `worker.rs` prepares them: JSON for the
WebSocket, checked against the message limit, and a form for the wire-v3 POST.
-/

namespace ProxyClient

open Foundations Memory

/-- What a worker knows about its process: the wire version, the configured resources, and
the parts of a POST that do not depend on the response.
-/
structure WorkerContext where
  protocol : Nat
  resources : String → Option String
  workerName : String
  /-- `target.response_url`. -/
  responseUrl : String → Except BoxError String
  /-- The two Cloudflare header values, when they are enabled and well formed. -/
  cfHeaders : Except BoxError Unit

/-- Why a response exists: the scrape the worker was selected for, or a busy rejection. -/
inductive Origin
  | scrape
  | busy
deriving DecidableEq, Repr

/-- A response serialised for the writer. `origin` and `source` are proof-only: the request
and the response the text was made from.
-/
structure EncodedResponse where
  json : RustString
  reservation : MemoryReservation
  origin : Origin
  source : ResourceResponse

/-- An encoder of a response, or its error. -/
abbrev Encoder : Type := ResourceResponse → Except BoxError String

/-- The second half of `bounded_response_json`, once a length is reserved: serialise, compare
with the precheck, and cover the buffer's slack. Every error drops the reservation.
-/
def encodeReserved (encoder : Encoder) (origin : Origin) (response : BudgetedResponse)
    (encodedLength : Nat) (reservation : MemoryReservation)
    : Proc (Except BoxError EncodedResponse) := do
  match encoder response.response with
  | .error error =>
      reservation.drop
      return .error error
  | .ok json =>
      let capacity ← perform (.withCapacity json.utf8ByteSize)
      if json.utf8ByteSize ≠ encodedLength then
        reservation.drop
        return .error (.text "websocket response length precheck disagreed with serializer")
      else
        match ← reservation.growBeyond capacity.val encodedLength with
        | .error error =>
            reservation.drop
            return .error (.memoryBudget error)
        | .ok reservation =>
            return .ok {
              json := ⟨json, capacity.val, capacity.property.1, capacity.property.2⟩
              reservation, origin
              source := response.response
            }

/-- The fallback of `bounded_response_json` when the original cannot be sent: an empty error
response with the same uid.
-/
def encodeDowngraded (limit : Nat) (encoder : Encoder) (origin : Origin)
    (response : BudgetedResponse)
    : Proc (BudgetedResponse × Except BoxError EncodedResponse) := do
  let response ← response.downgradeToError
  match responseJsonEncodedLen response.response with
  | none => return (response, .error (.text "websocket fallback length calculation overflowed"))
  | some fallbackLength =>
      if fallbackLength > limit then
        return (response, .error (.text "websocket response metadata exceeds the message limit"))
      else
        match ← tryReserve fallbackLength with
        | .error error => return (response, .error (.memoryBudget error))
        | .ok reservation =>
            return (response, ← encodeReserved encoder origin response fallbackLength reservation)

/-- `bounded_response_json_with_limit_and_encoder`. The response comes back as the last state
of its `&mut`.
-/
def boundedResponseJsonWith (limit : Nat) (encoder : Encoder) (origin : Origin)
    (response : BudgetedResponse)
    : Proc (BudgetedResponse × Except BoxError EncodedResponse) := do
  match responseJsonEncodedLen response.response with
  | none => return (response, .error (.text "websocket response length calculation overflowed"))
  | some originalLength =>
      if originalLength ≤ limit then
        match ← tryReserve originalLength with
        | .ok reservation =>
            return (response, ← encodeReserved encoder origin response originalLength reservation)
        | .error _ => encodeDowngraded limit encoder origin response
      else encodeDowngraded limit encoder origin response

/-- `bounded_response_json`. -/
def boundedResponseJson (origin : Origin) (response : BudgetedResponse)
    : Proc (BudgetedResponse × Except BoxError EncodedResponse) :=
  boundedResponseJsonWith maxWsMessageSize (fun response => .ok (responseJson response)) origin
    response

/-- `queue_ws_response` up to its send: the response is dropped once it is serialised, and
also when it cannot be.
-/
def encodeForQueue (origin : Origin) (response : BudgetedResponse)
    : Proc (Except BoxError EncodedResponse) := do
  let (response, encoded) ← boundedResponseJson origin response
  response.drop
  return encoded

/-- `prepare_form_request_with_encoder`. -/
def prepareFormRequestWith (context : WorkerContext) (encoder : Encoder)
    (response : ResourceResponse)
    : Proc (Except BoxError PreparedFormRequest) := do
  match responseFormEncodedLen response with
  | none => return .error (.text "form response length calculation overflowed")
  | some encodedLength =>
      match ← tryReserve encodedLength with
      | .error error => return .error (.memoryBudget error)
      | .ok reservation =>
          match encoder response with
          | .error error =>
              reservation.drop
              return .error error
          | .ok form =>
              let capacity ← perform (.withCapacity form.utf8ByteSize)
              if form.utf8ByteSize ≠ encodedLength then
                reservation.drop
                return .error (.text "form response length precheck disagreed with serializer")
              else
                match ← reservation.growBeyond capacity.val encodedLength with
                | .error error =>
                    reservation.drop
                    return .error (.memoryBudget error)
                | .ok reservation =>
                    match context.responseUrl response.uid.text, context.cfHeaders with
                    | .error error, _ | _, .error error =>
                        reservation.drop
                        return .error error
                    | .ok url, .ok () =>
                        return .ok {
                          url
                          form := ⟨form, capacity.val, capacity.property.1, capacity.property.2⟩
                          reservation
                        }

/-- `prepare_form_request`. -/
def prepareFormRequest (context : WorkerContext) (response : ResourceResponse)
    : Proc (Except BoxError PreparedFormRequest) :=
  prepareFormRequestWith context (fun response => .ok (encodeForm response)) response

/-- `Response::error_for_status`: client and server errors are errors that are no timeouts. -/
def errorForStatus (status : UInt16) : Except BoxError Unit :=
  if 400 ≤ status ∧ status < 600 then .error (.request false) else .ok ()

/-- `post_response`. The form's reservation is dropped when the POST has ended. -/
def postResponse (context : WorkerContext) (response : ResourceResponse)
    : Proc (Except BoxError Unit) := do
  match ← prepareFormRequest context response with
  | .error error => return .error error
  | .ok prepared =>
      let answer ← perform (.post prepared)
      prepared.reservation.drop
      return answer.bind errorForStatus

end ProxyClient
