import ProxyClient.Resource
import ProxyClient.Worker.Queueing

/-! Which operations reach the network, and what with.
`call_resource` asks for the URL that its resource is configured with and for no other, and
`post_response` posts the form of its response and nothing else. Everything else is local.
-/

namespace ProxyClient

open Foundations Memory

/-- The operations that leave the process. -/
def Op.network : Op → Bool
  | .get _ | .post _ => true
  | .tryAcquire _ | .release _ | .withCapacity _ | .tryReserveExact _ | .nextChunk _
  | .fault _ => false

/-- An operation inside the process. -/
abbrev Op.Local (op : Op) : Prop := op.network = false

/-- The contract that restricts the operations alone. -/
def restricted (allowed : Op → Prop) : Contract Op Op.Answer Nat where
  allowed _ op := allowed op
  after := Op.held

/-- The program performs only allowed operations. -/
def Performs {α : Type} (allowed : Op → Prop) (program : Proc α) : Prop :=
  ∀ held, program.Meets (restricted allowed) (fun _ _ => True) held

-----------------------------------------------------------------------------------------
-- Programs without network operations
-----------------------------------------------------------------------------------------

section Local

variable {α β : Type} {allowed : Op → Prop} {held : Nat}

theorem performs_pure {value : α} : Performs allowed (.pure value) := fun _ => trivial

theorem performs_perform {op : Op} (fits : allowed op) : Performs allowed (perform op) :=
  fun _ => ⟨fits, fun _ => trivial⟩

theorem Performs.bind {program : Proc α} {f : α → Proc β} (first : Performs allowed program)
    (rest : ∀ value, Performs allowed (f value))
    : Performs allowed (program.bind f) :=
  fun held => (first held).bind fun held value _ => rest value held

variable (locally : ∀ op : Op, op.Local → allowed op)
include locally

theorem performs_fault {message : String} : Performs allowed (fault (α := α) message) :=
  fun _ => ⟨locally _ rfl, fun answer => answer.elim⟩

theorem performs_tryReserve {bytes : Nat} : Performs allowed (tryReserve bytes) := by
  refine (performs_perform (locally _ rfl)).bind fun answer => ?_
  cases answer <;> exact performs_pure

namespace MemoryReservation

variable {reservation : MemoryReservation}

theorem performs_tryGrow {additional : Nat}
    : Performs allowed (reservation.tryGrow additional) := by
  refine (performs_perform (locally _ rfl)).bind fun answer => ?_
  cases answer <;> exact performs_pure

theorem performs_growBeyond {actual covered : Nat}
    : Performs allowed (reservation.growBeyond actual covered) := by
  unfold growBeyond
  split
  · exact performs_tryGrow locally
  · exact performs_pure

theorem performs_shrinkTo {bytes : Nat} : Performs allowed (reservation.shrinkTo bytes) := by
  unfold shrinkTo
  split
  · exact (performs_perform (locally _ rfl)).bind fun _ => performs_pure
  · exact performs_fault locally

theorem performs_drop : Performs allowed reservation.drop := performs_perform (locally _ rfl)

end MemoryReservation

namespace BudgetedResponse

open MemoryReservation

theorem performs_tryNew {uid body : RustString} {status : UInt16}
    : Performs allowed (tryNew uid status body) := by
  unfold tryNew
  split
  · exact performs_pure
  · refine (performs_tryReserve locally).bind fun reserved => ?_
    cases reserved <;> exact performs_pure

theorem performs_fromReserved {uid body : RustString} {status : UInt16}
    {retained : MemoryReservation}
    : Performs allowed (fromReserved uid status body retained) := by
  unfold fromReserved
  split
  · exact performs_fault locally
  · split
    · exact (performs_shrinkTo locally).bind fun _ => performs_pure
    · exact performs_fault locally

theorem performs_downgradeToError {response : BudgetedResponse}
    : Performs allowed response.downgradeToError :=
  (performs_shrinkTo locally).bind fun _ => performs_pure

end BudgetedResponse

open MemoryReservation BudgetedResponse

/-- The loop of `fetch_resource` is local, by induction over the chunks. -/
theorem performs_readChunks {buffer : BodyBuffer} {retained : MemoryReservation}
    {chunks : List (Except BoxError (List UInt8))}
    : Performs allowed (readChunks buffer retained chunks) := by
  induction chunks generalizing buffer retained with
  | nil => exact (performs_perform (locally _ rfl)).bind fun _ => performs_pure
  | cons chunk chunks ih =>
      cases chunk with
      | error error => exact (performs_perform (locally _ rfl)).bind fun _ => performs_pure
      | ok chunk =>
          refine (performs_perform (locally _ rfl)).bind fun _ => ?_
          dsimp only
          split
          · split
            · exact ih
            · refine (performs_tryGrow locally).bind fun grown => ?_
              cases grown with
              | error => exact performs_pure
              | ok retained =>
                  refine (performs_perform (locally _ rfl)).bind fun reserved => ?_
                  cases reserved with
                  | error => exact performs_pure
                  | ok capacity =>
                      refine (performs_growBeyond locally).bind fun covered => ?_
                      cases covered with
                      | error => exact performs_pure
                      | ok retained => exact ih
          · exact performs_pure

theorem performs_encodeReserved {encoder : Encoder} {origin : Origin}
    {response : BudgetedResponse} {length : Nat} {reservation : MemoryReservation}
    : Performs allowed (encodeReserved encoder origin response length reservation) := by
  have failed {reservation : MemoryReservation} {error : BoxError}
      : Performs (α := Except BoxError EncodedResponse) allowed
          (reservation.drop.bind fun _ => .pure (.error error)) :=
    (performs_drop locally).bind fun _ => performs_pure
  unfold encodeReserved
  split
  · exact failed
  · refine (performs_perform (locally _ rfl)).bind fun capacity => ?_
    split
    · exact failed
    · refine (performs_growBeyond locally).bind fun grown => ?_
      cases grown with
      | error => exact failed
      | ok reservation => exact performs_pure

theorem performs_encodeDowngraded {limit : Nat} {encoder : Encoder} {origin : Origin}
    {response : BudgetedResponse}
    : Performs allowed (encodeDowngraded limit encoder origin response) := by
  refine (performs_downgradeToError locally).bind fun response => ?_
  split
  · exact performs_pure
  · split
    · exact performs_pure
    · refine (performs_tryReserve locally).bind fun reserved => ?_
      cases reserved with
      | error => exact performs_pure
      | ok reservation =>
          exact (performs_encodeReserved locally).bind fun _ => performs_pure

/-- `queue_ws_response` encodes without the network. -/
theorem performs_encodeForQueue {origin : Origin} {response : BudgetedResponse}
    : Performs allowed (encodeForQueue origin response) := by
  have bounded : Performs allowed (boundedResponseJson origin response) := by
    unfold boundedResponseJson boundedResponseJsonWith
    split
    · exact performs_pure
    · split
      · refine (performs_tryReserve locally).bind fun reserved => ?_
        cases reserved with
        | error => exact performs_encodeDowngraded locally
        | ok reservation =>
            exact (performs_encodeReserved locally).bind fun _ => performs_pure
      · exact performs_encodeDowngraded locally
  refine bounded.bind fun result => ?_
  exact (performs_drop locally).bind fun _ => performs_pure

/-- `call_resource` asks for the configured URL of its resource and for no other. -/
theorem performs_callResource {resources : String → Option String} {uid : RustString}
    {resource : String} (configured : ∀ url, resources resource = some url → allowed (.get url))
    : Performs allowed (callResource resources uid resource) := by
  have fetches {url : String} {retained : MemoryReservation}
      (known : resources resource = some url)
      : Performs allowed (fetchResource url retained) := by
    refine (performs_perform (configured url known)).bind fun answer => ?_
    cases answer with
    | error => exact performs_pure
    | ok response =>
        dsimp only
        split
        · exact performs_pure
        · refine (performs_tryGrow locally).bind fun grown => ?_
          cases grown with
          | error => exact performs_pure
          | ok retained =>
              refine (performs_perform (locally _ rfl)).bind fun capacity => ?_
              refine (performs_growBeyond locally).bind fun covered => ?_
              cases covered with
              | error => exact performs_pure
              | ok retained =>
                  refine (performs_readChunks locally).bind fun read => ?_
                  obtain ⟨body, retained⟩ := read
                  dsimp only
                  split <;> exact performs_pure
  have builds {status : UInt16} {body : RustString} {retained : MemoryReservation}
      : Performs allowed
          ((fromReserved uid status body retained).bind fun response => .pure (some response)) :=
    (performs_fromReserved locally).bind fun _ => performs_pure
  refine (performs_tryReserve locally).bind fun reserved => ?_
  cases reserved with
  | error => exact performs_pure
  | ok retained =>
      dsimp only
      split
      · refine (performs_tryGrow locally).bind fun grown => ?_
        cases grown <;> exact builds
      · next url known =>
          refine (fetches known).bind fun fetched => ?_
          obtain ⟨fetched, retained⟩ := fetched
          cases fetched with
          | error error => exact (performs_shrinkTo locally).bind fun _ => builds
          | ok fetched => exact builds

end Local

-----------------------------------------------------------------------------------------
-- What a POST hands to the HTTP client
-----------------------------------------------------------------------------------------

/-- A prepared request posts the form of a response to the URL for its uid. -/
structure PreparedFormRequest.IsFormOf (prepared : PreparedFormRequest) (context : WorkerContext)
    (response : ResourceResponse)
    : Prop where
  url : context.responseUrl response.uid.text = .ok prepared.url
  form : prepared.form.text = encodeForm response

/-- The network operations that deliver a response. -/
def DeliversOnly (context : WorkerContext) (response : ResourceResponse) (op : Op) : Prop :=
  op.network = true → ∃ prepared, op = .post prepared ∧ prepared.IsFormOf context response

section Form

variable {context : WorkerContext} {response : ResourceResponse} {held : Nat}

theorem delivers_local (op : Op) (here : op.Local) : DeliversOnly context response op :=
  fun network => Bool.noConfusion (here.symm.trans network)

/-- What is prepared, if anything, is the form of the response. -/
def PreparesFormOf (context : WorkerContext) (response : ResourceResponse)
    (result : Except BoxError PreparedFormRequest)
    : Prop :=
  ∀ prepared, result = .ok prepared → prepared.IsFormOf context response

/-- Whatever `prepare_form_request` does before, what it prepares is the form of its response. -/
theorem prepares_prepareFormRequest
    : (prepareFormRequest context response).Meets (restricted (DeliversOnly context response))
        (fun _ => PreparesFormOf context response) held := by
  have failed {reservation : MemoryReservation} {error : BoxError} (held : Nat)
      : (reservation.drop.bind fun _ => .pure (.error error)).Meets
          (restricted (DeliversOnly context response))
          (fun _ => PreparesFormOf context response) held := by
    refine (MemoryReservation.performs_drop delivers_local held).bind fun _ _ _ => ?_
    exact fun _ absent => nomatch absent
  unfold prepareFormRequest prepareFormRequestWith
  split
  · exact fun _ absent => nomatch absent
  · refine (performs_tryReserve delivers_local held).bind fun held reserved _ => ?_
    cases reserved with
    | error => exact fun _ absent => nomatch absent
    | ok reservation =>
        refine (performs_perform (delivers_local _ rfl) held).bind fun held capacity _ => ?_
        split
        · exact failed held
        · refine (MemoryReservation.performs_growBeyond delivers_local held).bind ?_
          intro held grown _
          cases grown with
          | error => exact failed held
          | ok reservation =>
              dsimp only
              split
              · exact failed held
              · exact failed held
              · next url known headers =>
                  intro prepared same
                  obtain rfl := Except.ok.inj same
                  exact ⟨known, rfl⟩

/-- `post_response` posts nothing but the form of its response. -/
theorem performs_postResponse
    : Performs (DeliversOnly context response) (postResponse context response) := by
  intro held
  refine prepares_prepareFormRequest.bind fun held prepared form => ?_
  cases prepared with
  | error => trivial
  | ok prepared =>
      have delivers : DeliversOnly context response (.post prepared) :=
        fun _ => ⟨prepared, rfl, form prepared rfl⟩
      refine (performs_perform delivers held).bind fun held answer _ => ?_
      exact (MemoryReservation.performs_drop delivers_local held).bind fun _ _ _ => trivial

end Form

-----------------------------------------------------------------------------------------
-- Programs under execution
-----------------------------------------------------------------------------------------

/-- What is left of a program performs only allowed operations. -/
def Execution.Within {α : Type} (allowed : Op → Prop) (execution : Execution α) : Prop :=
  Running.Sound (restricted allowed) (fun _ _ => True) execution

section Execution

variable {α : Type} {allowed : Op → Prop} {execution next : Execution α}

theorem Performs.within {program : Proc α} (performs : Performs allowed program) (ghost : Nat)
    : Execution.Within allowed ⟨ghost, program⟩ :=
  performs ghost

theorem Execution.Within.reply {reply : Reply} {events : List Event}
    (within : execution.Within allowed) (replied : execution.reply reply = some (next, events))
    : next.Within allowed :=
  Running.Sound.advance within replied

/-- The operation that a program performs next is allowed. -/
theorem Execution.Within.pending {op : Op} (within : execution.Within allowed)
    (pending : execution.pending? = some op)
    : allowed op :=
  Running.Sound.pending within pending

end Execution

end ProxyClient
