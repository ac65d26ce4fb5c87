import ProxyClient.Foundations.Program
import ProxyClient.Protocol

/-! The operations of a task between its local steps.
Everything a task does to the shared budget, everything it asks of the allocator, and every
network call it awaits is one operation of a program. Local computation is ordinary Lean.
-/

namespace ProxyClient

open Foundations Memory

/-- The error values the modelled functions return. -/
inductive BoxError
  | text (message : String)
  | fieldLimit (error : FieldLimitError)
  | memoryBudget (error : MemoryBudgetError)
  /-- A `reqwest::Error`; `is_timeout` tells whether it was a timeout. -/
  | request (timedOut : Bool)
  /-- A `FromUtf8Error` of an exporter body. -/
  | utf8
  /-- A `TryReserveError` of the allocator. -/
  | tryReserve
  /-- A header value with forbidden characters. -/
  | header
  /-- A `JoinError`: the task panicked or was cancelled. -/
  | join
  /-- A `tungstenite::Error` of the socket. -/
  | socket
deriving DecidableEq, Repr

/-- `error.downcast_ref::<reqwest::Error>().is_some_and(reqwest::Error::is_timeout)`. -/
def BoxError.isTimeout : BoxError → Bool
  | .request timedOut => timedOut
  | _ => false

/-- A share of the memory budget. -/
structure MemoryReservation where
  bytes : Nat
deriving DecidableEq, Repr

/-- The answer of an exporter: its status, the declared length when the header parses, and
the chunks its body stream will yield, any of which may be an error.
-/
structure ExporterResponse where
  status : UInt16
  contentLength : Option Nat
  chunks : List (Except BoxError (List UInt8))

/-- A form POST whose body is covered by a reservation. -/
structure PreparedFormRequest where
  url : String
  form : RustString
  reservation : MemoryReservation

/-- One operation of a task. -/
inductive Op
  /-- `MemoryBudget::try_acquire`. -/
  | tryAcquire (bytes : Nat)
  /-- The `fetch_sub` of `shrink_to` and of dropping a reservation. -/
  | release (bytes : Nat)
  /-- `with_capacity`: a new buffer of at least so many bytes. -/
  | withCapacity (least : Nat)
  /-- `try_reserve_exact` on a buffer, which is to hold at least so many bytes. -/
  | tryReserveExact (least : Nat)
  /-- `client.get(url).send().await`. -/
  | get (url : String)
  /-- `stream.next().await`, while the body buffer has so many bytes of capacity. -/
  | nextChunk (capacity : Nat)
  /-- `request.send().await`. -/
  | post (prepared : PreparedFormRequest)
  /-- A failed `assert!`, `debug_assert!` or `expect`. -/
  | fault (message : String)

/-- A capacity the allocator may give a buffer that asks for `least` bytes. -/
abbrev Capacity (least : Nat) : Type :=
  { capacity : Nat // least ≤ capacity ∧ capacity ≤ isizeMax }

/-- What the outside answers to an operation. A fault has no answer. -/
@[reducible] def Op.Answer : Op → Type
  | .tryAcquire _ => Except MemoryBudgetError Unit
  | .release _ => Unit
  | .withCapacity least => Capacity least
  | .tryReserveExact least => Except BoxError (Capacity least)
  | .get _ => Except BoxError ExporterResponse
  | .nextChunk _ => Unit
  | .post _ => Except BoxError UInt16
  | .fault _ => Empty

/-- A task's program. -/
abbrev Proc (α : Type) : Type := Program Op Op.Answer α

/-- The operations at which a task is suspended, so that it may be cancelled there. -/
def Op.awaits : Op → Bool
  | .get _ | .nextChunk _ | .post _ => true
  | .tryAcquire _ | .release _ | .withCapacity _ | .tryReserveExact _ | .fault _ => false

/-- A reply from outside, before it is matched with the pending operation. -/
inductive Reply
  | granted
  | refused (error : MemoryBudgetError)
  | done
  | capacity (bytes : Nat)
  | noMemory
  | exporter (answer : Except BoxError ExporterResponse)
  | posted (answer : Except BoxError UInt16)

/-- Read a reply as an answer to an operation. A refusal names the requested bytes, and a
capacity is at least what was asked for.
-/
def Op.read : (op : Op) → Reply → Option op.Answer
  | .tryAcquire _, .granted => some (.ok ())
  | .tryAcquire bytes, .refused error => if error.requested = bytes then some (.error error) else none
  | .release _, .done => some ()
  | .withCapacity least, .capacity bytes =>
      if fits : least ≤ bytes ∧ bytes ≤ isizeMax then some ⟨bytes, fits⟩ else none
  | .tryReserveExact least, .capacity bytes =>
      if fits : least ≤ bytes ∧ bytes ≤ isizeMax then some (.ok ⟨bytes, fits⟩) else none
  | .tryReserveExact _, .noMemory => some (.error .tryReserve)
  | .get _, .exporter answer => some answer
  | .nextChunk _, .done => some ()
  | .post _, .posted answer => some answer
  | _, _ => none

/-- The bytes of live reservations after an answered operation, from those before it. -/
def Op.held (held : Nat) : (op : Op) → op.Answer → Nat
  | .tryAcquire bytes, .ok () => held + bytes
  | .tryAcquire _, .error _ => held
  | .release bytes, () => held - bytes
  | .withCapacity _, _ => held
  | .tryReserveExact _, _ => held
  | .get _, _ => held
  | .nextChunk _, _ => held
  | .post _, _ => held
  | .fault _, answer => answer.elim

/-- A task's program under execution. Its ghost state is the bytes of its live reservations. -/
abbrev Execution (α : Type) : Type := Running Op Op.Answer Nat α

/-- A program that has not run yet and holds nothing. -/
def Execution.begin {α : Type} (program : Proc α) : Execution α := ⟨0, program⟩

/-- Perform one operation. -/
def perform (op : Op) : Proc op.Answer := Program.call op

/-- A failed assertion. -/
def fault {α : Type} (message : String) : Proc α := .perform (.fault message) Empty.elim

end ProxyClient
