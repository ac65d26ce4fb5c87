import ProxyClient.Foundations.Trace
import ProxyClient.Memory.Reservation

/-! What the operations on reservations leave in a trace, and what it means that a trace was
given everything it asked for.
-/

namespace ProxyClient

open Foundations Memory

/-- An operation of a task and the answer to it. -/
abbrev Step : Type := Answered Op Op.Answer

/-- A reservation or an allocation that was asked for was given. Other operations ask for
nothing that can be refused.
-/
def Granted : Step → Prop
  | ⟨.tryAcquire _, answer⟩ => answer = .ok ()
  | ⟨.tryReserveExact _, answer⟩ => ∃ capacity, answer = .ok capacity
  | ⟨.release _, _⟩ | ⟨.withCapacity _, _⟩ | ⟨.get _, _⟩ | ⟨.nextChunk _, _⟩ | ⟨.post _, _⟩
  | ⟨.fault _, _⟩ => True

/-- Everything a trace has asked for was given. -/
def AllGranted (trace : List Step) : Prop := ∀ step ∈ trace, Granted step

@[simp] theorem allGranted_nil : AllGranted [] := fun _ absent => nomatch absent

@[simp] theorem allGranted_cons {step : Step} {trace : List Step}
    : AllGranted (step :: trace) ↔ Granted step ∧ AllGranted trace :=
  List.forall_mem_cons

@[simp] theorem allGranted_append {first rest : List Step}
    : AllGranted (first ++ rest) ↔ AllGranted first ∧ AllGranted rest :=
  List.forall_mem_append

section

variable {bytes least : Nat}

@[simp] theorem granted_tryAcquire_ok : Granted ⟨.tryAcquire bytes, .ok ()⟩ := rfl

@[simp] theorem not_granted_tryAcquire {error : MemoryBudgetError}
    : ¬ Granted ⟨.tryAcquire bytes, .error error⟩ :=
  fun granted => nomatch granted

@[simp] theorem granted_tryReserveExact_ok {capacity : Capacity least}
    : Granted ⟨.tryReserveExact least, .ok capacity⟩ :=
  ⟨capacity, rfl⟩

@[simp] theorem not_granted_tryReserveExact {error : BoxError}
    : ¬ Granted ⟨.tryReserveExact least, .error error⟩ := by
  rintro ⟨capacity, absent⟩
  cases absent

@[simp] theorem granted_release {answer : Unit} : Granted ⟨.release bytes, answer⟩ := trivial

@[simp] theorem granted_withCapacity {capacity : Capacity least}
    : Granted ⟨.withCapacity least, capacity⟩ :=
  trivial

@[simp] theorem granted_nextChunk {answer : Unit} : Granted ⟨.nextChunk bytes, answer⟩ := trivial

@[simp] theorem granted_get {url : String} {answer : Except BoxError ExporterResponse}
    : Granted ⟨.get url, answer⟩ :=
  trivial

end

-----------------------------------------------------------------------------------------
-- Contracts about nothing but the result
-----------------------------------------------------------------------------------------

/-- The contract that allows every operation. -/
def anything : Contract Op Op.Answer Unit where
  allowed _ _ := True
  after _ _ _ := ()

/-- A postcondition of every value is met. Witness: induction over the program. -/
theorem meets_anything {α : Type} {program : Proc α} {post : Unit → α → Prop}
    (every : ∀ value, post () value)
    : program.Meets anything post () := by
  induction program with
  | pure value => exact every value
  | perform op next ih => exact ⟨trivial, ih⟩

/-- Whatever the first part of a bind does, the rest meets the postcondition. -/
theorem meets_anything_bind {α β : Type} {program : Proc α} {f : α → Proc β}
    {post : Unit → β → Prop} (rest : ∀ value, (f value).Meets anything post ())
    : (program.bind f).Meets anything post () :=
  Program.meets_bind.mpr (meets_anything rest)

/-- Whatever has been answered, a returned value satisfies what every return does. -/
theorem returned_satisfies {α : Type} {P : α → Prop} {program : Proc α} {trace : List Step}
    {value : α} (returned : program.Returns trace value)
    (met : program.Meets anything (fun _ value => P value) ())
    : P value :=
  met.returns returned

/-- The contract that forbids a failed assertion. -/
def unfailing : Contract Op Op.Answer Unit where
  allowed _ op := ∀ message, op ≠ .fault message
  after _ _ _ := ()

-----------------------------------------------------------------------------------------
-- Traces of the operations on reservations
-----------------------------------------------------------------------------------------

/-- One operation leaves itself. -/
@[simp] theorem returns_perform {op : Op} {answer : op.Answer} {trace : List Step}
    : (perform op).Returns trace answer ↔ trace = [⟨op, answer⟩] :=
  Program.returns_call

/-- How an acquisition may have ended: granted with a value, or refused. -/
def Acquired {α : Type} (bytes : Nat) (value : α) (trace : List Step)
    (result : Except MemoryBudgetError α)
    : Prop :=
  (trace = [⟨.tryAcquire bytes, .ok ()⟩] ∧ result = .ok value)
  ∨ ∃ error, trace = [⟨.tryAcquire bytes, .error error⟩] ∧ result = .error error

/-- An acquisition whose refusal is passed on. -/
theorem acquired_of_returns {α : Type} {bytes : Nat} {value : α}
    {next : (Op.tryAcquire bytes).Answer → Proc (Except MemoryBudgetError α)} {trace : List Step}
    {result : Except MemoryBudgetError α}
    (granted : ∀ answer, next (.ok answer) = .pure (.ok value))
    (refused : ∀ error, next (.error error) = .pure (.error error))
    (returned : ((perform (.tryAcquire bytes)).bind next).Returns trace result)
    : Acquired bytes value trace result := by
  rcases Program.returns_bind.mp returned with ⟨first, rest, answer, rfl, asked, later⟩
  obtain rfl := returns_perform.mp asked
  cases answer with
  | ok answer =>
      rw [granted] at later
      obtain ⟨rfl, rfl⟩ := Program.returns_pure.mp later
      exact .inl ⟨rfl, rfl⟩
  | error error =>
      rw [refused] at later
      obtain ⟨rfl, rfl⟩ := Program.returns_pure.mp later
      exact .inr ⟨error, rfl, rfl⟩

theorem returns_tryReserve {bytes : Nat} {trace : List Step}
    {result : Except MemoryBudgetError MemoryReservation}
    (returned : (tryReserve bytes).Returns trace result)
    : Acquired bytes ⟨bytes⟩ trace result :=
  acquired_of_returns (fun _ => rfl) (fun _ => rfl) returned

namespace MemoryReservation

variable {reservation after : MemoryReservation} {trace : List Step}
  {result : Except MemoryBudgetError MemoryReservation}

theorem returns_tryGrow {additional : Nat}
    (returned : (reservation.tryGrow additional).Returns trace result)
    : Acquired additional ⟨reservation.bytes + additional⟩ trace result :=
  acquired_of_returns (fun _ => rfl) (fun _ => rfl) returned

/-- Slack is acquired if there is any. -/
theorem returns_growBeyond {actual covered : Nat} (larger : covered ≤ actual)
    (returned : (reservation.growBeyond actual covered).Returns trace result)
    : (actual = covered ∧ trace = [] ∧ result = .ok reservation)
      ∨ (covered < actual
        ∧ Acquired (actual - covered) ⟨reservation.bytes + (actual - covered)⟩ trace result) := by
  unfold growBeyond at returned
  split at returned
  · next beyond => exact .inr ⟨beyond, returns_tryGrow returned⟩
  · next within =>
      obtain ⟨rfl, rfl⟩ := Program.returns_pure.mp returned
      exact .inl ⟨by omega, rfl, rfl⟩

/-- A growth succeeds exactly when what it asks for is given. -/
theorem granted_growBeyond {actual covered : Nat}
    (returned : (reservation.growBeyond actual covered).Returns trace result)
    : (AllGranted trace ∧ ∃ grown, result = .ok grown)
      ∨ (¬ AllGranted trace ∧ ∃ error, result = .error error) := by
  unfold growBeyond at returned
  split at returned
  · rcases returns_tryGrow returned with ⟨rfl, rfl⟩ | ⟨error, rfl, rfl⟩
    · exact .inl ⟨by simp, _, rfl⟩
    · exact .inr ⟨by simp, error, rfl⟩
  · obtain ⟨rfl, rfl⟩ := Program.returns_pure.mp returned
    exact .inl ⟨by simp, reservation, rfl⟩

theorem returns_shrinkTo {bytes : Nat} (smaller : bytes ≤ reservation.bytes)
    (returned : (reservation.shrinkTo bytes).Returns trace after)
    : trace = [⟨.release (reservation.bytes - bytes), ()⟩] ∧ after = ⟨bytes⟩ := by
  unfold shrinkTo at returned
  rw [if_pos smaller] at returned
  rcases Program.returns_bind.mp returned with ⟨first, rest, answer, rfl, asked, later⟩
  obtain rfl := returns_perform.mp asked
  obtain ⟨rfl, rfl⟩ := Program.returns_pure.mp later
  exact ⟨rfl, rfl⟩

end MemoryReservation

namespace BudgetedResponse

/-- `from_reserved` gives back what is beyond the two buffers. -/
theorem returns_fromReserved {uid body : RustString} {status : UInt16}
    {retained : MemoryReservation} {trace : List Step} {response : BudgetedResponse}
    (covers : uid.capacity + body.capacity ≤ retained.bytes)
    (returned : (fromReserved uid status body retained).Returns trace response)
    : trace = [⟨.release (retained.bytes - (uid.capacity + body.capacity)), ()⟩]
      ∧ response
        = { response := .new uid status body, retained := ⟨uid.capacity + body.capacity⟩ } := by
  simp only [fromReserved, checkedAdd_capacity, covers, if_true, Program.bind_eq] at returned
  rcases Program.returns_bind.mp returned with ⟨first, rest, retained, rfl, shrunk, later⟩
  obtain ⟨rfl, rfl⟩ := MemoryReservation.returns_shrinkTo covers shrunk
  obtain ⟨rfl, rfl⟩ := Program.returns_pure.mp later
  exact ⟨rfl, rfl⟩

/-- `downgrade_to_error` gives back the body's buffer. -/
theorem returns_downgradeToError {response after : BudgetedResponse} {trace : List Step}
    (covers : response.response.uid.capacity ≤ response.retained.bytes)
    (returned : response.downgradeToError.Returns trace after)
    : trace = [⟨.release (response.retained.bytes - response.response.uid.capacity), ()⟩]
      ∧ after
        = { response := { response.response with body := .new, status := 500 }
            retained := ⟨response.response.uid.capacity⟩ } := by
  rcases Program.returns_bind.mp returned with ⟨first, rest, retained, rfl, shrunk, later⟩
  obtain ⟨rfl, rfl⟩ := MemoryReservation.returns_shrinkTo covers shrunk
  obtain ⟨rfl, rfl⟩ := Program.returns_pure.mp later
  exact ⟨rfl, rfl⟩

end BudgetedResponse

end ProxyClient
