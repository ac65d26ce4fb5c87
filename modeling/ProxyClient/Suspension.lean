import ProxyClient.Encoding.Bounded
import ProxyClient.Worker.Delivery

/-! Which programs suspend their task, and which of them may succeed.
Reserving, allocating and serialising are done without an await, so a task that only does
these is never suspended by them. What they return depends on the budget and the allocator.
-/

namespace ProxyClient

open Foundations Memory

/-- The contract of programs without an await. -/
def unsuspended : Contract Op Op.Answer Nat where
  allowed _ op := op.awaits = false
  after := Op.held

/-- The program awaits nothing, whatever it is answered. -/
def Unsuspended {α : Type} (program : Proc α) : Prop :=
  ∀ held, program.Meets unsuspended (fun _ _ => True) held

namespace Unsuspended

variable {α β : Type}

theorem pure (value : α) : Unsuspended (.pure value) := fun _ => trivial

theorem perform {op : Op} (runs : op.awaits = false) : Unsuspended (ProxyClient.perform op) :=
  fun _ => ⟨runs, fun _ => trivial⟩

theorem fault (message : String) : Unsuspended (ProxyClient.fault message : Proc α) :=
  fun _ => ⟨rfl, fun answer => answer.elim⟩

/-- A program without an await may be followed by others. -/
theorem bind {program : Proc α} {next : α → Proc β} (first : Unsuspended program)
    (rest : ∀ value, Unsuspended (next value))
    : Unsuspended (program.bind next) :=
  fun held => (first held).bind fun _ value _ => rest value _

end Unsuspended

theorem unsuspended_tryReserve (bytes : Nat) : Unsuspended (tryReserve bytes) := by
  refine .bind (.perform rfl) ?_
  rintro (error | ⟨⟩) <;> exact .pure _

theorem unsuspended_tryGrow (reservation : MemoryReservation) (additional : Nat)
    : Unsuspended (reservation.tryGrow additional) := by
  refine .bind (.perform rfl) ?_
  rintro (error | ⟨⟩) <;> exact .pure _

theorem unsuspended_growBeyond (reservation : MemoryReservation) (actual covered : Nat)
    : Unsuspended (reservation.growBeyond actual covered) := by
  unfold MemoryReservation.growBeyond
  split
  · exact unsuspended_tryGrow _ _
  · exact .pure _

theorem unsuspended_shrinkTo (reservation : MemoryReservation) (bytes : Nat)
    : Unsuspended (reservation.shrinkTo bytes) := by
  unfold MemoryReservation.shrinkTo
  split
  · exact .bind (.perform rfl) fun _ => .pure _
  · exact .fault _

theorem unsuspended_drop (reservation : MemoryReservation) : Unsuspended reservation.drop :=
  .perform rfl

/-- `try_new` only reserves. -/
theorem unsuspended_tryNew (uid : RustString) (status : UInt16) (body : RustString)
    : Unsuspended (BudgetedResponse.tryNew uid status body) := by
  unfold BudgetedResponse.tryNew
  split
  · exact .pure _
  · refine .bind (unsuspended_tryReserve _) ?_
    rintro (error | retained) <;> exact .pure _

theorem unsuspended_encodeReserved (encoder : Encoder) (origin : Origin)
    (response : BudgetedResponse) (length : Nat) (reservation : MemoryReservation)
    : Unsuspended (encodeReserved encoder origin response length reservation) := by
  have dropped {error : BoxError}
      : Unsuspended (reservation.drop.bind fun _ => .pure (.error error)
          : Proc (Except BoxError EncodedResponse)) :=
    .bind (unsuspended_drop _) fun _ => .pure _
  unfold encodeReserved
  split
  · exact dropped
  · refine .bind (.perform rfl) fun capacity => ?_
    split
    · exact dropped
    · refine .bind (unsuspended_growBeyond _ _ _) ?_
      rintro (error | grown)
      · exact dropped
      · exact .pure _

theorem unsuspended_encodeDowngraded (limit : Nat) (encoder : Encoder) (origin : Origin)
    (response : BudgetedResponse)
    : Unsuspended (encodeDowngraded limit encoder origin response) := by
  refine .bind (.bind (unsuspended_shrinkTo _ _) fun _ => .pure _) fun downgraded => ?_
  split
  · exact .pure _
  · split
    · exact .pure _
    · refine .bind (unsuspended_tryReserve _) ?_
      rintro (error | reservation)
      · exact .pure _
      · exact .bind (unsuspended_encodeReserved _ _ _ _ _) fun _ => .pure _

/-- `queue_ws_response` does not wait before its send. -/
theorem unsuspended_encodeForQueue (origin : Origin) (response : BudgetedResponse)
    : Unsuspended (encodeForQueue origin response) := by
  refine .bind ?_ fun bounded => .bind (unsuspended_drop _) fun _ => .pure _
  unfold boundedResponseJson boundedResponseJsonWith
  split
  · exact .pure _
  · split
    · refine .bind (unsuspended_tryReserve _) ?_
      rintro (error | reservation)
      · exact unsuspended_encodeDowngraded _ _ _ _
      · exact .bind (unsuspended_encodeReserved _ _ _ _ _) fun _ => .pure _
    · exact unsuspended_encodeDowngraded _ _ _ _

-----------------------------------------------------------------------------------------
-- What may be returned
-----------------------------------------------------------------------------------------

/-- Some reply from outside is this answer. -/
def Op.Offers (op : Op) (answer : op.Answer) : Prop := ∃ reply, op.read reply = some answer

/-- Some replies lead the program to a value that satisfies `post`. -/
def MayReturn {α : Type} (post : α → Prop) (program : Proc α) : Prop :=
  program.May Op.Offers post

section

variable {α β : Type} {bytes : Nat} {reservation : MemoryReservation}

theorem offers_granted : (Op.tryAcquire bytes).Offers (.ok ()) := ⟨.granted, rfl⟩

theorem offers_release : (Op.release bytes).Offers () := ⟨.done, rfl⟩

theorem offers_withCapacity (capacity : Capacity bytes)
    : (Op.withCapacity bytes).Offers capacity :=
  ⟨.capacity capacity.val, by simp [Op.read, capacity.property]⟩

@[simp] theorem mayReturn_pure {post : α → Prop} {value : α}
    : MayReturn post (.pure value) ↔ post value :=
  Iff.rfl

@[simp] theorem mayReturn_bind {program : Proc α} {f : α → Proc β} {post : β → Prop}
    : MayReturn post (program.bind f)
      ↔ MayReturn (fun value => MayReturn post (f value)) program :=
  Program.may_bind

@[simp] theorem mayReturn_fault {message : String} {post : α → Prop}
    : ¬ MayReturn post (fault message : Proc α) :=
  fun ⟨answer, _⟩ => answer.elim

/-- Giving bytes back has one outcome. -/
@[simp] theorem mayReturn_release {post : Unit → Prop}
    : MayReturn post (perform (.release bytes)) ↔ post () :=
  ⟨fun ⟨_, _, later⟩ => later, fun later => ⟨(), offers_release, later⟩⟩

@[simp] theorem mayReturn_drop {post : Unit → Prop}
    : MayReturn post reservation.drop ↔ post () :=
  mayReturn_release

/-- A reservation may be granted. -/
theorem mayReturn_tryReserve {post : Except MemoryBudgetError MemoryReservation → Prop}
    (granted : post (.ok ⟨bytes⟩))
    : MayReturn post (tryReserve bytes) :=
  ⟨.ok (), offers_granted, granted⟩

@[simp] theorem mayReturn_shrinkTo {post : MemoryReservation → Prop}
    : MayReturn post (reservation.shrinkTo bytes) ↔ bytes ≤ reservation.bytes ∧ post ⟨bytes⟩ := by
  unfold MemoryReservation.shrinkTo
  split
  · next smaller =>
      rw [Program.bind_eq, mayReturn_bind, mayReturn_release]
      exact ⟨fun later => ⟨smaller, later⟩, fun later => later.2⟩
  · next larger =>
      exact ⟨fun absent => absurd absent mayReturn_fault, fun later => absurd later.1 larger⟩

end

/-- The result is a value. -/
def Succeeds {ε α : Type} (result : Except ε α) : Prop := ∃ value, result = .ok value

/-- A response whose length is computed and which, as it is or without its body, is within the
limit of a message.
-/
def BudgetedResponse.Encodable (response : BudgetedResponse) : Prop :=
  ∃ length,
    responseJsonEncodedLen response.response = some length
    ∧ (length ≤ maxWsMessageSize
      ∨ (response.response.uid.capacity ≤ response.retained.bytes
        ∧ ∃ fallback,
            responseJsonEncodedLen response.response.downgraded = some fallback
            ∧ fallback ≤ maxWsMessageSize))

section

variable {origin : Origin} {response : BudgetedResponse} {length : Nat}

/-- A reserved response of the computed length may be encoded. -/
theorem mayReturn_encodeReserved {reservation : MemoryReservation}
    (computed : responseJsonEncodedLen response.response = some length)
    (within : length ≤ maxWsMessageSize)
    : MayReturn Succeeds
        (encodeReserved (fun response => .ok (responseJson response)) origin response length
          reservation) := by
  obtain rfl := jsonLength_eq computed
  have addressable : (responseJson response.response).utf8ByteSize ≤ isizeMax :=
    Nat.le_trans within (by decide)
  refine ⟨⟨_, Nat.le_refl _, addressable⟩, offers_withCapacity _, ?_⟩
  simp [MemoryReservation.growBeyond, Succeeds]

/-- A downgraded response keeps its uid. -/
theorem mayReturn_downgradeToError {post : BudgetedResponse → Prop}
    : MayReturn post response.downgradeToError
      ↔ response.response.uid.capacity ≤ response.retained.bytes
        ∧ post
            { response := response.response.downgraded,
              retained := ⟨response.response.uid.capacity⟩ } := by
  simp only [BudgetedResponse.downgradeToError, Program.bind_eq, Program.pure_eq, mayReturn_bind,
    mayReturn_shrinkTo, mayReturn_pure, ResourceResponse.downgraded]

/-- The fallback may be encoded when the response covers its uid and the empty error fits. -/
theorem mayReturn_encodeDowngraded
    : MayReturn (fun result => Succeeds result.2)
        (encodeDowngraded maxWsMessageSize (fun response => .ok (responseJson response)) origin
          response)
      ↔ response.response.uid.capacity ≤ response.retained.bytes
        ∧ ∃ fallback,
            responseJsonEncodedLen response.response.downgraded = some fallback
            ∧ fallback ≤ maxWsMessageSize := by
  rw [encodeDowngraded, Program.bind_eq, mayReturn_bind, mayReturn_downgradeToError]
  refine and_congr_right fun _ => ?_
  dsimp only
  cases computed : responseJsonEncodedLen response.response.downgraded with
  | none => simp [Succeeds]
  | some fallback =>
      dsimp only
      split
      · next beyond =>
          refine ⟨?_, ?_⟩
          · rintro ⟨_, absent⟩
            cases absent
          · rintro ⟨_, same, within⟩
            obtain rfl := Option.some.inj same
            exact absurd within (Nat.not_le.mpr beyond)
      · next within =>
          refine ⟨fun _ => ⟨fallback, rfl, Nat.le_of_not_lt within⟩, fun _ => ?_⟩
          rw [Program.bind_eq, mayReturn_bind]
          refine mayReturn_tryReserve ?_
          dsimp only
          rw [Program.bind_eq, mayReturn_bind]
          exact mayReturn_encodeReserved computed (Nat.le_of_not_lt within)

/-- `queue_ws_response` may encode a response exactly when it is encodable. -/
theorem mayReturn_encodeForQueue
    : MayReturn Succeeds (encodeForQueue origin response) ↔ response.Encodable := by
  have drops {α : Type} {post : α → Prop} {program : Proc (BudgetedResponse × α)}
      : MayReturn post (program.bind fun result => result.1.drop.bind fun _ => .pure result.2)
        ↔ MayReturn (fun result => post result.2) program := by
    simp only [mayReturn_bind, BudgetedResponse.drop, mayReturn_drop, mayReturn_pure]
  refine drops.trans ?_
  rw [boundedResponseJson, boundedResponseJsonWith, BudgetedResponse.Encodable]
  cases computed : responseJsonEncodedLen response.response with
  | none => simp [Succeeds]
  | some length =>
      dsimp only
      split
      · next within =>
          refine ⟨fun _ => ⟨length, rfl, .inl within⟩, fun _ => ?_⟩
          rw [Program.bind_eq, mayReturn_bind]
          refine mayReturn_tryReserve ?_
          dsimp only
          rw [Program.bind_eq, mayReturn_bind]
          exact mayReturn_encodeReserved computed within
      · next beyond =>
          rw [mayReturn_encodeDowngraded]
          refine ⟨fun fallback => ⟨length, rfl, .inr fallback⟩, ?_⟩
          rintro ⟨_, same, either⟩
          obtain rfl := Option.some.inj same
          exact either.resolve_left beyond

end

/-- A busy answer is encodable. -/
theorem encodable_busy {uid : RustString} {retained : MemoryReservation}
    (short : uid.len ≤ maxUidSize) (covers : uid.capacity ≤ retained.bytes)
    : BudgetedResponse.Encodable { response := .new uid 503 .new, retained } := by
  have fallback : responseJsonEncodedLen (ResourceResponse.new uid 503 .new).downgraded
      = some _ :=
    jsonLength_of_admitted short (Nat.zero_le _)
  refine ⟨_, jsonLength_of_admitted short (Nat.zero_le _), .inr ⟨covers, _, fallback, ?_⟩⟩
  exact Nat.le_trans (downgraded_small short) (by decide)

/-- The busy answer to a request may be made, and then encoded. -/
theorem mayReturn_tryNew {uid : RustString} (short : uid.len ≤ maxUidSize)
    : MayReturn (fun result => ∃ response, result = .ok response ∧ response.Encodable)
        (BudgetedResponse.tryNew uid 503 .new) := by
  rw [BudgetedResponse.tryNew, BudgetedResponse.retainedResponseBytes, checkedAdd_capacity]
  dsimp only
  rw [Program.bind_eq, mayReturn_bind]
  refine mayReturn_tryReserve ⟨_, rfl, encodable_busy short ?_⟩
  exact Nat.le_add_right _ _

end ProxyClient
