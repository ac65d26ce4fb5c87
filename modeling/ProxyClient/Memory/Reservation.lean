import ProxyClient.Effects

/-! Reservations and the responses they cover, as `memory.rs` builds and shrinks them. -/

namespace ProxyClient

open Foundations Memory

/-- `MemoryBudget::try_reserve`. -/
def tryReserve (bytes : Nat) : Proc (Except MemoryBudgetError MemoryReservation) := do
  match ← perform (.tryAcquire bytes) with
  | .ok () => return .ok ⟨bytes⟩
  | .error error => return .error error

namespace MemoryReservation

/-- `MemoryReservation::try_grow`; a refused one leaves the reservation as it was. -/
def tryGrow (reservation : MemoryReservation) (additional : Nat)
    : Proc (Except MemoryBudgetError MemoryReservation) := do
  match ← perform (.tryAcquire additional) with
  | .ok () => return .ok ⟨reservation.bytes + additional⟩
  | .error error => return .error error

/-- The idiom `if actual > covered { reservation.try_grow(actual - covered)?; }`. -/
def growBeyond (reservation : MemoryReservation) (actual covered : Nat)
    : Proc (Except MemoryBudgetError MemoryReservation) :=
  if actual > covered then reservation.tryGrow (actual - covered) else return .ok reservation

/-- `MemoryReservation::shrink_to`, with its assertion. -/
def shrinkTo (reservation : MemoryReservation) (bytes : Nat) : Proc MemoryReservation := do
  if bytes ≤ reservation.bytes then
    perform (.release (reservation.bytes - bytes))
    return ⟨bytes⟩
  else fault "cannot grow a reservation by shrinking it"

/-- `Drop for MemoryReservation`. -/
def drop (reservation : MemoryReservation) : Proc Unit := perform (.release reservation.bytes)

end MemoryReservation

/-- A response and the reservation that covers its two buffers. -/
structure BudgetedResponse where
  response : ResourceResponse
  retained : MemoryReservation

namespace BudgetedResponse

/-- The bytes the response's two buffers take. -/
def capacity (response : BudgetedResponse) : Nat :=
  response.response.uid.capacity + response.response.body.capacity

/-- `retained_response_bytes`. -/
def retainedResponseBytes (uid body : RustString) : Except MemoryBudgetError Nat :=
  match checkedAdd uid.capacity body.capacity with
  | some bytes => .ok bytes
  | none => .error { requested := usizeMax, available := 0 }

/-- `BudgetedResponse::try_new`. -/
def tryNew (uid : RustString) (status : UInt16) (body : RustString)
    : Proc (Except MemoryBudgetError BudgetedResponse) := do
  match retainedResponseBytes uid body with
  | .error error => return .error error
  | .ok bytes =>
      match ← tryReserve bytes with
      | .error error => return .error error
      | .ok retained => return .ok { response := .new uid status body, retained }

/-- `BudgetedResponse::from_reserved`, with its `expect` and `debug_assert!`. -/
def fromReserved (uid : RustString) (status : UInt16) (body : RustString)
    (retained : MemoryReservation)
    : Proc BudgetedResponse := do
  match checkedAdd uid.capacity body.capacity with
  | none => fault "validated response sizes fit in usize"
  | some bytes =>
      if bytes ≤ retained.bytes then
        let retained ← retained.shrinkTo bytes
        return { response := .new uid status body, retained }
      else fault "assertion failed: retained.bytes() >= retained_bytes"

/-- `BudgetedResponse::downgrade_to_error`. -/
def downgradeToError (response : BudgetedResponse) : Proc BudgetedResponse := do
  let retained ← response.retained.shrinkTo response.response.uid.capacity
  return { response := { response.response with body := .new, status := 500 }, retained }

/-- Dropping a response drops its reservation. -/
def drop (response : BudgetedResponse) : Proc Unit := response.retained.drop

end BudgetedResponse

end ProxyClient
