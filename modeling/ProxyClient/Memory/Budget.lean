import Mathlib.Algebra.Ring.Nat
import ProxyClient.Foundations.Machine

/-! The shared response budget of `memory.rs`, one atomic instruction per step.
The counter and the watermark live in one inner record behind every clone. A reservation
belongs to one owner at a time; the owner's place inside `try_reserve`, `try_grow`,
`shrink_to` or `drop` is part of the state, so that other owners run between two
instructions of one operation.
-/

namespace ProxyClient.Memory

open Foundations

/-- The largest `usize` of the 64-bit targets the client is built for. -/
def usizeMax : Nat := 2 ^ 64 - 1

/-- `usize` addition as the machine does it, for `usize` operands. -/
def wrappingAdd (left right : Nat) : Nat :=
  if left + right ≤ usizeMax then left + right else left + right - (usizeMax + 1)

/-- `usize` subtraction as `AtomicUsize::fetch_sub` does it, for `usize` operands. -/
def wrappingSub (left right : Nat) : Nat :=
  if right ≤ left then left - right else left + (usizeMax + 1) - right

/-- `usize::checked_add`. -/
def checkedAdd (left right : Nat) : Option Nat :=
  if left + right ≤ usizeMax then some (left + right) else none

/-- `usize::saturating_add`. -/
def saturatingAdd (left right : Nat) : Nat :=
  if left + right ≤ usizeMax then left + right else usizeMax

theorem wrappingAdd_eq {left right : Nat} (fits : left + right ≤ usizeMax)
    : wrappingAdd left right = left + right :=
  if_pos fits

theorem wrappingSub_eq {left right : Nat} (covered : right ≤ left)
    : wrappingSub left right = left - right :=
  if_pos covered

/-- The error of a refused acquisition. -/
structure MemoryBudgetError where
  requested : Nat
  available : Nat
deriving DecidableEq, Repr

/-- The record all clones of one `MemoryBudget` share. -/
structure MemoryBudgetInner where
  limit : Nat
  used : Nat
  highWatermark : Nat
deriving DecidableEq, Repr

namespace MemoryBudgetInner

/-- `MemoryBudget::new`. -/
def new (limit : Nat) : MemoryBudgetInner := { limit, used := 0, highWatermark := 0 }

/-- The `fetch_update` of `try_acquire`: the counter before it when the bytes fit, else the
error built from the counter it saw.
-/
def fetchUpdate (inner : MemoryBudgetInner) (bytes : Nat)
    : Except MemoryBudgetError (MemoryBudgetInner × Nat) :=
  match (checkedAdd inner.used bytes).filter (fun next => next ≤ inner.limit) with
  | some next => .ok ({ inner with used := next }, inner.used)
  | none => .error { requested := bytes, available := inner.limit - inner.used }

/-- The `fetch_max` of `try_acquire`. -/
def fetchMax (inner : MemoryBudgetInner) (value : Nat) : MemoryBudgetInner :=
  { inner with highWatermark := max inner.highWatermark value }

/-- The `fetch_sub` of `shrink_to` and `drop`. -/
def fetchSub (inner : MemoryBudgetInner) (bytes : Nat) : MemoryBudgetInner :=
  { inner with used := wrappingSub inner.used bytes }

@[simp] theorem fetchMax_limit (inner : MemoryBudgetInner) (value : Nat)
    : (inner.fetchMax value).limit = inner.limit := rfl

@[simp] theorem fetchMax_used (inner : MemoryBudgetInner) (value : Nat)
    : (inner.fetchMax value).used = inner.used := rfl

@[simp] theorem fetchMax_highWatermark (inner : MemoryBudgetInner) (value : Nat)
    : (inner.fetchMax value).highWatermark = max inner.highWatermark value := rfl

@[simp] theorem fetchSub_limit (inner : MemoryBudgetInner) (bytes : Nat)
    : (inner.fetchSub bytes).limit = inner.limit := rfl

@[simp] theorem fetchSub_highWatermark (inner : MemoryBudgetInner) (bytes : Nat)
    : (inner.fetchSub bytes).highWatermark = inner.highWatermark := rfl

/-- A subtraction that does not wrap subtracts. -/
theorem fetchSub_used {inner : MemoryBudgetInner} {bytes : Nat} (covered : bytes ≤ inner.used)
    : (inner.fetchSub bytes).used = inner.used - bytes :=
  wrappingSub_eq covered

end MemoryBudgetInner

/-- One reservation and the instruction its owner executes next. -/
inductive Owner
  /-- `try_reserve` has updated the counter, from `previous`; its `fetch_max` is next. -/
  | reserving (bytes previous : Nat)
  /-- `try_acquire` has returned inside `try_reserve`; the reservation is built next. -/
  | reserved (bytes : Nat)
  /-- A `MemoryReservation` of `bytes` that no operation is changing. -/
  | live (bytes : Nat)
  /-- `try_grow` has updated the counter, from `previous`; its `fetch_max` is next. -/
  | growing (bytes additional previous : Nat)
  /-- `try_acquire` has returned inside `try_grow`; `self.bytes += additional` is next. -/
  | grown (bytes additional : Nat)
  /-- `shrink_to` has stored the new `bytes`; its `fetch_sub` of `released` is next. -/
  | shrinking (bytes released : Nat)
deriving DecidableEq, Repr

namespace Owner

/-- The `bytes` field of the reservation; one that is not built yet has none. -/
def bytes : Owner → Nat
  | reserving _ _ | reserved _ => 0
  | live bytes | growing bytes _ _ | grown bytes _ | shrinking bytes _ => bytes

/-- The amount between the two steps of the owner's operation: acquired and not recorded in
`bytes`, or removed from `bytes` and not subtracted from the counter.
-/
def inFlight : Owner → Nat
  | reserving bytes _ | reserved bytes => bytes
  | live _ => 0
  | growing _ additional _ | grown _ additional => additional
  | shrinking _ released => released

/-- The value of the `fetch_max` the owner has still to do. -/
def pendingMax : Owner → Option Nat
  | reserving bytes previous => some (wrappingAdd previous bytes)
  | growing _ additional previous => some (wrappingAdd previous additional)
  | reserved _ | live _ | grown _ _ | shrinking _ _ => none

/-- The operands of the unchecked addition the owner executes next. -/
def adds : Owner → Option (Nat × Nat)
  | reserving bytes previous => some (previous, bytes)
  | growing _ additional previous => some (previous, additional)
  | grown bytes additional => some (bytes, additional)
  | reserved _ | live _ | shrinking _ _ => none

/-- The operand of the `fetch_sub` the owner can execute next; a live reservation is dropped
with all its bytes.
-/
def subtracts : Owner → Option Nat
  | live bytes => some bytes
  | shrinking _ released => some released
  | reserving _ _ | reserved _ | growing _ _ _ | grown _ _ => none

end Owner

/-- The shared record and every reservation that exists. -/
structure BudgetState where
  inner : MemoryBudgetInner
  owners : List Owner
deriving DecidableEq, Repr

/-- One instruction of some owner. Positions name the owner in the list of reservations. -/
inductive BudgetAction
  | tryReserve (bytes : Nat)
  | tryGrow (owner additional : Nat)
  | fetchMax (owner : Nat)
  | record (owner : Nat)
  | shrinkTo (owner bytes : Nat)
  | fetchSub (owner : Nat)
  | drop (owner : Nat)
deriving DecidableEq, Repr

/-- What an operation reports: the outcome of an acquisition, or bytes given back. -/
inductive BudgetEvent
  | acquired (bytes : Nat)
  | refused (error : MemoryBudgetError)
  | released (bytes : Nat)
deriving DecidableEq, Repr

namespace BudgetState

/-- A fresh budget without reservations. -/
def new (limit : Nat) : BudgetState := { inner := .new limit, owners := [] }

/-- One atomic instruction. Arguments are `usize` values, `shrink_to` is called with at most
the reservation's bytes, and an owner between two instructions does nothing else.
-/
def step (state : BudgetState) : BudgetAction → Option (BudgetState × List BudgetEvent)
  | .tryReserve bytes =>
      if bytes ≤ usizeMax then
        match state.inner.fetchUpdate bytes with
        | .ok (inner, previous) =>
            some ({ inner, owners := state.owners ++ [.reserving bytes previous] },
              [.acquired bytes])
        | .error error => some (state, [.refused error])
      else none
  | .tryGrow owner additional =>
      match state.owners[owner]? with
      | some (.live bytes) =>
          if additional ≤ usizeMax then
            match state.inner.fetchUpdate additional with
            | .ok (inner, previous) =>
                some ({ inner, owners := state.owners.set owner (.growing bytes additional previous) },
                  [.acquired additional])
            | .error error => some (state, [.refused error])
          else none
      | _ => none
  | .fetchMax owner =>
      match state.owners[owner]? with
      | some (.reserving bytes previous) =>
          some ({ inner := state.inner.fetchMax (wrappingAdd previous bytes),
                  owners := state.owners.set owner (.reserved bytes) }, [])
      | some (.growing bytes additional previous) =>
          some ({ inner := state.inner.fetchMax (wrappingAdd previous additional),
                  owners := state.owners.set owner (.grown bytes additional) }, [])
      | _ => none
  | .record owner =>
      match state.owners[owner]? with
      | some (.reserved bytes) =>
          some ({ state with owners := state.owners.set owner (.live bytes) }, [])
      | some (.grown bytes additional) =>
          some ({ state with owners := state.owners.set owner (.live (wrappingAdd bytes additional)) }, [])
      | _ => none
  | .shrinkTo owner bytes =>
      match state.owners[owner]? with
      | some (.live old) =>
          if bytes ≤ old then
            some ({ state with owners := state.owners.set owner (.shrinking bytes (old - bytes)) }, [])
          else none
      | _ => none
  | .fetchSub owner =>
      match state.owners[owner]? with
      | some (.shrinking bytes released) =>
          some ({ inner := state.inner.fetchSub released,
                  owners := state.owners.set owner (.live bytes) }, [.released released])
      | _ => none
  | .drop owner =>
      match state.owners[owner]? with
      | some (.live bytes) =>
          some ({ inner := state.inner.fetchSub bytes, owners := state.owners.eraseIdx owner },
            [.released bytes])
      | _ => none

end BudgetState

/-- The budget as a machine, from any interleaving of its owners. -/
def budgetMachine : Machine BudgetState BudgetAction BudgetEvent where
  step := BudgetState.step

end ProxyClient.Memory
