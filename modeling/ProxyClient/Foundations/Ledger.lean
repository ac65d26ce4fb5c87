import Mathlib.Algebra.Ring.Nat

/-! Double-entry bookkeeping over the steps of a machine.
A state holds items of some worth, and events say what comes in and what goes out. Balanced
exchanges compose, so what has come in over a whole run is what is still held plus what has
gone out: nothing is lost, and nothing is counted twice.
-/

namespace ProxyClient.Foundations

/-- What an item is worth, and what an event brings in or takes out. -/
structure Ledger (Item Event : Type) where
  worth : Item → Nat
  gain : Event → Nat
  loss : Event → Nat

namespace Ledger

variable {Item Event : Type} (ledger : Ledger Item Event)

/-- The worth of all items together. -/
def total (items : List Item) : Nat := (items.map ledger.worth).sum

def gained (events : List Event) : Nat := (events.map ledger.gain).sum

def lost (events : List Event) : Nat := (events.map ledger.loss).sum

@[simp] theorem total_nil : ledger.total [] = 0 := rfl
@[simp] theorem gained_nil : ledger.gained [] = 0 := rfl
@[simp] theorem lost_nil : ledger.lost [] = 0 := rfl

@[simp] theorem total_cons (item : Item) (items : List Item)
    : ledger.total (item :: items) = ledger.worth item + ledger.total items := by
  simp [total]

@[simp] theorem gained_cons (event : Event) (events : List Event)
    : ledger.gained (event :: events) = ledger.gain event + ledger.gained events := by
  simp [gained]

@[simp] theorem lost_cons (event : Event) (events : List Event)
    : ledger.lost (event :: events) = ledger.loss event + ledger.lost events := by
  simp [lost]

@[simp] theorem total_append (left right : List Item)
    : ledger.total (left ++ right) = ledger.total left + ledger.total right := by
  simp [total]

@[simp] theorem gained_append (left right : List Event)
    : ledger.gained (left ++ right) = ledger.gained left + ledger.gained right := by
  simp [gained]

@[simp] theorem lost_append (left right : List Event)
    : ledger.lost (left ++ right) = ledger.lost left + ledger.lost right := by
  simp [lost]

theorem total_perm {left right : List Item} (same : left.Perm right)
    : ledger.total left = ledger.total right :=
  (same.map ledger.worth).sum_nat

/-- Events that bring nothing in bring nothing in together, by induction over them. -/
theorem gained_eq_zero {events : List Event} (none : ∀ event ∈ events, ledger.gain event = 0)
    : ledger.gained events = 0 := by
  induction events with
  | nil => rfl
  | cons event rest ih =>
      rw [gained_cons, none event List.mem_cons_self,
        ih fun other listed => none other (List.mem_cons_of_mem _ listed)]

/-- No event takes out more than all of them together, by induction over them. -/
theorem loss_le_lost {event : Event} {events : List Event} (listed : event ∈ events)
    : ledger.loss event ≤ ledger.lost events := by
  induction events with
  | nil => exact absurd listed List.not_mem_nil
  | cons first rest ih =>
      rw [lost_cons]
      rcases List.mem_cons.mp listed with rfl | later
      · exact Nat.le_add_right _ _
      · exact Nat.le_trans (ih later) (Nat.le_add_left _ _)

/-- Items and what came in are items and what went out. -/
def Balanced (before : List Item) (events : List Event) (after : List Item) : Prop :=
  ledger.total before + ledger.gained events = ledger.total after + ledger.lost events

variable {ledger} {before middle after : List Item} {events more : List Event}

theorem Balanced.refl : ledger.Balanced before [] before := rfl

/-- Balanced exchanges compose. -/
theorem Balanced.trans (first : ledger.Balanced before events middle)
    (second : ledger.Balanced middle more after)
    : ledger.Balanced before (events ++ more) after := by
  simp only [Balanced, gained_append, lost_append] at *
  omega

/-- An event that moves nothing may come first. -/
theorem Balanced.note {event : Event} (gain : ledger.gain event = 0)
    (loss : ledger.loss event = 0) (rest : ledger.Balanced before events after)
    : ledger.Balanced before (event :: events) after := by
  simp only [Balanced, gained_cons, lost_cons] at *
  omega

/-- Items that an exchange does not touch do not matter. -/
theorem Balanced.frame (exchange : ledger.Balanced before events after)
    (left right : List Item)
    : ledger.Balanced (left ++ before ++ right) events (left ++ after ++ right) := by
  simp only [Balanced, total_append] at *
  omega

end Ledger

end ProxyClient.Foundations
