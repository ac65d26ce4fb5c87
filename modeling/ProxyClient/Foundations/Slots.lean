/-! The free places of a bounded channel.
A sender takes a place before it may put its item into the queue. When none is free it waits
in line, and a freed place goes to the head of the line before anyone else can take it.
-/

namespace ProxyClient.Foundations

/-- Free places, and the senders waiting for one, first in line first. -/
structure Slots (Id : Type) where
  permits : Nat
  waiting : List Id
deriving DecidableEq, Repr

namespace Slots

variable {Id : Type}

/-- A channel of the given capacity nobody has used. -/
def new (capacity : Nat) : Slots Id := { permits := capacity, waiting := [] }

/-- The receiver has removed an item: its place goes to the head of the line, if any. -/
def release (slots : Slots Id) : Slots Id :=
  match slots.waiting with
  | [] => { slots with permits := slots.permits + 1 }
  | _ :: rest => { slots with waiting := rest }

/-- A sender gives up. Out of line it already has a place, which it passes on. -/
def giveUp [DecidableEq Id] (slots : Slots Id) (id : Id) : Slots Id :=
  if id ∈ slots.waiting then { slots with waiting := slots.waiting.erase id }
  else slots.release

/-- Nobody waits while a place is free. -/
def Fair (slots : Slots Id) : Prop := slots.waiting ≠ [] → slots.permits = 0

theorem fair_new {capacity : Nat} : (new capacity : Slots Id).Fair := by
  simp [Fair, new]

theorem Fair.release {slots : Slots Id} (fair : slots.Fair) : slots.release.Fair := by
  unfold Slots.release
  split
  · next empty => simp [Fair, empty]
  · next head rest line => exact fun _ => fair (by simp [line])

-----------------------------------------------------------------------------------------
-- The line of a channel
-----------------------------------------------------------------------------------------

/-- The places of a channel of `capacity` that holds `queued` items while the senders of
`suspended` wait, whether they are still in line or already have a place: every place is
free, taken by an item, or kept for a sender.
-/
structure Line (slots : Slots Id) (capacity queued : Nat) (suspended : List Id) : Prop where
  fair : slots.Fair
  distinct : slots.waiting.Nodup
  waits : ∀ id ∈ slots.waiting, id ∈ suspended
  placed : slots.permits + queued + suspended.length = capacity + slots.waiting.length

theorem line_new (capacity : Nat) : (new capacity : Slots Id).Line capacity 0 [] where
  fair := fair_new
  distinct := List.nodup_nil
  waits _ absent := absent
  placed := rfl

section

variable {slots : Slots Id} {capacity queued : Nat} {id : Id} {suspended rest : List Id}

/-- The order in which suspended senders are listed does not matter. -/
theorem Line.perm (line : slots.Line capacity queued suspended) (same : suspended.Perm rest)
    : slots.Line capacity queued rest where
  fair := line.fair
  distinct := line.distinct
  waits id listed := same.mem_iff.mp (line.waits id listed)
  placed := same.length_eq ▸ line.placed

/-- A sender takes a free place and puts its item into it. -/
theorem Line.take (line : slots.Line capacity queued suspended) (free : 0 < slots.permits)
    : Line { slots with permits := slots.permits - 1 } capacity (queued + 1) suspended where
  fair waits := by
    have full := line.fair waits
    simp only
    omega
  distinct := line.distinct
  waits := line.waits
  placed := by
    have placed := line.placed
    simp only
    omega

/-- A sender finds no place and goes to the end of the line. -/
theorem Line.join (line : slots.Line capacity queued rest) (full : slots.permits = 0)
    (joined : suspended.Perm (id :: rest)) (fresh : id ∉ rest)
    : Line { slots with waiting := slots.waiting ++ [id] } capacity queued suspended where
  fair _ := full
  distinct := by
    have elsewhere : id ∉ slots.waiting := fun listed => fresh (line.waits id listed)
    simpa [List.nodup_append] using ⟨line.distinct, fun other listed same =>
      elsewhere (same ▸ listed)⟩
  waits other listed := by
    refine joined.mem_iff.mpr ?_
    rcases List.mem_append.mp listed with older | new
    · exact List.mem_cons_of_mem _ (line.waits other older)
    · exact List.mem_singleton.mp new ▸ List.mem_cons_self
  placed := by
    have placed := line.placed
    have longer := joined.length_eq
    simp only [List.length_cons, List.length_append, List.length_nil] at longer ⊢
    omega

/-- A sender that has been given a place puts its item into it. -/
theorem Line.grant (line : slots.Line capacity queued suspended)
    (left : suspended.Perm (id :: rest)) (granted : id ∉ slots.waiting)
    : slots.Line capacity (queued + 1) rest where
  fair := line.fair
  distinct := line.distinct
  waits other listed := by
    rcases List.mem_cons.mp (left.mem_iff.mp (line.waits other listed)) with rfl | kept
    · exact absurd listed granted
    · exact kept
  placed := by
    have placed := line.placed
    have longer := left.length_eq
    simp only [List.length_cons] at longer
    omega

/-- The receiver removes an item. -/
theorem Line.release (line : slots.Line capacity (queued + 1) suspended)
    : slots.release.Line capacity queued suspended := by
  have placed := line.placed
  refine { fair := line.fair.release, distinct := ?_, waits := ?_, placed := ?_ }
  all_goals
    unfold Slots.release
    split
  · exact line.distinct
  · next head tail here => exact (List.nodup_cons.mp (here ▸ line.distinct)).2
  · exact line.waits
  · next head tail here =>
      exact fun other listed => line.waits other (here ▸ List.mem_cons_of_mem _ listed)
  · simp only
    omega
  · next head tail here =>
      simp only [here, List.length_cons] at placed ⊢
      omega

/-- A suspended sender gives up, and passes on the place it may have been given. -/
theorem Line.giveUp [DecidableEq Id] (line : slots.Line capacity queued suspended)
    (left : suspended.Perm (id :: rest))
    : (slots.giveUp id).Line capacity queued rest := by
  unfold Slots.giveUp
  split
  · next waits =>
      refine {
        fair := fun _ => line.fair (List.ne_nil_of_mem waits)
        distinct := line.distinct.erase id
        waits := fun other listed => ?_
        placed := ?_
      }
      · obtain ⟨different, older⟩ := (line.distinct.mem_erase_iff).mp listed
        rcases List.mem_cons.mp (left.mem_iff.mp (line.waits other older)) with same | kept
        · exact absurd same different
        · exact kept
      · have placed := line.placed
        have longer := left.length_eq
        have some := List.length_pos_of_mem waits
        simp only [List.length_cons, List.length_erase_of_mem waits] at longer ⊢
        omega
  · next granted => exact (line.grant left granted).release

/-- Nobody waits in line unless the items and the other suspended senders fill the channel. -/
theorem Line.full (line : slots.Line capacity queued suspended) (waits : id ∈ slots.waiting)
    : slots.permits = 0 ∧ capacity < queued + suspended.length := by
  have none := line.fair (List.ne_nil_of_mem waits)
  have placed := line.placed
  have some := List.length_pos_of_mem waits
  exact ⟨none, by omega⟩

end

end Slots

end ProxyClient.Foundations
