import Mathlib.Data.List.Nodup
import Mathlib.Data.List.Perm.Subperm

/-! Lists opened at one position.
A pool of concurrent parties is a list, and a step replaces or removes one entry of it. Once
the list is opened around that entry, every fold over the pool is a sum of three parts.
-/

namespace ProxyClient.Foundations

variable {α : Type}

/-- `Opened pool index entry front back` splits `pool` around the `entry` at `index`. -/
structure Opened (pool : List α) (index : Nat) (entry : α) (front back : List α) : Prop where
  whole : pool = front ++ entry :: back
  replaced : ∀ next, pool.set index next = front ++ next :: back
  removed : pool.eraseIdx index = front ++ back
  position : front.length = index

/-- Every occupied position opens its list, by induction over the list. -/
theorem opened_of_getElem? {pool : List α} {index : Nat} {entry : α}
    (found : pool[index]? = some entry)
    : ∃ front back, Opened pool index entry front back := by
  induction pool generalizing index with
  | nil => simp at found
  | cons head tail ih =>
      cases index with
      | zero =>
          obtain rfl : head = entry := by simpa using found
          exact ⟨[], tail, ⟨rfl, fun _ => rfl, rfl, rfl⟩⟩
      | succ index =>
          obtain ⟨front, back, opened⟩ := ih (by simpa using found)
          refine ⟨head :: front, back, ⟨?_, fun next => ?_, ?_, ?_⟩⟩
          · simpa using opened.whole
          · simpa using opened.replaced next
          · simpa using opened.removed
          · simpa using opened.position

/-- The entry a list is opened at is one of its members. -/
theorem Opened.entry_mem {pool : List α} {index : Nat} {entry : α} {front back : List α}
    (opened : Opened pool index entry front back)
    : entry ∈ pool := by
  simp [opened.whole]

/-- What holds of every entry still holds after one is replaced by an entry it holds of. -/
theorem Opened.forall_replaced {pool : List α} {index : Nat} {entry next : α}
    {front back : List α} {holds : α → Prop} (opened : Opened pool index entry front back)
    (every : ∀ member ∈ pool, holds member) (new : holds next)
    : ∀ member ∈ front ++ next :: back, holds member := by
  rw [opened.whole] at every
  intro member listed
  rcases List.mem_append.mp listed with before | after
  · exact every member (by simp [before])
  · rcases List.mem_cons.mp after with rfl | later
    · exact new
    · exact every member (by simp [later])

/-- What holds of every entry still holds after one is removed. -/
theorem Opened.forall_removed {pool : List α} {index : Nat} {entry : α} {front back : List α}
    {holds : α → Prop} (opened : Opened pool index entry front back)
    (every : ∀ member ∈ pool, holds member)
    : ∀ member ∈ front ++ back, holds member := by
  rw [opened.whole] at every
  intro member listed
  exact every member (by simp only [List.mem_append, List.mem_cons] at listed ⊢; grind)

/-- What the entries of a pool have together changes, when one of them is replaced, by what this
one has had and what its replacement has.
-/
theorem perm_flatMap_set {Part : Type} {pool : List α} {index : Nat} {entry : α} (next : α)
    (parts : α → List Part) (found : pool[index]? = some entry)
    : (parts entry ++ (pool.set index next).flatMap parts).Perm
        (parts next ++ pool.flatMap parts) := by
  obtain ⟨front, back, opened⟩ := opened_of_getElem? found
  have after
      : (pool.set index next).flatMap parts
        = front.flatMap parts ++ (parts next ++ back.flatMap parts) := by
    rw [opened.replaced, List.flatMap_append, List.flatMap_cons]
  have before
      : pool.flatMap parts = front.flatMap parts ++ (parts entry ++ back.flatMap parts) := by
    rw [opened.whole, List.flatMap_append, List.flatMap_cons]
  rw [after, before]
  calc
    (parts entry ++ (front.flatMap parts ++ (parts next ++ back.flatMap parts))).Perm
        (front.flatMap parts ++ (parts entry ++ (parts next ++ back.flatMap parts))) :=
      List.perm_append_comm_assoc _ _ _
    List.Perm _ (front.flatMap parts ++ (parts next ++ (parts entry ++ back.flatMap parts))) :=
      .append_left _ (List.perm_append_comm_assoc _ _ _)
    List.Perm _ (parts next ++ (front.flatMap parts ++ (parts entry ++ back.flatMap parts))) :=
      List.perm_append_comm_assoc _ _ _

/-- Entries of which no two count are counted at most once, by induction over the list. -/
theorem countP_le_one {pool : List α} {counts : α → Bool}
    (single
      : ∀ (index other : Nat) (first second : α),
          pool[index]? = some first
          → pool[other]? = some second
          → counts first = true
          → counts second = true
          → index = other)
    : pool.countP counts ≤ 1 := by
  induction pool with
  | nil => simp
  | cons entry rest ih =>
      cases counted : counts entry with
      | true =>
          have none : rest.countP counts = 0 := by
            refine List.countP_eq_zero.mpr fun other listed also => ?_
            obtain ⟨index, found⟩ := List.getElem?_of_mem listed
            have same := single 0 (index + 1) entry other rfl (by simpa using found) counted also
            cases same
          rw [List.countP_cons_of_pos counted]
          exact Nat.le_of_eq (congrArg Nat.succ none)
      | false =>
          rw [List.countP_cons_of_neg (by simp [counted])]
          refine ih fun index other first second found found' here also => ?_
          have same := single (index + 1) (other + 1) first second (by simpa using found)
            (by simpa using found') here also
          exact Nat.succ.inj same

/-- No more entries count than there are places, when each of them has its place among these. -/
theorem length_filter_le {pool : List α} {counts : α → Bool} {places : List Nat}
    (placed
      : ∀ (index : Nat) (entry : α),
          pool[index]? = some entry → counts entry = true → index ∈ places)
    : (pool.filter counts).length ≤ places.length := by
  let marked := pool.zipIdx.filter (counts ∘ Prod.fst)
  have entries : marked.map Prod.fst = pool.filter counts := by
    rw [← List.filter_map, List.zipIdx_map_fst]
  have apart : (marked.map Prod.snd).Nodup := by
    have indices : (pool.zipIdx.map Prod.snd).Nodup := by
      rw [List.zipIdx_map_snd]
      exact List.nodup_range'
    exact indices.sublist (List.filter_sublist.map Prod.snd)
  have within : marked.map Prod.snd ⊆ places := by
    intro index listed
    obtain ⟨⟨entry, _⟩, kept, rfl⟩ := List.mem_map.mp listed
    obtain ⟨there, counted⟩ := List.mem_filter.mp kept
    exact placed _ entry (List.mem_zipIdx_iff_getElem?.mp there) counted
  have fewer := (apart.subperm within).length_le
  rw [List.length_map] at fewer
  rw [← entries, List.length_map]
  exact fewer

end ProxyClient.Foundations
