import ProxyClient.Foundations.Position
import ProxyClient.Memory.Budget

/-! The budget counter is exact under every interleaving of its owners.
Every acquired byte is at all times in a reservation's `bytes` or in flight inside one
operation, so the counter never exceeds the limit, never wraps, and returns to zero.
-/

namespace ProxyClient.Memory

open Foundations Machine

-----------------------------------------------------------------------------------------
-- What one instruction can do
-----------------------------------------------------------------------------------------

/-- Under a `usize` limit, `fetch_update` succeeds exactly when the bytes fit. -/
theorem MemoryBudgetInner.fetchUpdate_of_fits {inner : MemoryBudgetInner} {bytes : Nat}
    (limited : inner.limit ≤ usizeMax) (fits : inner.used + bytes ≤ inner.limit)
    : inner.fetchUpdate bytes
      = .ok ({ inner with used := inner.used + bytes }, inner.used) := by
  have machine : inner.used + bytes ≤ usizeMax := by omega
  simp [fetchUpdate, checkedAdd, machine, Option.filter, fits]

/-- A refused `fetch_update` reports what it saw. Either the addition left `usize` or the sum
is over the limit; both are one refusal.
-/
theorem MemoryBudgetInner.fetchUpdate_of_exceeds {inner : MemoryBudgetInner} {bytes : Nat}
    (exceeds : inner.limit < inner.used + bytes)
    : inner.fetchUpdate bytes
      = .error { requested := bytes, available := inner.limit - inner.used } := by
  unfold fetchUpdate checkedAdd
  split
  · next next found =>
      obtain ⟨sum, fits⟩ := Option.filter_eq_some_iff.mp found
      split at sum
      · obtain rfl := Option.some.inj sum
        simp only [decide_eq_true_eq] at fits
        omega
      · exact absurd sum (by simp)
  · rfl

/-- A proof view of `BudgetState.step`: one constructor for each instruction and outcome,
with the list of reservations opened at the owner that moved.
-/
inductive Stepped (state : BudgetState)
    : BudgetAction → BudgetState → List BudgetEvent → Prop
  | reserved {bytes} (fits : state.inner.used + bytes ≤ state.inner.limit)
    : Stepped state (.tryReserve bytes)
        { inner := { state.inner with used := state.inner.used + bytes },
          owners := state.owners ++ [.reserving bytes state.inner.used] }
        [.acquired bytes]
  | reserveRefused {bytes} (exceeds : state.inner.limit < state.inner.used + bytes)
    : Stepped state (.tryReserve bytes) state
        [.refused { requested := bytes, available := state.inner.limit - state.inner.used }]
  | grew {owner bytes additional front back}
    (opened : Opened state.owners owner (.live bytes) front back)
    (fits : state.inner.used + additional ≤ state.inner.limit)
    : Stepped state (.tryGrow owner additional)
        { inner := { state.inner with used := state.inner.used + additional },
          owners := front ++ .growing bytes additional state.inner.used :: back }
        [.acquired additional]
  | growRefused {owner additional}
    (exceeds : state.inner.limit < state.inner.used + additional)
    : Stepped state (.tryGrow owner additional) state
        [.refused
          { requested := additional, available := state.inner.limit - state.inner.used }]
  | maxed {owner old new value front back} (opened : Opened state.owners owner old front back)
    (pending : old.pendingMax = some value) (settled : new.pendingMax = none)
    (sameBytes : new.bytes = old.bytes) (sameFlight : new.inFlight = old.inFlight)
    (added : ∀ sum ∈ new.adds, sum.1 + sum.2 = new.bytes + new.inFlight)
    : Stepped state (.fetchMax owner)
        { inner := state.inner.fetchMax value, owners := front ++ new :: back } []
  | recorded {owner old amount front back} (opened : Opened state.owners owner old front back)
    (settled : old.pendingMax = none)
    (exact : old.bytes + old.inFlight ≤ usizeMax → amount = old.bytes + old.inFlight)
    : Stepped state (.record owner) { state with owners := front ++ .live amount :: back } []
  | shrunk {owner old bytes front back}
    (opened : Opened state.owners owner (.live old) front back) (smaller : bytes ≤ old)
    : Stepped state (.shrinkTo owner bytes)
        { state with owners := front ++ .shrinking bytes (old - bytes) :: back } []
  | subtracted {owner bytes released front back}
    (opened : Opened state.owners owner (.shrinking bytes released) front back)
    : Stepped state (.fetchSub owner)
        { inner := state.inner.fetchSub released, owners := front ++ .live bytes :: back }
        [.released released]
  | dropped {owner bytes front back}
    (opened : Opened state.owners owner (.live bytes) front back)
    : Stepped state (.drop owner)
        { inner := state.inner.fetchSub bytes, owners := front ++ back } [.released bytes]

/-- An instruction that replaces its owner opens the pool there. -/
theorem opened_of_replaced {state next : BudgetState} {owner : Nat} {old new : Owner}
    {inner : MemoryBudgetInner} {emitted events : List BudgetEvent}
    (found : state.owners[owner]? = some old)
    (taken
      : some (({ inner, owners := state.owners.set owner new } : BudgetState), emitted)
        = some (next, events))
    : ∃ front back,
        Opened state.owners owner old front back
        ∧ { inner, owners := front ++ new :: back } = next
        ∧ emitted = events := by
  obtain ⟨front, back, opened⟩ := opened_of_getElem? found
  rw [opened.replaced] at taken
  obtain ⟨moved, same⟩ := Prod.mk.inj (Option.some.inj taken)
  exact ⟨front, back, opened, moved, same⟩

/-- Every enabled instruction is one of the view's constructors, by cases on the instruction
and on where its owner stands.
-/
theorem stepped_of_step {state next : BudgetState} {action : BudgetAction}
    {events : List BudgetEvent} (limited : state.inner.limit ≤ usizeMax)
    (taken : state.step action = some (next, events))
    : Stepped state action next events := by
  cases action with
  | tryReserve bytes =>
      simp only [BudgetState.step] at taken
      split at taken
      · by_cases fits : state.inner.used + bytes ≤ state.inner.limit
        · simp only [MemoryBudgetInner.fetchUpdate_of_fits limited fits, Option.some.injEq,
            Prod.mk.injEq] at taken
          obtain ⟨rfl, rfl⟩ := taken
          exact .reserved fits
        · have exceeds : state.inner.limit < state.inner.used + bytes := by omega
          simp only [MemoryBudgetInner.fetchUpdate_of_exceeds exceeds, Option.some.injEq,
            Prod.mk.injEq] at taken
          obtain ⟨rfl, rfl⟩ := taken
          exact .reserveRefused exceeds
      · exact absurd taken (by simp)
  | tryGrow owner additional =>
      simp only [BudgetState.step] at taken
      split at taken
      · next bytes found =>
          split at taken
          · by_cases fits : state.inner.used + additional ≤ state.inner.limit
            · rw [MemoryBudgetInner.fetchUpdate_of_fits limited fits] at taken
              obtain ⟨front, back, opened, rfl, rfl⟩ := opened_of_replaced found taken
              exact .grew opened fits
            · have exceeds : state.inner.limit < state.inner.used + additional := by omega
              simp only [MemoryBudgetInner.fetchUpdate_of_exceeds exceeds, Option.some.injEq,
                Prod.mk.injEq] at taken
              obtain ⟨rfl, rfl⟩ := taken
              exact .growRefused exceeds
          · exact absurd taken (by simp)
      · exact absurd taken (by simp)
  | fetchMax owner =>
      simp only [BudgetState.step] at taken
      split at taken
      · next found =>
          obtain ⟨front, back, opened, rfl, rfl⟩ := opened_of_replaced found taken
          exact .maxed opened rfl rfl rfl rfl (by simp [Owner.adds, Owner.bytes, Owner.inFlight])
      · next found =>
          obtain ⟨front, back, opened, rfl, rfl⟩ := opened_of_replaced found taken
          exact .maxed opened rfl rfl rfl rfl (by simp [Owner.adds, Owner.bytes, Owner.inFlight])
      · exact absurd taken (by simp)
  | record owner =>
      simp only [BudgetState.step] at taken
      split at taken
      · next found =>
          obtain ⟨front, back, opened, rfl, rfl⟩ := opened_of_replaced found taken
          exact .recorded opened rfl (by simp [Owner.bytes, Owner.inFlight])
      · next found =>
          obtain ⟨front, back, opened, rfl, rfl⟩ := opened_of_replaced found taken
          exact .recorded opened rfl wrappingAdd_eq
      · exact absurd taken (by simp)
  | shrinkTo owner bytes =>
      simp only [BudgetState.step] at taken
      split at taken
      · next found =>
          split at taken
          · next smaller =>
              obtain ⟨front, back, opened⟩ := opened_of_getElem? found
              simp only [opened.replaced, Option.some.injEq, Prod.mk.injEq] at taken
              obtain ⟨rfl, rfl⟩ := taken
              exact .shrunk opened smaller
          · exact absurd taken (by simp)
      · exact absurd taken (by simp)
  | fetchSub owner =>
      simp only [BudgetState.step] at taken
      split at taken
      · next found =>
          obtain ⟨front, back, opened, rfl, rfl⟩ := opened_of_replaced found taken
          exact .subtracted opened
      · exact absurd taken (by simp)
  | drop owner =>
      simp only [BudgetState.step] at taken
      split at taken
      · next found =>
          obtain ⟨front, back, opened⟩ := opened_of_getElem? found
          simp only [opened.removed, Option.some.injEq, Prod.mk.injEq] at taken
          obtain ⟨rfl, rfl⟩ := taken
          exact .dropped opened
      · exact absurd taken (by simp)

-----------------------------------------------------------------------------------------
-- The counter is the sum of what is recorded and what is in flight
-----------------------------------------------------------------------------------------

/-- All bytes recorded in reservations. -/
def BudgetState.recorded (state : BudgetState) : Nat := (state.owners.map Owner.bytes).sum

/-- All bytes between the two steps of some owner's operation. -/
def BudgetState.inFlight (state : BudgetState) : Nat := (state.owners.map Owner.inFlight).sum

/-- The counter equals the recorded and the in-flight bytes and stays within a `usize` limit,
and so does every sum some owner is about to compute.
-/
structure BudgetState.Balanced (state : BudgetState) : Prop where
  limited : state.inner.limit ≤ usizeMax
  exact : state.inner.used = state.recorded + state.inFlight
  bounded : state.inner.used ≤ state.inner.limit
  sums : ∀ owner ∈ state.owners, ∀ sum ∈ owner.adds, sum.1 + sum.2 ≤ state.inner.limit

/-- Any one owner's bytes and in-flight amount are contained in the counter. -/
theorem BudgetState.Balanced.covers {state : BudgetState} (balanced : state.Balanced)
    {owner : Owner} (member : owner ∈ state.owners)
    : owner.bytes + owner.inFlight ≤ state.inner.used := by
  obtain ⟨front, back, split⟩ := List.append_of_mem member
  have exact := balanced.exact
  simp only [recorded, inFlight, split, List.map_append, List.map_cons, List.sum_append,
    List.sum_cons] at exact
  omega

/-- The counter, split at the owner that moves. -/
theorem BudgetState.Balanced.opened {state : BudgetState} (balanced : state.Balanced)
    {owner : Nat} {old : Owner} {front back : List Owner}
    (opened : Opened state.owners owner old front back)
    : state.inner.used
      = (front.map Owner.bytes).sum + old.bytes + (back.map Owner.bytes).sum
        + ((front.map Owner.inFlight).sum + old.inFlight + (back.map Owner.inFlight).sum) := by
  have exact := balanced.exact
  simp only [recorded, inFlight, opened.whole, List.map_append, List.map_cons,
    List.sum_append, List.sum_cons] at exact
  omega

/-- A pool with one owner replaced is balanced when the counter moved as that owner did. -/
theorem BudgetState.Balanced.replaced {state : BudgetState} (balanced : state.Balanced)
    {owner : Nat} {old new : Owner} {front back : List Owner} {inner : MemoryBudgetInner}
    (opened : Opened state.owners owner old front back)
    (limit : inner.limit = state.inner.limit) (bounded : inner.used ≤ state.inner.limit)
    (moved
      : inner.used + (old.bytes + old.inFlight) = state.inner.used + (new.bytes + new.inFlight))
    (sums : ∀ sum ∈ new.adds, sum.1 + sum.2 ≤ state.inner.limit)
    : BudgetState.Balanced { inner, owners := front ++ new :: back } := by
  have before := balanced.opened opened
  refine ⟨limit ▸ balanced.limited, ?_, limit ▸ bounded, ?_⟩
  · simp only [recorded, inFlight, List.map_append, List.map_cons, List.sum_append,
      List.sum_cons]
    omega
  · rw [limit]
    exact opened.forall_replaced balanced.sums sums

/-- One instruction keeps the balance: the moved owner's bytes and in-flight amount change by
exactly what the counter changes. Witness: the view's cases; subtraction never wraps because
the owner's own bytes are contained in the counter.
-/
theorem BudgetState.Balanced.step {state next : BudgetState} {action : BudgetAction}
    {events : List BudgetEvent} (balanced : state.Balanced)
    (taken : state.step action = some (next, events))
    : next.Balanced ∧ next.inner.limit = state.inner.limit := by
  have bounded := balanced.bounded
  cases stepped_of_step balanced.limited taken with
  | @reserved bytes fits =>
      refine ⟨⟨balanced.limited, ?_, fits, ?_⟩, rfl⟩
      · have exact := balanced.exact
        simp only [recorded, inFlight, List.map_append, List.map_cons, List.map_nil,
          List.sum_append, List.sum_cons, List.sum_nil, Owner.bytes, Owner.inFlight] at exact ⊢
        omega
      · intro owner member sum added
        rcases List.mem_append.mp member with old | new
        · exact balanced.sums owner old sum added
        · obtain rfl := List.mem_singleton.mp new
          obtain rfl : (_, _) = sum := Option.some.inj added
          exact fits
  | reserveRefused => exact ⟨balanced, rfl⟩
  | grew opened fits =>
      refine ⟨balanced.replaced opened rfl fits ?_ ?_, rfl⟩
      · simp only [Owner.bytes, Owner.inFlight]
        omega
      · simpa [Owner.adds] using fits
  | growRefused => exact ⟨balanced, rfl⟩
  | maxed opened pending settled sameBytes sameFlight added =>
      have covered := balanced.covers opened.entry_mem
      refine ⟨balanced.replaced opened rfl bounded (by simp [sameBytes, sameFlight]) ?_, rfl⟩
      intro sum listed
      rw [added sum listed, sameBytes, sameFlight]
      omega
  | @recorded _ old amount _ _ opened settled exact =>
      have covered := balanced.covers opened.entry_mem
      have whole : amount = old.bytes + old.inFlight :=
        exact (Nat.le_trans covered (Nat.le_trans bounded balanced.limited))
      refine ⟨balanced.replaced opened rfl bounded ?_ (by simp [Owner.adds]), rfl⟩
      rw [← whole]
      rfl
  | shrunk opened smaller =>
      refine ⟨balanced.replaced opened rfl bounded ?_ (by simp [Owner.adds]), rfl⟩
      simp only [Owner.bytes, Owner.inFlight]
      omega
  | @subtracted _ bytes released _ _ opened =>
      have covered := balanced.covers opened.entry_mem
      simp only [Owner.bytes, Owner.inFlight] at covered
      have used := MemoryBudgetInner.fetchSub_used (by omega : released ≤ state.inner.used)
      refine ⟨balanced.replaced opened rfl (by omega) ?_ (by simp [Owner.adds]), rfl⟩
      simp only [used, Owner.bytes, Owner.inFlight]
      omega
  | @dropped _ bytes _ _ opened =>
      have before := balanced.opened opened
      simp only [Owner.bytes, Owner.inFlight] at before
      have used := MemoryBudgetInner.fetchSub_used (by omega : bytes ≤ state.inner.used)
      refine ⟨⟨balanced.limited, ?_, ?_, opened.forall_removed balanced.sums⟩, rfl⟩
      · simp only [used, recorded, inFlight, List.map_append, List.sum_append]
        omega
      · simp only [used, MemoryBudgetInner.fetchSub_limit]
        omega

/-- Every reachable state is balanced and has the limit it was created with. -/
theorem balanced_of_run {limit : Nat} (usize : limit ≤ usizeMax)
    {history : List (Transition BudgetState BudgetAction BudgetEvent)} {state : BudgetState}
    (run : budgetMachine.Run (.new limit) history state)
    : state.Balanced ∧ state.inner.limit = limit := by
  refine run.invariant (fun state => state.Balanced ∧ state.inner.limit = limit) ?_ ?_
  · exact ⟨⟨usize, rfl, Nat.zero_le limit, by simp [BudgetState.new]⟩, rfl⟩
  · rintro before action after events ⟨balanced, same⟩ taken
    obtain ⟨kept, limit⟩ := balanced.step taken
    exact ⟨kept, limit.trans same⟩

-----------------------------------------------------------------------------------------
-- The watermark is the largest value the counter has had
-----------------------------------------------------------------------------------------

/-- A value is accounted for when the watermark has reached it or a pending `fetch_max` will
store at least it.
-/
def BudgetState.Accounted (state : BudgetState) (value : Nat) : Prop :=
  value ≤ state.inner.highWatermark
  ∨ ∃ owner ∈ state.owners, ∃ stored ∈ owner.pendingMax, value ≤ stored

/-- No owner is between its `fetch_update` and its `fetch_max`. -/
def BudgetState.Settled (state : BudgetState) : Prop :=
  ∀ owner ∈ state.owners, owner.pendingMax = none

/-- Accounted values stay accounted when the watermark only rises and each owner keeps its
pending `fetch_max` or executes it.
-/
theorem BudgetState.Accounted.mono {state next : BudgetState} {value : Nat}
    (accounted : state.Accounted value)
    (rises : state.inner.highWatermark ≤ next.inner.highWatermark)
    (kept
      : ∀ owner ∈ state.owners,
          ∀ stored ∈ owner.pendingMax,
            stored ≤ next.inner.highWatermark
            ∨ ∃ owner ∈ next.owners, stored ∈ owner.pendingMax)
    : next.Accounted value := by
  rcases accounted with below | ⟨owner, member, stored, pending, below⟩
  · exact Or.inl (Nat.le_trans below rises)
  · rcases kept owner member stored pending with executed | ⟨later, still, pending⟩
    · exact Or.inl (Nat.le_trans below executed)
    · exact Or.inr ⟨later, still, stored, pending, below⟩

/-- A value below an accounted one is accounted for. -/
theorem BudgetState.Accounted.lower {state : BudgetState} {value smaller : Nat}
    (accounted : state.Accounted value) (below : smaller ≤ value)
    : state.Accounted smaller :=
  accounted.imp (Nat.le_trans below)
    (fun ⟨owner, member, stored, pending, bound⟩ =>
      ⟨owner, member, stored, pending, Nat.le_trans below bound⟩)

/-- Moving one owner keeps values accounted when its pending `fetch_max` is executed. -/
theorem BudgetState.Accounted.moved {state next : BudgetState} {value owner : Nat} {old : Owner}
    {front back : List Owner} (accounted : state.Accounted value)
    (opened : Opened state.owners owner old front back)
    (others : ∀ member ∈ front ++ back, member ∈ next.owners)
    (rises : state.inner.highWatermark ≤ next.inner.highWatermark)
    (executed : ∀ stored ∈ old.pendingMax, stored ≤ next.inner.highWatermark)
    : next.Accounted value := by
  refine accounted.mono rises ?_
  intro member listed stored pending
  rw [opened.whole] at listed
  rcases List.mem_append.mp listed with before | after
  · exact Or.inr ⟨member, others member (List.mem_append_left _ before), pending⟩
  · rcases List.mem_cons.mp after with rfl | later
    · exact Or.inl (executed stored pending)
    · exact Or.inr ⟨member, others member (List.mem_append_right _ later), pending⟩

/-- So does replacing it. -/
theorem BudgetState.Accounted.replaced {state : BudgetState} {value owner : Nat}
    {old : Owner} {front back : List Owner} (accounted : state.Accounted value)
    (opened : Opened state.owners owner old front back) (new : Owner) (inner : MemoryBudgetInner)
    (rises : state.inner.highWatermark ≤ inner.highWatermark)
    (executed : ∀ stored ∈ old.pendingMax, stored ≤ inner.highWatermark)
    : BudgetState.Accounted { inner, owners := front ++ new :: back } value := by
  refine accounted.moved opened ?_ rises executed
  intro member listed
  rcases List.mem_append.mp listed with before | later
  · exact List.mem_append_left _ before
  · exact List.mem_append_right _ (List.mem_cons_of_mem _ later)

/-- One instruction keeps every accounted value accounted. Witness: the view's cases; only a
`fetch_max` removes a pending sum, and it stores it.
-/
theorem BudgetState.Accounted.step {state next : BudgetState} {action : BudgetAction}
    {events : List BudgetEvent} {value : Nat} (accounted : state.Accounted value)
    (balanced : state.Balanced) (taken : state.step action = some (next, events))
    : next.Accounted value := by
  cases stepped_of_step balanced.limited taken with
  | reserved =>
      refine accounted.mono (Nat.le_refl _) ?_
      exact fun owner member stored pending => Or.inr ⟨owner, by simp [member], pending⟩
  | reserveRefused | growRefused => exact accounted
  | maxed opened pending =>
      refine accounted.replaced opened _ _ (Nat.le_max_left _ _) ?_
      intro stored found
      obtain rfl := Option.some.inj (pending.symm.trans found)
      exact Nat.le_max_right _ _
  | recorded opened settled =>
      exact accounted.replaced opened _ _ (Nat.le_refl _) (by simp [settled])
  | grew opened | shrunk opened | subtracted opened =>
      exact accounted.replaced opened _ _ (Nat.le_refl _) (by simp [Owner.pendingMax])
  | dropped opened =>
      refine accounted.moved opened ?_ (Nat.le_refl _) (by simp [Owner.pendingMax])
      exact fun member listed => listed

/-- One instruction leaves its own counter accounted for. Witness: an acquisition adds the
pending sum that is the new counter; any other instruction does not raise the counter.
-/
theorem BudgetState.Balanced.accounts {state next : BudgetState} {action : BudgetAction}
    {events : List BudgetEvent} (balanced : state.Balanced)
    (taken : state.step action = some (next, events))
    (accounted : state.Accounted state.inner.used)
    : next.Accounted next.inner.used := by
  have kept := accounted.step balanced taken
  have within {amount : Nat} (fits : state.inner.used + amount ≤ state.inner.limit)
      : state.inner.used + amount ≤ wrappingAdd state.inner.used amount :=
    Nat.le_of_eq (wrappingAdd_eq (Nat.le_trans fits balanced.limited)).symm
  cases stepped_of_step balanced.limited taken with
  | reserved fits =>
      exact Or.inr ⟨_, List.mem_append_right _ (List.mem_singleton_self _), _, rfl, within fits⟩
  | grew opened fits =>
      exact Or.inr ⟨_, List.mem_append_right _ List.mem_cons_self, _, rfl, within fits⟩
  | reserveRefused | growRefused | maxed | recorded | shrunk => exact kept
  | @subtracted _ bytes released _ _ opened =>
      have covered := balanced.covers opened.entry_mem
      simp only [Owner.bytes, Owner.inFlight] at covered
      have used := MemoryBudgetInner.fetchSub_used (by omega : released ≤ state.inner.used)
      exact kept.lower (by simp only [used]; omega)
  | @dropped _ bytes front back opened =>
      have covered := balanced.covers opened.entry_mem
      simp only [Owner.bytes, Owner.inFlight] at covered
      have used := MemoryBudgetInner.fetchSub_used (by omega : bytes ≤ state.inner.used)
      exact kept.lower (by simp only [used]; omega)

/-- The counter had this value in some state of the run. -/
def UsedWas (start : BudgetState)
    (history : List (Transition BudgetState BudgetAction BudgetEvent)) (value : Nat)
    : Prop :=
  ∃ visited ∈ statesOf start history, visited.inner.used = value

/-- The watermark and every pending sum are such values. -/
structure BudgetState.Drawn (was : Nat → Prop) (state : BudgetState) : Prop where
  watermark : was state.inner.highWatermark
  pending : ∀ owner ∈ state.owners, ∀ stored ∈ owner.pendingMax, was stored

/-- One instruction draws on the counter it leaves and on what was drawn before. Witness: the
view's cases; a `fetch_max` stores a pending sum, and a new pending sum is the counter that the
acquisition leaves.
-/
theorem BudgetState.Drawn.step {was : Nat → Prop} {state next : BudgetState}
    {action : BudgetAction} {events : List BudgetEvent} (drawn : state.Drawn was)
    (balanced : state.Balanced) (taken : state.step action = some (next, events))
    (newest : was next.inner.used)
    : next.Drawn was := by
  obtain ⟨watermark, pending⟩ := drawn
  cases stepped_of_step balanced.limited taken with
  | reserved fits =>
      refine ⟨watermark, ?_⟩
      intro owner member stored found
      rcases List.mem_append.mp member with old | new
      · exact pending owner old stored found
      · obtain rfl := List.mem_singleton.mp new
        obtain rfl := Option.some.inj found
        rw [wrappingAdd_eq (Nat.le_trans fits balanced.limited)]
        exact newest
  | grew opened fits =>
      refine ⟨watermark, opened.forall_replaced pending ?_⟩
      intro stored found
      obtain rfl := Option.some.inj found
      rw [wrappingAdd_eq (Nat.le_trans fits balanced.limited)]
      exact newest
  | maxed opened stored settled =>
      refine ⟨?_, opened.forall_replaced pending (by simp [settled])⟩
      rw [MemoryBudgetInner.fetchMax_highWatermark]
      rcases Nat.le_total state.inner.highWatermark _ with rises | stays
      · rw [Nat.max_eq_right rises]
        exact pending _ opened.entry_mem _ stored
      · rw [Nat.max_eq_left stays]
        exact watermark
  | recorded opened | shrunk opened | subtracted opened =>
      exact ⟨watermark, opened.forall_replaced pending (by simp [Owner.pendingMax])⟩
  | dropped opened => exact ⟨watermark, opened.forall_removed pending⟩
  | reserveRefused | growRefused => exact ⟨watermark, pending⟩

/-- Every state's counter is accounted for at the end of the run, and the watermark and every
pending sum are values the counter has had. Witness: induction over the run.
-/
theorem watermark_of_run {limit : Nat} (usize : limit ≤ usizeMax)
    {history : List (Transition BudgetState BudgetAction BudgetEvent)} {state : BudgetState}
    (run : budgetMachine.Run (.new limit) history state)
    : (∀ visited ∈ statesOf (.new limit) history, state.Accounted visited.inner.used)
      ∧ state.Drawn (UsedWas (.new limit) history) := by
  induction run with
  | start =>
      refine ⟨?_, ⟨_, List.mem_singleton_self _, rfl⟩, by simp [BudgetState.new]⟩
      intro visited member
      obtain rfl := List.mem_singleton.mp member
      exact Or.inl (Nat.le_refl _)
  | @step history state action events next run taken ih =>
      obtain ⟨accounted, watermark, pending⟩ := ih
      obtain ⟨balanced, -⟩ := balanced_of_run usize run
      have older {value} (was : UsedWas (.new limit) history value)
          : UsedWas (.new limit) (history ++ [⟨state, action, events, next⟩]) value := by
        obtain ⟨visited, member, same⟩ := was
        exact ⟨visited, by simp [statesOf_append, member], same⟩
      have newest : UsedWas (.new limit) (history ++ [⟨state, action, events, next⟩])
          next.inner.used :=
        ⟨next, by simp [statesOf_append], rfl⟩
      have drawn
          : state.Drawn (UsedWas (.new limit) (history ++ [⟨state, action, events, next⟩])) :=
        ⟨older watermark, fun owner member stored found =>
          older (pending owner member stored found)⟩
      refine ⟨?_, drawn.step balanced taken newest⟩
      intro visited member
      rw [statesOf_append] at member
      rcases List.mem_append.mp member with old | new
      · exact (accounted visited old).step balanced taken
      · obtain rfl := List.mem_singleton.mp new
        exact balanced.accounts taken (accounted state run.last_mem)

-----------------------------------------------------------------------------------------
-- The budget as a whole
-----------------------------------------------------------------------------------------

/-- The outcome of an acquisition is decided by the counter at its `fetch_update`: it succeeds
exactly when the bytes fit, and a refused one changes nothing.
-/
structure BudgetState.AcquiresExactly (state : BudgetState) (action : BudgetAction)
    (requested : Nat)
    : Prop where
  granted
    : state.inner.used + requested ≤ state.inner.limit
      ↔ ∃ next,
          state.step action = some (next, [.acquired requested])
          ∧ next.inner.used = state.inner.used + requested
  refused
    : ¬ state.inner.used + requested ≤ state.inner.limit
      ↔ ∃ error, state.step action = some (state, [.refused error])

/-- What holds of a budget of `limit` bytes after any run of its owners. -/
structure Conserved (limit : Nat)
    (history : List (Transition BudgetState BudgetAction BudgetEvent)) (state : BudgetState)
    : Prop where
  exact : state.inner.used = state.recorded + state.inFlight
  bounded : state.inner.used ≤ limit
  noUnderflow
    : ∀ owner ∈ state.owners, ∀ bytes ∈ owner.subtracts, bytes ≤ state.inner.used
  noOverflow : ∀ owner ∈ state.owners, ∀ sum ∈ owner.adds, sum.1 + sum.2 ≤ usizeMax
  reserves : ∀ bytes ≤ usizeMax, state.AcquiresExactly (.tryReserve bytes) bytes
  grows
    : ∀ owner bytes additional,
        state.owners[owner]? = some (.live bytes)
        → additional ≤ usizeMax
        → state.AcquiresExactly (.tryGrow owner additional) additional
  watermark
    : state.Settled
      → UsedWas (.new limit) history state.inner.highWatermark
        ∧ ∀ visited ∈ statesOf (.new limit) history,
            visited.inner.used ≤ state.inner.highWatermark
  emptied : state.owners = [] → state.inner.used = 0

/-- `fetch_update` decides every `try_reserve` and `try_grow`. Witness: the two cases of
`fetchUpdate`; neither outcome is possible in the other case.
-/
theorem BudgetState.Balanced.acquiresExactly {state : BudgetState} (balanced : state.Balanced)
    {action : BudgetAction} {requested : Nat} (granted : MemoryBudgetInner × Nat → BudgetState)
    (decided
      : state.step action
        = match state.inner.fetchUpdate requested with
          | .ok acquired => some (granted acquired, [.acquired requested])
          | .error error => some (state, [.refused error]))
    (recorded : ∀ acquired, (granted acquired).inner = acquired.1)
    : state.AcquiresExactly action requested := by
  by_cases fits : state.inner.used + requested ≤ state.inner.limit
  · rw [MemoryBudgetInner.fetchUpdate_of_fits balanced.limited fits] at decided
    refine ⟨⟨fun _ => ⟨_, decided, by simp [recorded]⟩, fun _ => fits⟩,
      ⟨fun exceeds => absurd fits exceeds, fun ⟨error, taken⟩ => ?_⟩⟩
    rw [decided] at taken
    simp at taken
  · rw [MemoryBudgetInner.fetchUpdate_of_exceeds (Nat.lt_of_not_le fits)] at decided
    refine ⟨⟨fun within => absurd within fits, fun ⟨next, taken, _⟩ => ?_⟩,
      ⟨fun _ => ⟨_, decided⟩, fun _ => fits⟩⟩
    rw [decided] at taken
    simp at taken

/-- The budget is conserved under every interleaving of `try_reserve`, `try_grow`, `shrink_to`
and `drop` on any number of reservations, for every `usize` limit.
-/
theorem memoryBudget_conserved {limit : Nat} (usize : limit ≤ usizeMax)
    {history : List (Transition BudgetState BudgetAction BudgetEvent)} {state : BudgetState}
    (run : budgetMachine.Run (.new limit) history state)
    : Conserved limit history state := by
  obtain ⟨balanced, same⟩ := balanced_of_run usize run
  obtain ⟨accounted, drawn⟩ := watermark_of_run usize run
  refine {
    exact := balanced.exact
    bounded := same ▸ balanced.bounded
    noUnderflow := ?_
    noOverflow := ?_
    reserves := ?_
    grows := ?_
    watermark := ?_
    emptied := ?_
  }
  · intro owner member bytes subtracted
    refine Nat.le_trans ?_ (balanced.covers member)
    cases owner <;> simp_all [Owner.subtracts, Owner.bytes, Owner.inFlight]
  · intro owner member sum added
    exact Nat.le_trans (balanced.sums owner member sum added) balanced.limited
  · intro bytes machine
    refine balanced.acquiresExactly
      (fun acquired =>
        { inner := acquired.1, owners := state.owners ++ [.reserving bytes acquired.2] })
      ?_ (fun _ => rfl)
    simp only [BudgetState.step, if_pos machine]
    cases state.inner.fetchUpdate bytes <;> rfl
  · intro owner bytes additional found machine
    refine balanced.acquiresExactly
      (fun acquired =>
        { inner := acquired.1,
          owners := state.owners.set owner (.growing bytes additional acquired.2) })
      ?_ (fun _ => rfl)
    simp only [BudgetState.step, found, if_pos machine]
    cases state.inner.fetchUpdate additional <;> rfl
  · intro settled
    refine ⟨drawn.watermark, fun visited member => ?_⟩
    rcases accounted visited member with below | ⟨owner, listed, stored, pending, -⟩
    · exact below
    · exact absurd (settled owner listed) (by simp_all)
  · intro empty
    have exact := balanced.exact
    simpa [BudgetState.recorded, BudgetState.inFlight, empty] using exact

/-- A run with a grown, a refused and a half-shrunk reservation under a limit of ten bytes. -/
def tenByteSchedule : List BudgetAction :=
  [.tryReserve 6, .fetchMax 0, .record 0, .tryGrow 0 4, .tryReserve 1, .fetchMax 0,
    .record 0, .shrinkTo 0 2]

theorem memoryBudget_conserved_tenBytes
    : ∃ history state,
        budgetMachine.exec (.new 10) tenByteSchedule = some (history, state)
        ∧ Conserved 10 history state := by
  have ran : (budgetMachine.exec (.new 10) tenByteSchedule).isSome := by decide
  obtain ⟨⟨history, state⟩, executed⟩ := Option.isSome_iff_exists.mp ran
  exact ⟨history, state, executed, memoryBudget_conserved (by decide) (exec_run executed)⟩

end ProxyClient.Memory
