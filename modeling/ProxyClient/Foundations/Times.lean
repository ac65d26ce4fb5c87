import Mathlib.Data.List.Basic

/-! Times as natural numbers: how a duration is rounded to whole units, how many times that are
at least a gap apart fit into a window, and when a queue that is served in order begins its items.
-/

namespace ProxyClient.Foundations

-----------------------------------------------------------------------------------------
-- Rounding to the nearest quotient
-----------------------------------------------------------------------------------------

/-- The quotient nearest to `dividend / divisor`, and the even one of two, as the floating-point
conversions of durations round.
-/
def roundEven (dividend divisor : Nat) : Nat :=
  let below := dividend / divisor
  let rest := dividend % divisor
  if 2 * rest < divisor then below
  else if divisor < 2 * rest then below + 1
  else below + below % 2

section Rounding

variable {dividend other divisor quotient : Nat}

theorem div_le_roundEven : dividend / divisor ≤ roundEven dividend divisor := by
  unfold roundEven
  dsimp only
  split
  · exact Nat.le_refl _
  · split <;> omega

theorem roundEven_le_succ_div : roundEven dividend divisor ≤ dividend / divisor + 1 := by
  unfold roundEven
  dsimp only
  split
  · omega
  · split <;> omega

/-- A multiple below the dividend is below the rounded quotient. -/
theorem le_roundEven (positive : 0 < divisor) (below : quotient * divisor ≤ dividend)
    : quotient ≤ roundEven dividend divisor :=
  Nat.le_trans ((Nat.le_div_iff_mul_le positive).mpr below) div_le_roundEven

/-- A multiple above the dividend is above the rounded quotient. -/
theorem roundEven_le (positive : 0 < divisor) (above : dividend ≤ quotient * divisor)
    : roundEven dividend divisor ≤ quotient := by
  have whole := Nat.div_add_mod dividend divisor
  by_cases exactly : dividend / divisor < quotient
  · exact Nat.le_trans roundEven_le_succ_div exactly
  · have least : divisor * quotient ≤ divisor * (dividend / divisor) :=
      Nat.mul_le_mul_left _ (Nat.not_lt.mp exactly)
    rw [Nat.mul_comm quotient divisor] at above
    have rest : dividend % divisor = 0 := by omega
    have same : dividend / divisor ≤ quotient := by
      apply Nat.div_le_of_le_mul
      rw [Nat.mul_comm divisor]
      rwa [Nat.mul_comm divisor] at above
    unfold roundEven
    dsimp only
    rw [rest, if_pos (by omega)]
    exact same

end Rounding

-----------------------------------------------------------------------------------------
-- Times that are at least a gap apart
-----------------------------------------------------------------------------------------

/-- Each time is at least a gap after all the times before it. -/
def Spaced (gap : Nat) (times : List Nat) : Prop :=
  times.Pairwise fun earlier later => earlier + gap ≤ later

section Spaced

variable {gap first last time : Nat} {times : List Nat}

theorem spaced_nil : Spaced gap [] := .nil

/-- A time after all the others. -/
theorem Spaced.concat (spaced : Spaced gap times) (after : ∀ earlier ∈ times, earlier + gap ≤ time)
    : Spaced gap (times ++ [time]) := by
  refine List.pairwise_append.mpr ⟨spaced, List.pairwise_singleton _ _, ?_⟩
  intro earlier listed later here
  obtain rfl := List.mem_singleton.mp here
  exact after earlier listed

/-- The gaps between the times of a window fit into it, by induction over the times. -/
theorem Spaced.fits (spaced : Spaced gap times) (lower : ∀ time ∈ times, first ≤ time)
    (upper : ∀ time ∈ times, time ≤ last)
    : times.length * gap ≤ last - first + gap := by
  induction times generalizing first with
  | nil => simp
  | cons time rest ih =>
      obtain ⟨after, spaced⟩ := List.pairwise_cons.mp spaced
      have from' : first ≤ time := lower time List.mem_cons_self
      have within : time ≤ last := upper time List.mem_cons_self
      cases rest with
      | nil => simp
      | cons next rest =>
          have until' : next ≤ last := upper next (by simp)
          have apart : time + gap ≤ next := after next List.mem_cons_self
          have later := ih spaced after fun other listed =>
            upper other (List.mem_cons_of_mem _ listed)
          rw [List.length_cons, Nat.succ_mul]
          omega

/-- Any window of a spaced list is spaced. -/
theorem Spaced.window (spaced : Spaced gap times) (keeps : Nat → Bool)
    : Spaced gap (times.filter keeps) :=
  List.Pairwise.filter keeps spaced

end Spaced

-----------------------------------------------------------------------------------------
-- Deadlines of a queue
-----------------------------------------------------------------------------------------

/-- Every item of a queue is begun by its deadline: the first one when the server is free, and each
other one at most a pace after the one in front of it.
-/
def InTime (pace : Nat) : Nat → List Nat → Prop
  | _, [] => True
  | free, deadline :: rest => free ≤ deadline ∧ InTime pace (free + pace) rest

section InTime

variable {pace free sooner deadline index : Nat} {deadlines : List Nat}

theorem inTime_nil : InTime pace free [] := trivial

/-- A server that is free sooner is still in time. -/
theorem InTime.mono (inTime : InTime pace free deadlines) (less : sooner ≤ free)
    : InTime pace sooner deadlines := by
  induction deadlines generalizing sooner free with
  | nil => trivial
  | cons deadline rest ih =>
      exact ⟨Nat.le_trans less inTime.1, ih inTime.2 (Nat.add_le_add_right less pace)⟩

/-- The first item is begun, and the others move up. -/
theorem InTime.next (inTime : InTime pace free deadlines)
    : InTime pace (free + pace) deadlines.tail := by
  cases deadlines with
  | nil => trivial
  | cons deadline rest => exact inTime.2

/-- An item joins the queue behind all the others. -/
theorem InTime.concat (inTime : InTime pace free deadlines)
    (last : free + deadlines.length * pace ≤ deadline)
    : InTime pace free (deadlines ++ [deadline]) := by
  induction deadlines generalizing free with
  | nil => exact ⟨by simpa using last, trivial⟩
  | cons first rest ih =>
      refine ⟨inTime.1, ih inTime.2 ?_⟩
      rw [List.length_cons, Nat.succ_mul] at last
      omega

/-- No deadline of a queue is over before its server is free. -/
theorem InTime.free_le (inTime : InTime pace free deadlines)
    (listed : deadlines[index]? = some deadline)
    : free ≤ deadline := by
  induction deadlines generalizing free index with
  | nil => simp at listed
  | cons first rest ih =>
      cases index with
      | zero =>
          obtain rfl := Option.some.inj listed
          exact inTime.1
      | succ index =>
          have later := ih inTime.2 (by simpa using listed)
          omega

end InTime

end ProxyClient.Foundations
