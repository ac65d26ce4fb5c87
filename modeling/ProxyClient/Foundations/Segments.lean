import Mathlib.Data.List.DropRight

/-! The ends of texts. An absolute path is a list of segments, each behind one separator, and
trimming, suffixes and trailing separators of the text are operations on the last segments. A
text trimmed at both ends has nothing left to trim.
-/

namespace ProxyClient.Foundations

section Segments

variable {α : Type} {slash : α}

/-- The path of some segments. -/
def joined (slash : α) (segments : List (List α)) : List α := segments.flatMap (slash :: ·)

@[simp] theorem joined_nil : joined slash [] = [] := rfl

theorem joined_append {front back : List (List α)}
    : joined slash (front ++ back) = joined slash front ++ joined slash back :=
  List.flatMap_append

theorem joined_concat {front : List (List α)} {last : List α}
    : joined slash (front ++ [last]) = joined slash front ++ slash :: last := by
  rw [joined_append]
  simp [joined]

/-- A path whose last segment is empty ends in a separator. -/
theorem joined_concat_nil {front : List (List α)}
    : joined slash (front ++ [[]]) = joined slash front ++ [slash] :=
  joined_concat

/-- Every text that starts with a separator is a path, by induction over the text. -/
theorem exists_joined [DecidableEq α] (text : List α)
    : ∃ segments : List (List α),
        segments ≠ []
        ∧ slash :: text = joined slash segments
        ∧ ∀ segment ∈ segments, slash ∉ segment ∧ ∀ item ∈ segment, item ∈ text := by
  induction text with
  | nil => exact ⟨[[]], by simp, rfl, by simp⟩
  | cons item text ih =>
      obtain ⟨segments, some, same, free⟩ := ih
      cases segments with
      | nil => exact absurd rfl some
      | cons first rest =>
          have tail : text = first ++ joined slash rest := List.cons.inj same |>.2
          by_cases separator : item = slash
          · subst separator
            refine ⟨[] :: first :: rest, by simp, by rw [same]; rfl, ?_⟩
            intro segment listed
            rcases List.mem_cons.mp listed with rfl | listed
            · simp
            · obtain ⟨noSlash, inside⟩ := free segment listed
              exact ⟨noSlash, fun item listed => List.mem_cons_of_mem _ (inside item listed)⟩
          · refine ⟨(item :: first) :: rest, by simp, by rw [tail]; rfl, ?_⟩
            intro segment listed
            rcases List.mem_cons.mp listed with rfl | listed
            · obtain ⟨noSlash, inside⟩ := free first List.mem_cons_self
              refine ⟨?_, ?_⟩
              · intro absent
                rcases List.mem_cons.mp absent with same | absent
                · exact separator same.symm
                · exact noSlash absent
              · intro other listed
                rcases List.mem_cons.mp listed with rfl | listed
                · exact List.mem_cons_self
                · exact List.mem_cons_of_mem _ (inside other listed)
            · obtain ⟨noSlash, inside⟩ := free segment (List.mem_cons_of_mem _ listed)
              exact ⟨noSlash, fun item listed => List.mem_cons_of_mem _ (inside item listed)⟩

/-- Trimming separators at the end drops the empty segments at the end. Witness: induction from
the end.
-/
theorem rdropWhile_joined [DecidableEq α] {segments : List (List α)}
    (free : ∀ segment ∈ segments, slash ∉ segment)
    : (joined slash segments).rdropWhile (fun item => decide (item = slash))
      = joined slash (segments.rdropWhile List.isEmpty) := by
  induction segments using List.reverseRecOn with
  | nil => simp
  | append_singleton front last ih =>
      have earlier := ih fun segment listed => free segment (List.mem_append_left _ listed)
      have noSlash := free last (List.mem_append_right _ List.mem_cons_self)
      rcases List.eq_nil_or_concat last with rfl | ⟨start, item, rfl⟩
      · rw [joined_concat_nil, List.rdropWhile_concat_pos _ _ _ (by simp), earlier,
          List.rdropWhile_concat_pos _ _ _ rfl]
      · rw [List.concat_eq_append] at noSlash ⊢
        have other : item ≠ slash := by
          rintro rfl
          exact noSlash (by simp)
        rw [List.rdropWhile_concat_neg _ front _ (by simp), joined_concat]
        have text : joined slash front ++ slash :: (start ++ [item])
            = (joined slash front ++ slash :: start) ++ [item] := by
          simp
        rw [text, List.rdropWhile_concat_neg _ _ _ (by simpa using other)]

/-- The last segment of a text and what stands before it are determined by the text. -/
theorem last_segment_inj {before before' last last' : List α} (noSlash : slash ∉ last)
    (noSlash' : slash ∉ last') (same : before ++ slash :: last = before' ++ slash :: last')
    : before = before' ∧ last = last' := by
  rcases List.append_eq_append_iff.mp same with ⟨more, rfl, rest⟩ | ⟨more, rfl, rest⟩
  · cases more with
    | nil => exact ⟨by simp, (List.cons.inj rest).2⟩
    | cons item more =>
        have inside : last = more ++ slash :: last' := (List.cons.inj rest).2
        exact absurd (inside ▸ by simp) noSlash
  · cases more with
    | nil => exact ⟨by simp, ((List.cons.inj rest).2).symm⟩
    | cons item more =>
        have inside : last' = more ++ slash :: last := (List.cons.inj rest).2
        exact absurd (inside ▸ by simp) noSlash'

/-- A path ends in a separator and one more segment exactly when that is its last segment. -/
theorem suffix_joined_iff {segments : List (List α)} {last : List α}
    (free : ∀ segment ∈ segments, slash ∉ segment) (noSlash : slash ∉ last)
    : (slash :: last) <:+ joined slash segments ↔ ∃ front, segments = front ++ [last] := by
  constructor
  · intro suffix
    rcases List.eq_nil_or_concat segments with rfl | ⟨front, found, rfl⟩
    · have short := suffix.length_le
      simp at short
    · refine ⟨front, ?_⟩
      obtain ⟨before, same⟩ := suffix
      rw [List.concat_eq_append] at free same ⊢
      rw [joined_concat] at same
      have found' := free found (List.mem_append_right _ List.mem_cons_self)
      rw [(last_segment_inj noSlash found' same).2]
  · rintro ⟨front, rfl⟩
    rw [joined_concat]
    exact List.suffix_append _ _

end Segments

-----------------------------------------------------------------------------------------
-- Lists trimmed at both ends
-----------------------------------------------------------------------------------------

section Trimmed

variable {α : Type} (selects : α → Bool) (items : List α)

/-- What is left of a list when the selected items at its ends are dropped. -/
def trimmed : List α := (items.dropWhile selects).rdropWhile selects

/-- A trimmed list does not begin with a selected item. -/
theorem dropWhile_trimmed : (trimmed selects items).dropWhile selects = trimmed selects items := by
  apply List.dropWhile_eq_self_iff.mpr
  intro some
  have begins : trimmed selects items <+: items.dropWhile selects := List.rdropWhile_prefix _ _
  have same := begins.getElem some
  rw [same]
  exact List.dropWhile_get_zero_not selects items (Nat.lt_of_lt_of_le some begins.length_le)

/-- Nothing is left to trim. -/
@[simp] theorem trimmed_trimmed
    : trimmed selects (trimmed selects items) = trimmed selects items := by
  have front := dropWhile_trimmed selects items
  unfold trimmed at front ⊢
  rw [front, List.rdropWhile_idempotent]

end Trimmed

end ProxyClient.Foundations
