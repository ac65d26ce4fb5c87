import Mathlib.Algebra.Ring.Nat

/-! Sums that must fit into a machine word, and the bytes of UTF-8 text.
A length is often computed before a text is built, class by class over its bytes; these are
the rules that relate such a sum to the text.
-/

namespace ProxyClient.Foundations

-----------------------------------------------------------------------------------------
-- Sums within a bound
-----------------------------------------------------------------------------------------

/-- Addition that fails beyond `max`. -/
def addWithin (max left right : Nat) : Option Nat :=
  if left + right ≤ max then some (left + right) else none

theorem addWithin_eq_some {max left right sum : Nat}
    : addWithin max left right = some sum ↔ left + right = sum ∧ sum ≤ max := by
  unfold addWithin
  split
  · next fits =>
      constructor
      · intro same
        obtain rfl := Option.some.inj same
        exact ⟨rfl, fits⟩
      · rintro ⟨rfl, -⟩
        rfl
  · next exceeds =>
      constructor
      · intro absent
        cases absent
      · rintro ⟨rfl, fits⟩
        exact absurd fits exceeds

/-- The checked sum of the items' costs is their sum, if that fits. Witness: induction over
the items, with the sum so far in front.
-/
theorem foldlM_addWithin {α : Type} {max start sum : Nat} {cost : α → Nat} {items : List α}
    (within : start ≤ max)
    : items.foldlM (fun length item => addWithin max length (cost item)) start = some sum
      ↔ start + (items.map cost).sum = sum ∧ sum ≤ max := by
  induction items generalizing start with
  | nil =>
      constructor
      · intro same
        obtain rfl : start = sum := Option.some.inj same
        exact ⟨rfl, within⟩
      · rintro ⟨same, -⟩
        exact congrArg some same
  | cons item rest ih =>
      simp only [List.foldlM_cons, List.map_cons, List.sum_cons, Option.bind_eq_bind,
        Option.bind_eq_some_iff]
      constructor
      · rintro ⟨middle, first, later⟩
        obtain ⟨rfl, fits⟩ := addWithin_eq_some.mp first
        obtain ⟨total, bounded⟩ := (ih fits).mp later
        exact ⟨by omega, bounded⟩
      · rintro ⟨total, bounded⟩
        have fits : start + cost item ≤ max := by omega
        exact ⟨_, addWithin_eq_some.mpr ⟨rfl, fits⟩, (ih fits).mpr ⟨by omega, bounded⟩⟩

/-- Items that cost at most `most` each, by induction over them. -/
theorem sum_map_le {α : Type} {most : Nat} {cost : α → Nat} (each : ∀ item, cost item ≤ most)
    (items : List α)
    : (items.map cost).sum ≤ items.length * most := by
  induction items with
  | nil => exact Nat.zero_le _
  | cons item rest ih =>
      have first := each item
      rw [List.map_cons, List.sum_cons, List.length_cons, Nat.succ_mul]
      omega

-----------------------------------------------------------------------------------------
-- The bytes of a text
-----------------------------------------------------------------------------------------

/-- The bytes of a text are those of its characters. -/
theorem toByteArray_eq_flatMap (text : String)
    : text.toByteArray.data.toList = text.toList.flatMap String.utf8EncodeChar := by
  have same : text.toByteArray = text.toList.utf8Encode := by
    rw [← String.toByteArray_ofList, String.ofList_toList]
  rw [same]
  simp [List.utf8Encode]

/-- A character of seven bits is its own byte. -/
theorem utf8EncodeChar_ascii {char : Char} (ascii : char.toNat ≤ 0x7f)
    : String.utf8EncodeChar char = [UInt8.ofNat char.toNat] := by
  have here : char.val.toNat ≤ 0x7f := ascii
  exact if_pos here

/-- Every byte of a wider character is beyond the seven-bit ones. -/
theorem le_of_mem_utf8EncodeChar {char : Char} {byte : UInt8} (wide : 0x7f < char.toNat)
    (listed : byte ∈ String.utf8EncodeChar char)
    : 0x80 ≤ byte.toNat := by
  have wide' : ¬ char.val.toNat ≤ 0x7f := Nat.not_le.mpr wide
  have beyond (low base : Nat) (upper : low + base ≤ 255) (high : 0x80 ≤ base)
      : 0x80 ≤ (UInt8.ofNat (low + base)).toNat := by
    rw [UInt8.toNat_ofNat']
    omega
  unfold String.utf8EncodeChar at listed
  simp only [if_neg wide'] at listed
  split at listed
  · simp only [List.mem_cons, List.not_mem_nil, or_false] at listed
    rcases listed with rfl | rfl <;> exact beyond _ _ (by omega) (by omega)
  · split at listed
    · simp only [List.mem_cons, List.not_mem_nil, or_false] at listed
      rcases listed with rfl | rfl | rfl <;> exact beyond _ _ (by omega) (by omega)
    · simp only [List.mem_cons, List.not_mem_nil, or_false] at listed
      rcases listed with rfl | rfl | rfl | rfl <;> exact beyond _ _ (by omega) (by omega)

/-- What holds of every item of a list that is written out, by running through the list rather
than through the type.
-/
theorem forall_mem_of_all {α : Type} {list : List α} {P : α → Prop} [DecidablePred P]
    (all : list.all (fun item => decide (P item)) = true)
    : ∀ item ∈ list, P item := by
  intro item listed
  exact of_decide_eq_true (List.all_eq_true.mp all item listed)

/-- The size of a list of characters, as text. -/
theorem utf8ByteSize_ofList (chars : List Char)
    : (String.ofList chars).utf8ByteSize = (chars.map Char.utf8Size).sum := by
  induction chars with
  | nil => rfl
  | cons char rest ih =>
      have split : String.ofList (char :: rest) = String.singleton char ++ String.ofList rest := by
        rw [← String.toList_inj]
        simp
      rw [split, String.utf8ByteSize_append, ih, String.utf8ByteSize_singleton, List.map_cons,
        List.sum_cons]

/-- A text of seven-bit characters has as many bytes as characters. -/
theorem utf8ByteSize_ascii {chars : List Char} (ascii : ∀ char ∈ chars, char.toNat ≤ 0x7f)
    : (String.ofList chars).utf8ByteSize = chars.length := by
  rw [utf8ByteSize_ofList]
  induction chars with
  | nil => rfl
  | cons char rest ih =>
      have one : char.utf8Size = 1 := Char.utf8Size_eq_one_iff.mpr (ascii char List.mem_cons_self)
      have later := ih fun other listed => ascii other (List.mem_cons_of_mem _ listed)
      rw [List.map_cons, List.sum_cons, later, one, List.length_cons, Nat.add_comm]

/-- When an encoding of characters costs what their bytes cost one by one, the encoded text
does too. Witness: induction over the characters.
-/
theorem utf8ByteSize_flatMap {encode : Char → List Char} {cost : UInt8 → Nat}
    (agree
      : ∀ char,
          ((encode char).map Char.utf8Size).sum
            = ((String.utf8EncodeChar char).map cost).sum)
    (text : String)
    : (String.ofList (text.toList.flatMap encode)).utf8ByteSize
      = (text.toByteArray.data.toList.map cost).sum := by
  rw [toByteArray_eq_flatMap, utf8ByteSize_ofList]
  induction text.toList with
  | nil => rfl
  | cons char rest ih =>
      simp only [List.flatMap_cons, List.map_append, List.sum_append, ih, agree]

-----------------------------------------------------------------------------------------
-- Decimal numbers
-----------------------------------------------------------------------------------------

/-- A decimal number has one byte for each digit. -/
theorem utf8ByteSize_repr (number : Nat) : number.repr.utf8ByteSize = number.repr.length := by
  have ascii : ∀ char ∈ number.repr.toList, char.toNat ≤ 0x7f := by
    intro char listed
    rw [Nat.toList_repr] at listed
    have digit := Nat.isDigit_of_mem_toDigits (by decide) (by decide) listed
    simp only [Char.isDigit, Bool.and_eq_true, decide_eq_true_eq] at digit
    have upper : char.val.toNat ≤ 57 := digit.2
    exact Nat.le_trans upper (by decide)
  have size := utf8ByteSize_ascii ascii
  rwa [String.ofList_toList, String.length_toList] at size

/-- A number between two powers of ten has one digit more than the lower one. -/
theorem length_repr_eq {number digits : Nat} (lower : digits = 0 ∨ 10 ^ digits ≤ number)
    (upper : number < 10 ^ (digits + 1))
    : number.repr.length = digits + 1 := by
  have most := (Nat.length_repr_le_iff (Nat.succ_pos digits)).mpr upper
  have some := Nat.length_repr_pos (n := number)
  rcases lower with rfl | lower
  · omega
  · rcases Nat.eq_zero_or_pos digits with rfl | positive
    · omega
    · have least : ¬ number.repr.length ≤ digits := fun few =>
        absurd ((Nat.length_repr_le_iff positive).mp few) (Nat.not_lt.mpr lower)
      omega

-----------------------------------------------------------------------------------------
-- Checks in a row
-----------------------------------------------------------------------------------------

section

variable {ε α : Type}

/-- Two checks succeed together. -/
theorem bind_eq_ok {first : Except ε Unit} {rest : Except ε Unit}
    : (first >>= fun _ => rest) = .ok () ↔ first = .ok () ∧ rest = .ok () := by
  cases first with
  | error error => simp [bind, Except.bind]
  | ok => simp [bind, Except.bind]

/-- A list of checks succeeds when each of them does, by induction over the list. -/
theorem forM_eq_ok {check : α → Except ε Unit} {items : List α}
    : items.forM check = .ok () ↔ ∀ item ∈ items, check item = .ok () := by
  induction items with
  | nil => exact iff_of_true rfl fun _ absent => absurd absent List.not_mem_nil
  | cons item items ih =>
      have unfolded : (item :: items).forM check = (check item >>= fun _ => items.forM check) := rfl
      rw [unfolded, bind_eq_ok, ih, List.forall_mem_cons]

end

end ProxyClient.Foundations
