import Mathlib.Data.Option.Basic

/-! JSON objects whose members are texts and natural numbers.
A reader of the grammar for such objects, with all its escapes and its optional blanks, and the
theorem that it reads a compactly written object back, however the grammar lets its characters
be spelt.
-/

namespace ProxyClient.Foundations.Json

/-- The value of a member. -/
inductive Scalar
  | text (content : String)
  | number (value : Nat)
deriving DecidableEq, Repr

/-- The members of an object, in their order. -/
abbrev Members : Type := List (String × Scalar)

-----------------------------------------------------------------------------------------
-- The reader
-----------------------------------------------------------------------------------------

def isBlank (char : Char) : Bool := char == ' ' || char == '\t' || char == '\n' || char == '\r'

/-- Skip the blanks between two tokens. -/
def skipBlanks (text : List Char) : List Char := text.dropWhile isBlank

/-- The character that a letter stands for after a backslash. -/
def shortEscape? (letter : Char) : Option Char :=
  if letter = '"' ∨ letter = '\\' ∨ letter = '/' then some letter
  else if letter = 'b' then some (Char.ofNat 0x08)
  else if letter = 't' then some (Char.ofNat 0x09)
  else if letter = 'n' then some (Char.ofNat 0x0a)
  else if letter = 'f' then some (Char.ofNat 0x0c)
  else if letter = 'r' then some (Char.ofNat 0x0d)
  else none

/-- A hexadecimal digit in either case. -/
def hexValue? (digit : Char) : Option Nat :=
  if 0x30 ≤ digit.toNat ∧ digit.toNat ≤ 0x39 then some (digit.toNat - 0x30)
  else if 0x41 ≤ digit.toNat ∧ digit.toNat ≤ 0x46 then some (digit.toNat - 0x37)
  else if 0x61 ≤ digit.toNat ∧ digit.toNat ≤ 0x66 then some (digit.toNat - 0x57)
  else none

/-- The UTF-16 code unit of a `\u` escape. -/
def codeUnit? (a b c d : Char) : Option Nat := do
  return (((← hexValue? a) * 16 + (← hexValue? b)) * 16 + (← hexValue? c)) * 16 + (← hexValue? d)

/-- The character of a surrogate pair. -/
def surrogates? (high low : Nat) : Option Char :=
  if 0xd800 ≤ high ∧ high < 0xdc00 ∧ 0xdc00 ≤ low ∧ low < 0xe000 then
    some (Char.ofNat (0x10000 + (high - 0xd800) * 0x400 + (low - 0xdc00)))
  else none

/-- A character in front of what has been read. -/
def prepend (char : Char) (read : List Char × List Char) : List Char × List Char :=
  (char :: read.1, read.2)

/-- The content of a string up to its closing quote, and what follows it. -/
def readContent : List Char → Option (List Char × List Char)
  | [] => none
  | char :: rest =>
      if char = '"' then some ([], rest)
      else if char = '\\' then
        match rest with
        | 'u' :: a :: b :: c :: d :: rest =>
            match codeUnit? a b c d with
            | none => none
            | some unit =>
                if Nat.isValidChar unit then (readContent rest).map (prepend (Char.ofNat unit))
                else
                  match rest with
                  | '\\' :: 'u' :: e :: f :: g :: h :: rest =>
                      match (codeUnit? e f g h).bind (surrogates? unit) with
                      | none => none
                      | some char => (readContent rest).map (prepend char)
                  | _ => none
        | letter :: rest =>
            match shortEscape? letter with
            | none => none
            | some char => (readContent rest).map (prepend char)
        | [] => none
      else if char.toNat < 0x20 then none
      else (readContent rest).map (prepend char)

/-- A natural number without leading zeros, and what follows it. -/
def readNumber (text : List Char) : Option (Nat × List Char) :=
  let digits := text.takeWhile Char.isDigit
  if digits = [] ∨ (digits.head? = some '0' ∧ 1 < digits.length) then none
  else some (Nat.ofDigitChars 10 digits 0, text.dropWhile Char.isDigit)

/-- A quoted string, and what follows it. -/
def readString : List Char → Option (String × List Char)
  | '"' :: rest => (readContent rest).map fun (content, rest) => (String.ofList content, rest)
  | _ => none

/-- A member's value, and what follows it. -/
def readScalar (text : List Char) : Option (Scalar × List Char) :=
  match readString text with
  | some (content, rest) => some (.text content, rest)
  | none => (readNumber text).map fun (value, rest) => (.number value, rest)

/-- One member and the blanks around its tokens. -/
def readMember (text : List Char) : Option ((String × Scalar) × List Char) := do
  let (key, rest) ← readString (skipBlanks text)
  match skipBlanks rest with
  | ':' :: rest =>
      let (value, rest) ← readScalar (skipBlanks rest)
      return ((key, value), skipBlanks rest)
  | _ => none

/-- Members up to the closing brace, at most so many. -/
def readMembers : Nat → List Char → Option (Members × List Char)
  | 0, _ => none
  | most + 1, text =>
      match readMember text with
      | some (member, ',' :: rest) =>
          (readMembers most rest).map fun (members, rest) => (member :: members, rest)
      | some (member, '\x7d' :: rest) => some ([member], rest)
      | _ => none

/-- The members of an object that is all of the text. -/
def readObject (text : String) : Option Members :=
  match skipBlanks text.toList with
  | '\x7b' :: rest =>
      match skipBlanks rest with
      | '\x7d' :: rest => if skipBlanks rest = [] then some [] else none
      | rest =>
          (readMembers rest.length rest).bind fun (members, rest) =>
            if skipBlanks rest = [] then some members else none
  | _ => none

example : readObject " \x7b \"a\\u00e9\\ud83d\\ude42\" : \"\\n/\\/\" , \"n\":40 \x7d " =
    some [("aé🙂", .text "\n//"), ("n", .number 40)] := by
  decide +kernel

-----------------------------------------------------------------------------------------
-- The writer
-----------------------------------------------------------------------------------------

/-- A spelling of a character inside a string: itself, a letter after a backslash, or its code
unit.
-/
inductive Spells : List Char → Char → Prop
  | plain {char} (printing : 0x20 ≤ char.toNat) (quote : char ≠ '"') (backslash : char ≠ '\\')
    : Spells [char] char
  | short {letter char} (stands : shortEscape? letter = some char) : Spells ['\\', letter] char
  | unit {a b c d char} (code : codeUnit? a b c d = some char.toNat)
    : Spells ['\\', 'u', a, b, c, d] char

section Writer

variable (spell : Char → List Char)

/-- A quoted string. -/
def writeString (content : String) : List Char := '"' :: content.toList.flatMap spell ++ ['"']

def writeScalar : Scalar → List Char
  | .text content => writeString spell content
  | .number value => (toString value).toList

def writeMember (member : String × Scalar) : List Char :=
  writeString spell member.1 ++ ':' :: writeScalar spell member.2

/-- An object without blanks. -/
def writeObject (members : Members) : String :=
  String.ofList ('\x7b' :: [','].intercalate (members.map (writeMember spell)) ++ ['\x7d'])

end Writer

-----------------------------------------------------------------------------------------
-- What is written is read back
-----------------------------------------------------------------------------------------

/-- However a character is spelt, it is read. -/
theorem readContent_spells {spelt : List Char} {char : Char} (spells : Spells spelt char)
    (rest : List Char)
    : readContent (spelt ++ rest) = (readContent rest).map (prepend char) := by
  cases spells with
  | plain printing quote backslash =>
      have fits : ¬ char.toNat < 0x20 := Nat.not_lt.mpr printing
      rw [List.singleton_append, readContent.eq_def]
      simp only [quote, backslash, fits, if_false]
  | @short letter char stands =>
      have plain : letter ≠ 'u' := by
        intro unit
        simp [unit, shortEscape?] at stands
      simp only [List.cons_append, List.nil_append]
      rw [readContent.eq_def]
      simp [stands, plain]
  | unit code =>
      have valid : Nat.isValidChar char.toNat := char.valid
      simp only [List.cons_append, List.nil_append]
      rw [readContent.eq_def]
      simp [code, valid]

/-- A rest that is no continuation of a number. -/
def Closes (rest : List Char) : Prop := ∀ char ∈ rest.head?, char.isDigit = false

section Written

variable {spell : Char → List Char} (spells : ∀ char, Spells (spell char) char)

section
include spells

/-- The content of a written string, by induction over it. -/
theorem readContent_written (content rest : List Char)
    : readContent (content.flatMap spell ++ '"' :: rest) = some (content, rest) := by
  induction content with
  | nil =>
      rw [List.flatMap_nil, List.nil_append, readContent.eq_def]
      exact if_pos rfl
  | cons char content ih =>
      rw [List.flatMap_cons, List.append_assoc, readContent_spells (spells char), ih]
      rfl

theorem readString_written (content : String) (rest : List Char)
    : readString (writeString spell content ++ rest) = some (content, rest) := by
  simp only [writeString, List.cons_append, List.append_assoc, List.nil_append, readString,
    readContent_written spells, Option.map_some, String.ofList_toList]

end

theorem skipBlanks_cons {char : Char} {rest : List Char} (ink : isBlank char = false)
    : skipBlanks (char :: rest) = char :: rest := by
  simp [skipBlanks, ink]

theorem skipBlanks_string (content : String) (rest : List Char)
    : skipBlanks (writeString spell content ++ rest) = writeString spell content ++ rest :=
  skipBlanks_cons rfl

/-- The digits of a number, by their first one. -/
theorem exists_digits (value : Nat)
    : ∃ digit rest, (toString value).toList = digit :: rest ∧ digit.isDigit = true := by
  rw [Nat.toString_eq_repr, Nat.toList_repr]
  cases digits : Nat.toDigits 10 value with
  | nil => exact absurd digits Nat.toDigits_ne_nil
  | cons digit rest =>
      have isDigit : digit.isDigit = true :=
        Nat.isDigit_of_mem_toDigits (by decide) (by decide) (digits ▸ List.mem_cons_self)
      exact ⟨digit, rest, rfl, isDigit⟩

theorem skipBlanks_scalar (value : Scalar) (rest : List Char)
    : skipBlanks (writeScalar spell value ++ rest) = writeScalar spell value ++ rest := by
  cases value with
  | text content => exact skipBlanks_string content rest
  | number value =>
      obtain ⟨digit, more, written, isDigit⟩ := exists_digits value
      have ink : isBlank digit = false := by
        simp only [isBlank, Bool.or_eq_false_iff, beq_eq_false_iff_ne]
        refine ⟨⟨⟨?_, ?_⟩, ?_⟩, ?_⟩ <;> rintro rfl <;> cases isDigit
      simp only [writeScalar, written, List.cons_append]
      exact skipBlanks_cons ink

/-- A number is not taken for a string. -/
theorem readString_number (value : Nat) (rest : List Char)
    : readString ((toString value).toList ++ rest) = none := by
  obtain ⟨digit, more, written, isDigit⟩ := exists_digits value
  rw [written, List.cons_append, readString]
  intro rest quoted
  obtain ⟨rfl, -⟩ := List.cons.inj quoted
  cases isDigit

/-- The decimal digits of a positive number do not start with a zero. Witness: induction over
the digits.
-/
theorem head_toDigits {value : Nat} (positive : 0 < value)
    : (Nat.toDigits 10 value).head? ≠ some '0' := by
  induction value using Nat.strongRecOn with
  | _ value ih =>
      rw [Nat.toDigits_eq_if (by decide)]
      split
      · simpa using Nat.ne_of_gt positive
      · next large =>
          have quotient : 0 < value / 10 := Nat.div_pos (Nat.not_lt.mp large) (by decide)
          have smaller : value / 10 < value := Nat.div_lt_self positive (by decide)
          have later := ih _ smaller quotient
          cases digits : Nat.toDigits 10 (value / 10) with
          | nil => exact absurd digits Nat.toDigits_ne_nil
          | cons digit rest =>
              rw [digits] at later
              exact later

/-- A written number is read back from in front of anything but a digit. -/
theorem readNumber_written (value : Nat) {rest : List Char} (closes : Closes rest)
    : readNumber ((toString value).toList ++ rest) = some (value, rest) := by
  have digits : ∀ char ∈ Nat.toDigits 10 value, char.isDigit = true :=
    fun char listed => Nat.isDigit_of_mem_toDigits (by decide) (by decide) listed
  have none : rest.takeWhile Char.isDigit = [] ∧ rest.dropWhile Char.isDigit = rest := by
    cases rest with
    | nil => exact ⟨rfl, rfl⟩
    | cons char rest =>
        have other : char.isDigit = false := closes char rfl
        simp [other]
  have plain
      : ¬ (Nat.toDigits 10 value = []
          ∨ ((Nat.toDigits 10 value).head? = some '0' ∧ 1 < (Nat.toDigits 10 value).length)) := by
    intro odd
    rcases odd with empty | ⟨zero, long⟩
    · exact Nat.toDigits_ne_nil empty
    · rcases Nat.eq_zero_or_pos value with rfl | positive
      · simp at long
      · exact head_toDigits positive zero
  rw [Nat.toString_eq_repr, Nat.toList_repr, readNumber, List.takeWhile_append_of_pos digits,
    List.dropWhile_append_of_pos digits, none.1, none.2, List.append_nil, if_neg plain,
    Nat.ofDigitChars_ten_toDigits]

section
include spells

theorem readScalar_written (value : Scalar) {rest : List Char} (closes : Closes rest)
    : readScalar (writeScalar spell value ++ rest) = some (value, rest) := by
  cases value with
  | text content =>
      simp only [writeScalar, readScalar, readString_written spells]
  | number value =>
      simp only [writeScalar, readScalar, readString_number, readNumber_written value closes,
        Option.map_some]

/-- A written member is read back from in front of a comma or a closing brace. -/
theorem readMember_written (member : String × Scalar) {char : Char} (rest : List Char)
    (closes : char = ',' ∨ char = '\x7d')
    : readMember (writeMember spell member ++ char :: rest) = some (member, char :: rest) := by
  have digitless : Closes (char :: rest) := by
    intro other same
    obtain rfl := Option.some.inj same
    rcases closes with rfl | rfl <;> rfl
  have ending : skipBlanks (char :: rest) = char :: rest := by
    rcases closes with rfl | rfl <;> rfl
  rw [readMember, writeMember, List.append_assoc, List.cons_append, skipBlanks_string,
    readString_written spells]
  have colon (more : List Char) : skipBlanks (':' :: more) = ':' :: more := skipBlanks_cons rfl
  simp only [Option.bind_eq_bind, Option.bind_some, Option.pure_def, colon, skipBlanks_scalar,
    readScalar_written spells member.2 digitless, ending]

/-- Written members are read back up to the closing brace, by induction over them. -/
theorem readMembers_written {members : Members} (some' : members ≠ []) {most : Nat}
    (enough : members.length ≤ most) (rest : List Char)
    : readMembers most
        ([','].intercalate (members.map (writeMember spell)) ++ '\x7d' :: rest)
      = some (members, rest) := by
  induction members generalizing most with
  | nil => exact absurd rfl some'
  | cons member members ih =>
      cases most with
      | zero => simp at enough
      | succ most =>
          cases members with
          | nil =>
              simp only [List.map_cons, List.map_nil, List.intercalate_singleton, readMembers,
                readMember_written spells member rest (.inr rfl)]
          | cons next members =>
              have later := ih (by simp) (Nat.le_of_succ_le_succ enough)
              simp only [List.map_cons] at later
              simp only [List.map_cons, List.intercalate_cons_cons, List.append_assoc,
                List.cons_append, List.nil_append, readMembers,
                readMember_written spells member _ (.inl rfl), later, Option.map_some]

omit spells in
/-- Every written member takes at least its quote, by induction over the members. -/
theorem length_written (members : Members)
    : members.length ≤ ([','].intercalate (members.map (writeMember spell))).length := by
  induction members with
  | nil => exact Nat.le_refl 0
  | cons member members ih =>
      cases members with
      | nil => simp [writeMember, writeString]
      | cons next members =>
          simp only [List.map_cons, List.intercalate_cons_cons, List.length_append,
            List.length_cons, List.length_nil] at ih ⊢
          omega

/-- A written object is read back. -/
theorem readObject_written (members : Members)
    : readObject (writeObject spell members) = some members := by
  rw [readObject, writeObject, String.toList_ofList, List.cons_append, skipBlanks_cons rfl]
  dsimp only
  cases members with
  | nil => rfl
  | cons member members =>
      have starts
          : ∃ more,
              [','].intercalate ((member :: members).map (writeMember spell)) ++ ['\x7d']
              = '"' :: more := by
        cases members with
        | nil => exact ⟨_, rfl⟩
        | cons next members => exact ⟨_, rfl⟩
      have enough
          : (member :: members).length
            ≤ ([','].intercalate ((member :: members).map (writeMember spell))).length :=
        length_written (member :: members)
      have read := readMembers_written spells (List.cons_ne_nil member members)
        (Nat.le_trans enough (Nat.le_add_right _ 1)) []
      have size
          : ([','].intercalate ((member :: members).map (writeMember spell))
              ++ ['\x7d']).length
            = ([','].intercalate ((member :: members).map (writeMember spell))).length + 1 := by
        simp
      rw [← size] at read
      obtain ⟨more, starts⟩ := starts
      rw [starts] at read ⊢
      have tight : skipBlanks ('"' :: more) = '"' :: more := skipBlanks_cons rfl
      simp only [tight]
      have ended
          : (readMembers ('"' :: more).length ('"' :: more)).bind
              (fun read => if skipBlanks read.2 = [] then some read.1 else none)
            = some (member :: members) := by
        rw [read]
        rfl
      exact ended

end

end Written

end ProxyClient.Foundations.Json
