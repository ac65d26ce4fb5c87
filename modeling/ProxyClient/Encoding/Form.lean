import ProxyClient.Encoding.Json

/-! The form length of a response, computed byte class by byte class, is that of its form.
So what `prepare_form_request` has reserved is what the form serializer writes, and its buffer
never grows.
-/

namespace ProxyClient

open Foundations Memory

-----------------------------------------------------------------------------------------
-- url::form_urlencoded
-----------------------------------------------------------------------------------------

/-- How `url::form_urlencoded` writes one byte of a component. -/
structure FormUrlencoded where
  byte : UInt8 → List Char

/-- A byte that a form component copies: alphanumerics and `* - . _`. -/
def copiedInForm (byte : UInt8) : Bool :=
  isAsciiAlphanumeric byte || byte == 0x2a || byte == 0x2d || byte == 0x2e || byte == 0x5f

/-- Copied bytes have seven bits. -/
theorem copiedInForm_ascii {byte : UInt8} (copied : copiedInForm byte = true)
    : byte.toNat ≤ 0x7f := by
  simp only [copiedInForm, isAsciiAlphanumeric, Bool.or_eq_true, Bool.and_eq_true,
    decide_eq_true_eq, beq_iff_eq, UInt8.le_iff_toNat_le, ← UInt8.toNat_inj,
    UInt8.reduceToNat] at copied
  omega

/-- What the serializer documents: some bytes are copied, a space becomes `+`, and every other
byte becomes `%XX`.
-/
structure FormUrlencoded.Documented (form : FormUrlencoded) : Prop where
  copied : ∀ byte, copiedInForm byte = true → form.byte byte = [Char.ofNat byte.toNat]
  space : form.byte 0x20 = ['+']
  percent
    : ∀ byte,
        copiedInForm byte = false
        → byte ≠ 0x20
        → form.byte byte
          = ['%', (hexDigit (byte.toNat / 16)).toUpper, (hexDigit (byte.toNat % 16)).toUpper]

/-- The `String` a serializer writes to: what it holds, the capacity it was created with, and
whether it ever held more.
-/
structure FormTarget where
  text : String
  capacity : Nat
  outgrown : Bool

namespace FormTarget

/-- `String::with_capacity`. -/
def withCapacity (capacity : Nat) : FormTarget := { text := "", capacity, outgrown := false }

/-- `String::push_str`. -/
def push (target : FormTarget) (piece : List Char) : FormTarget :=
  let text := target.text ++ String.ofList piece
  { target with text, outgrown := target.outgrown || decide (target.capacity < text.utf8ByteSize) }

end FormTarget

namespace FormUrlencoded

variable (form : FormUrlencoded)

/-- `append_encoded`, byte by byte. -/
def appendEncoded (target : FormTarget) (value : String) : FormTarget :=
  (bytesOf value).foldl (fun target byte => target.push (form.byte byte)) target

/-- `append_pair`, with a separator after an earlier pair. -/
def appendPair (target : FormTarget) (name value : String) : FormTarget :=
  let target := if target.text.isEmpty then target else target.push ['&']
  form.appendEncoded ((form.appendEncoded target name).push ['=']) value

/-- `encode_form`, into a buffer of the computed length. -/
def encodeForm (response : ResourceResponse) (encodedLength : Nat) : FormTarget :=
  let status := toString response.status.toNat
  let target := form.appendPair (.withCapacity encodedLength) "status" status
  form.appendPair target "body" response.body.text

/-- A component as it stands in a form. -/
def component (value : String) : String := String.ofList ((bytesOf value).flatMap form.byte)

/-- The form of a response. -/
def formOf (response : ResourceResponse) : String :=
  "status=" ++ toString response.status.toNat ++ "&body=" ++ form.component response.body.text

/-- `encode_form` as it is called: with the length that the caller has computed. -/
def encoder : Encoder := fun response =>
  .ok (form.encodeForm response ((responseFormEncodedLen response).getD 0)).text

end FormUrlencoded

/-- The error of `prepare_form_request` that says that the two lengths differ. -/
def formDisagreed : BoxError :=
  .text "form response length precheck disagreed with serializer"

/-- The serializer that a connection uses. -/
def formUrlencoded : FormUrlencoded := ⟨formEscapeByte⟩

theorem formUrlencoded_formOf (response : ResourceResponse)
    : formUrlencoded.formOf response = encodeForm response :=
  rfl

/-- The bytes a connection sends are the documented ones. -/
theorem formUrlencoded_documented : formUrlencoded.Documented := by
  refine { copied := ?_, space := rfl, percent := ?_ }
  · intro byte copied
    have plain : byte ≠ 0x20 := by
      rintro rfl
      cases copied
    have one : formByteLength byte = 1 := by
      simp only [copiedInForm] at copied
      simp [formByteLength, copied]
    simp [formUrlencoded, formEscapeByte, plain, one]
  · intro byte reserved plain
    have three : formByteLength byte ≠ 1 := by
      simp only [copiedInForm] at reserved
      simp [formByteLength, reserved, plain]
    simp [formUrlencoded, formEscapeByte, plain, three]

-----------------------------------------------------------------------------------------
-- What the serializer writes
-----------------------------------------------------------------------------------------

/-- One target is another after `more` has been written to it: it has not outgrown its capacity
unless the text does.
-/
structure FormTarget.Appends (target next : FormTarget) (more : String) : Prop where
  text : next.text = target.text ++ more
  capacity : next.capacity = target.capacity
  fits : target.outgrown = false → next.text.utf8ByteSize ≤ target.capacity → next.outgrown = false

namespace FormTarget.Appends

variable {target middle next : FormTarget} {more rest : String}

theorem refl (target : FormTarget) : target.Appends target "" where
  text := by simp
  capacity := rfl
  fits kept _ := kept

theorem push (target : FormTarget) (piece : List Char)
    : target.Appends (target.push piece) (String.ofList piece) where
  text := rfl
  capacity := rfl
  fits kept fits := by
    have within : ¬ target.capacity < (target.push piece).text.utf8ByteSize :=
      Nat.not_lt.mpr fits
    simp only [FormTarget.push, kept, Bool.false_or, decide_eq_false_iff_not] at within ⊢
    exact within

theorem trans (first : target.Appends middle more) (second : middle.Appends next rest)
    : target.Appends next (more ++ rest) where
  text := by rw [second.text, first.text, String.append_assoc]
  capacity := second.capacity.trans first.capacity
  fits kept fits := by
    have shorter : middle.text.utf8ByteSize ≤ next.text.utf8ByteSize := by
      rw [second.text, String.utf8ByteSize_append]
      exact Nat.le_add_right _ _
    refine second.fits (first.fits kept (Nat.le_trans shorter fits)) ?_
    rw [first.capacity]
    exact fits

end FormTarget.Appends

namespace FormUrlencoded

/-- A component is appended as a whole, by induction over its bytes. -/
theorem appendEncoded_appends (form : FormUrlencoded) (target : FormTarget) (value : String)
    : target.Appends (form.appendEncoded target value) (form.component value) := by
  unfold appendEncoded component
  induction bytesOf value generalizing target with
  | nil => exact .refl target
  | cons byte rest ih =>
      have first := FormTarget.Appends.push target (form.byte byte)
      have whole := first.trans (ih (target.push (form.byte byte)))
      rw [← String.ofList_append] at whole
      exact whole

/-- A pair is appended with its separators. -/
theorem appendPair_appends (form : FormUrlencoded) (target : FormTarget) (name value : String)
    : target.Appends (form.appendPair target name value)
        ((if target.text.isEmpty then "" else "&") ++ form.component name ++ "="
          ++ form.component value) := by
  have separated
      : target.Appends (if target.text.isEmpty then target else target.push ['&'])
          (if target.text.isEmpty then "" else "&") := by
    split
    · exact .refl target
    · exact .push target ['&']
  have named := separated.trans (form.appendEncoded_appends _ name)
  have equals := named.trans (.push _ ['='])
  exact equals.trans (form.appendEncoded_appends _ value)

namespace Documented

variable {form : FormUrlencoded} (documented : form.Documented)
include documented

/-- A text of copied bytes is its own component. -/
theorem component_eq {value : String}
    (plain
      : ∀ char ∈ value.toList,
          char.toNat ≤ 0x7f ∧ copiedInForm (UInt8.ofNat char.toNat) = true)
    : form.component value = value := by
  have each
      : ∀ chars : List Char,
          (∀ char ∈ chars, char.toNat ≤ 0x7f ∧ copiedInForm (UInt8.ofNat char.toNat) = true)
          → (chars.flatMap String.utf8EncodeChar).flatMap form.byte = chars := by
    intro chars plain
    induction chars with
    | nil => rfl
    | cons char rest ih =>
        obtain ⟨ascii, copied⟩ := plain char List.mem_cons_self
        have later := ih fun other listed => plain other (List.mem_cons_of_mem _ listed)
        have same : (UInt8.ofNat char.toNat).toNat = char.toNat := by
          rw [UInt8.toNat_ofNat']
          omega
        rw [List.flatMap_cons, List.flatMap_append, later, utf8EncodeChar_ascii ascii,
          List.flatMap_singleton, documented.copied _ copied, same, Char.ofNat_toNat]
        rfl
  rw [component, bytesOf, toByteArray_eq_flatMap, each _ plain, String.ofList_toList]

/-- The digits of a number are copied. -/
theorem component_digits (number : Nat)
    : form.component (toString number) = toString number := by
  apply documented.component_eq
  intro char listed
  have digit : char.isDigit = true := by
    rw [Nat.toString_eq_repr, Nat.toList_repr] at listed
    exact Nat.isDigit_of_mem_toDigits (by decide) (by decide) listed
  simp only [Char.isDigit, Bool.and_eq_true, decide_eq_true_eq] at digit
  have lower : 48 ≤ char.toNat := digit.1
  have upper : char.toNat ≤ 57 := digit.2
  have every : ∀ code ≤ 57, 48 ≤ code → copiedInForm (UInt8.ofNat code) = true := by decide
  exact ⟨by omega, every _ upper lower⟩

/-- What is written is the form of the response, into a buffer of the given capacity. -/
theorem encodeForm_appends (response : ResourceResponse) (encodedLength : Nat)
    : (FormTarget.withCapacity encodedLength).Appends (form.encodeForm response encodedLength)
        (form.formOf response) := by
  have status : form.component "status" = "status" :=
    documented.component_eq (forall_mem_of_all (by decide))
  have body : form.component "body" = "body" :=
    documented.component_eq (forall_mem_of_all (by decide))
  have digits := documented.component_digits response.status.toNat
  have first := form.appendPair_appends (.withCapacity encodedLength) "status"
    (toString response.status.toNat)
  have second := form.appendPair_appends
    (form.appendPair (.withCapacity encodedLength) "status" (toString response.status.toNat))
    "body" response.body.text
  have separated
      : (form.appendPair (.withCapacity encodedLength) "status"
          (toString response.status.toNat)).text.isEmpty = false := by
    rw [first.text, status]
    simp [FormTarget.withCapacity]
  have whole := first.trans second
  rw [separated, status, body, digits] at whole
  have same
      : (if (FormTarget.withCapacity encodedLength).text.isEmpty then "" else "&") ++ "status"
          ++ "=" ++ toString response.status.toNat
          ++ ((if false = true then "" else "&") ++ "body" ++ "="
            ++ form.component response.body.text)
        = form.formOf response := by
    rw [FormUrlencoded.formOf, ← String.toList_inj]
    simp [FormTarget.withCapacity]
  rw [same] at whole
  exact whole

/-- One byte of a component takes what the fold says. -/
theorem byte_size (byte : UInt8)
    : (form.byte byte).length = formByteLength byte
      ∧ ∀ char ∈ form.byte byte, char.toNat ≤ 0x7f := by
  have small : byte.toNat < 256 := byte.toNat_lt
  have every : ∀ code ≤ 0x7f, (Char.ofNat code).toNat ≤ 0x7f := by decide
  have ascii : ∀ digit < 16, (hexDigit digit).toUpper.toNat ≤ 0x7f := by decide
  cases copied : copiedInForm byte with
  | true =>
      have one : formByteLength byte = 1 := by
        simp only [copiedInForm] at copied
        simp [formByteLength, copied]
      rw [documented.copied byte copied, one]
      refine ⟨rfl, ?_⟩
      intro char listed
      obtain rfl := List.mem_singleton.mp listed
      exact every _ (copiedInForm_ascii copied)
  | false =>
      by_cases space : byte = 0x20
      · subst space
        rw [documented.space]
        exact ⟨rfl, forall_mem_of_all (by decide)⟩
      · have three : formByteLength byte = 3 := by
          simp only [copiedInForm] at copied
          simp [formByteLength, copied, space]
        rw [documented.percent byte copied space, three]
        refine ⟨rfl, ?_⟩
        intro char listed
        simp only [List.mem_cons, List.not_mem_nil, or_false] at listed
        rcases listed with rfl | rfl | rfl
        · decide
        · exact ascii _ (by omega)
        · exact ascii _ (by omega)

/-- A component takes what the fold over its bytes says. -/
theorem component_size (value : String)
    : (form.component value).utf8ByteSize = ((bytesOf value).map formByteLength).sum := by
  have ascii : ∀ char ∈ (bytesOf value).flatMap form.byte, char.toNat ≤ 0x7f := by
    intro char listed
    obtain ⟨byte, -, written⟩ := List.mem_flatMap.mp listed
    exact (documented.byte_size byte).2 char written
  rw [FormUrlencoded.component, utf8ByteSize_ascii ascii, List.length_flatMap]
  exact congrArg List.sum (List.map_congr_left fun byte _ => (documented.byte_size byte).1)

/-- What is written has the field names, the digits and the component. -/
theorem size_eq (response : ResourceResponse)
    : (form.formOf response).utf8ByteSize
      = formFields + decimalDigits response.status
        + ((bytesOf response.body.text).map formByteLength).sum := by
  rw [FormUrlencoded.formOf, String.utf8ByteSize_append, String.utf8ByteSize_append,
    String.utf8ByteSize_append, documented.component_size, decimalDigits_eq, formFields]
  omega

/-- The precheck computes the length of the form, on every target, unless it does not fit. -/
theorem length_eq_some {max length : Nat} {response : ResourceResponse}
    : responseFormEncodedLenOn max response = some length
      ↔ (form.formOf response).utf8ByteSize = length ∧ length ≤ max := by
  simp only [documented.size_eq, responseFormEncodedLenOn, formComponentEncodedLenOn,
    Option.bind_eq_bind, Option.bind_eq_some_iff, addWithin_eq_some,
    foldlM_addWithin (Nat.zero_le _), Nat.zero_add]
  constructor
  · rintro ⟨_, ⟨rfl, -⟩, _, ⟨rfl, -⟩, rfl, fits⟩
    exact ⟨rfl, fits⟩
  · rintro ⟨rfl, fits⟩
    exact ⟨_, ⟨rfl, by omega⟩, _, ⟨rfl, by omega⟩, rfl, fits⟩

/-- The serializer writes the form of the response and stays within the computed length. -/
theorem encodeForm_fits {max length : Nat} {response : ResourceResponse}
    (computed : responseFormEncodedLenOn max response = some length)
    : (form.encodeForm response length).text = form.formOf response
      ∧ (form.encodeForm response length).text.utf8ByteSize = length
      ∧ (form.encodeForm response length).outgrown = false := by
  have appends := documented.encodeForm_appends response length
  have size := (documented.length_eq_some.mp computed).1
  have text : (form.encodeForm response length).text = form.formOf response := by
    rw [appends.text]
    simp [FormTarget.withCapacity]
  refine ⟨text, text ▸ size, appends.fits rfl ?_⟩
  rw [text, size]
  rfl

-----------------------------------------------------------------------------------------
-- The precheck and the serializer
-----------------------------------------------------------------------------------------

/-- `prepare_form_request` finds no difference of the two lengths: an error that says so is one
that the URL or a header had.
-/
theorem prepare_agrees (context : WorkerContext) (response : ResourceResponse)
    : (prepareFormRequestWith context form.encoder response).Meets anything
        (fun _ result =>
          result = .error formDisagreed
          → context.responseUrl response.uid.text = .error formDisagreed
            ∨ context.cfHeaders = .error formDisagreed)
        () := by
  unfold prepareFormRequestWith
  split
  · simp [formDisagreed]
  · next length computed =>
      have same : ((form.encodeForm response length).text).utf8ByteSize = length :=
        (documented.encodeForm_fits computed).2.1
      apply meets_anything_bind
      rintro (error | reservation)
      · simp [formDisagreed]
      · simp only [FormUrlencoded.encoder, computed, Option.getD_some, same, ne_eq,
          not_true_eq_false, if_false, Program.bind_eq]
        apply meets_anything_bind
        intro capacity
        apply meets_anything_bind
        rintro (error | reservation)
        · apply meets_anything_bind
          simp [formDisagreed]
        · cases url : context.responseUrl response.uid.text with
          | error error =>
              apply meets_anything_bind
              intro _ same
              exact .inl (congrArg Except.error (Except.error.inj same))
          | ok url =>
              cases headers : context.cfHeaders with
              | error error =>
                  apply meets_anything_bind
                  intro _ same
                  exact .inr (congrArg Except.error (Except.error.inj same))
              | ok headers => simp

/-- The length of an admitted body is computed even where `usize` has 32 bits. -/
theorem isSome_of_admitted {max : Nat} {response : ResourceResponse} (wide : 2 ^ 32 - 1 ≤ max)
    (body : response.body.len ≤ maxBodySize)
    : (responseFormEncodedLenOn max response).isSome = true := by
  have most : ∀ byte, formByteLength byte ≤ 3 := by
    intro byte
    unfold formByteLength
    split <;> decide
  have bodyMost := sum_map_le most (bytesOf response.body.text)
  have digits := decimalDigits_le response.status
  have fixed : formFields = 13 := rfl
  have size := documented.size_eq response
  rw [length_bytesOf] at bodyMost
  simp only [RustString.len, maxBodySize] at body
  refine Option.isSome_iff_exists.mpr ⟨_, documented.length_eq_some.mpr ⟨rfl, ?_⟩⟩
  omega

end Documented

/-- The precheck and the serializer agree on every response: the computed length is that of the
form, on every target where it fits; the serializer writes exactly so many bytes into a buffer
of that capacity and never outgrows it; `prepare_form_request` finds no difference; and every
admitted body has a length.
-/
structure LengthsAgree (form : FormUrlencoded) : Prop where
  length
    : ∀ max response length,
        responseFormEncodedLenOn max response = some length
        ↔ (form.formOf response).utf8ByteSize = length ∧ length ≤ max
  writes
    : ∀ max response length,
        responseFormEncodedLenOn max response = some length
        → (form.encodeForm response length).text = form.formOf response
          ∧ (form.encodeForm response length).text.utf8ByteSize = length
          ∧ (form.encodeForm response length).outgrown = false
  prechecks
    : ∀ (context : WorkerContext) response trace result,
        (prepareFormRequestWith context form.encoder response).Returns trace result
        → result = .error formDisagreed
        → context.responseUrl response.uid.text = .error formDisagreed
          ∨ context.cfHeaders = .error formDisagreed
  admitted
    : ∀ max (response : ResourceResponse),
        2 ^ 32 - 1 ≤ max
        → response.body.len ≤ maxBodySize
        → (responseFormEncodedLenOn max response).isSome = true

/-- The form length precheck agrees with the form encoder on every response. -/
theorem forms_agree {form : FormUrlencoded} (documented : form.Documented)
    : form.LengthsAgree where
  length _ _ _ := documented.length_eq_some
  writes _ _ _ computed := documented.encodeForm_fits computed
  prechecks context response _ _ returned :=
    (documented.prepare_agrees context response).returns returned
  admitted _ _ wide body := documented.isSome_of_admitted wide body

end FormUrlencoded

/-- A body of four bytes, one of which takes three. -/
def spacedBody : RustString := ⟨"a /b", 4, by decide, by decide⟩

/-- The serializer of a connection, whose bytes are the documented ones. -/
theorem FormUrlencoded.forms_agree_formUrlencoded
    : formUrlencoded.LengthsAgree
      ∧ responseFormEncodedLenOn usizeMax (.new .new 200 spacedBody) = some 22 :=
  ⟨forms_agree formUrlencoded_documented, by decide⟩

/-- What a text takes in a form: three bytes for each byte that is neither copied nor a space. -/
def formBytes (value : String) : Nat := ((bytesOf value).map formByteLength).sum

/-- The form that a connection sends has its fields, the digits and the escaped body. -/
theorem encodeForm_size (response : ResourceResponse)
    : (encodeForm response).utf8ByteSize
      = formFields + decimalDigits response.status + formBytes response.body.text :=
  formUrlencoded_documented.size_eq response

/-- The length of the form of an admitted body is computed. -/
theorem formLength_of_admitted {response : ResourceResponse}
    (body : response.body.len ≤ maxBodySize)
    : responseFormEncodedLen response = some (encodeForm response).utf8ByteSize := by
  obtain ⟨length, computed⟩ := Option.isSome_iff_exists.mp
    (formUrlencoded_documented.isSome_of_admitted usizeMax_wide body)
  obtain ⟨rfl, -⟩ := formUrlencoded_documented.length_eq_some.mp computed
  exact computed

end ProxyClient
