import ProxyClient.Traces
import ProxyClient.Worker.Delivery

/-! The JSON length of a response, computed byte class by byte class, is that of its JSON text.
So what `bounded_response_json` has reserved is what `serde_json` writes.
-/

namespace ProxyClient

open Foundations Memory

-----------------------------------------------------------------------------------------
-- serde_json
-----------------------------------------------------------------------------------------

/-- How `serde_json` writes the characters of a string. -/
structure SerdeJson where
  escape : Char → List Char

/-- The control characters with a short escape: `\b`, `\t`, `\n`, `\f` and `\r`. -/
def shortControls : List Nat := [0x08, 0x09, 0x0a, 0x0c, 0x0d]

/-- What the serialiser documents: quote, backslash and the short control characters take two
bytes, the other control characters six, and everything else is copied.
-/
structure SerdeJson.Documented (json : SerdeJson) : Prop where
  quoted
    : ∀ char, char = '"' ∨ char = '\\' → ((json.escape char).map Char.utf8Size).sum = 2
  short
    : ∀ char, char.toNat ∈ shortControls → ((json.escape char).map Char.utf8Size).sum = 2
  control
    : ∀ char,
        char.toNat ≤ 0x1f
        → char.toNat ∉ shortControls
        → ((json.escape char).map Char.utf8Size).sum = 6
  copied
    : ∀ char, 0x1f < char.toNat → char ≠ '"' → char ≠ '\\' → json.escape char = [char]

namespace SerdeJson

/-- The content of a JSON string. -/
def content (json : SerdeJson) (value : String) : String :=
  String.ofList (value.toList.flatMap json.escape)

/-- `serde_json::to_writer`: a response's fields in declaration order, without spaces. -/
def toWriter (json : SerdeJson) (response : ResourceResponse) : String :=
  jsonPrefix ++ json.content response.uid.text ++ jsonBetweenStrings
    ++ json.content response.body.text ++ jsonBeforeStatus
    ++ toString response.status.toNat ++ "\x7d"

/-- The serialiser as an encoder of responses. -/
def encoder (json : SerdeJson) : Encoder := fun response => .ok (json.toWriter response)

/-- `response_json` with its `debug_assert_eq!`: the buffer starts with the computed capacity,
grows to whatever is written, and is then compared with it.
-/
def responseJson (json : SerdeJson) (response : ResourceResponse) : Proc String := do
  let capacity := (responseJsonEncodedLen response).getD 0
  let _ ← perform (.withCapacity capacity)
  let text := json.toWriter response
  let _ ← perform (.withCapacity text.utf8ByteSize)
  if text.utf8ByteSize = capacity then return text
  else fault "assertion `left == right` failed"

end SerdeJson

/-- The serialiser that a connection uses. -/
def serdeJson : SerdeJson := ⟨jsonEscapeChar⟩

theorem serdeJson_toWriter (response : ResourceResponse)
    : serdeJson.toWriter response = responseJson response :=
  rfl

/-- The escapes a connection sends are the documented ones, by cases on the character's class. -/
theorem serdeJson_documented : serdeJson.Documented := by
  refine { quoted := ?_, short := ?_, control := ?_, copied := ?_ }
  · rintro char (rfl | rfl) <;> decide
  · intro char listed
    have every
        : ∀ code ∈ shortControls,
            ((jsonEscapeChar (Char.ofNat code)).map Char.utf8Size).sum = 2 := by
      decide
    have here := every _ listed
    rwa [Char.ofNat_toNat] at here
  · intro char below other
    have every
        : ∀ code ≤ 0x1f,
            code ∉ shortControls
            → ((jsonEscapeChar (Char.ofNat code)).map Char.utf8Size).sum = 6 := by
      decide
    have here := every _ below other
    rwa [Char.ofNat_toNat] at here
  · intro char above quote backslash
    have printable (code : UInt32) (control : code.toNat ≤ 0x1f) : char.val ≠ code := by
      rintro rfl
      exact absurd above (Nat.not_lt.mpr control)
    have beyond : ¬ char.val ≤ 0x1f := Nat.not_le.mpr above
    simp only [serdeJson, jsonEscapeChar, quote, backslash, beyond, if_false,
      printable 0x08 (by decide), printable 0x09 (by decide), printable 0x0a (by decide),
      printable 0x0c (by decide), printable 0x0d (by decide)]

-----------------------------------------------------------------------------------------
-- Byte classes and characters
-----------------------------------------------------------------------------------------

/-- The classes of a byte, as a number. -/
theorem jsonByteLength_eq (byte : UInt8)
    : jsonByteLength byte
      = if byte.toNat = 0x22 ∨ byte.toNat = 0x5c ∨ byte.toNat ∈ shortControls then 2
        else if byte.toNat ≤ 0x1f then 6
        else 1 := by
  have code (other : UInt8) : byte = other ↔ byte.toNat = other.toNat := UInt8.toNat_inj.symm
  simp only [jsonByteLength, code, UInt8.le_iff_toNat_le, shortControls, List.mem_cons,
    List.not_mem_nil, or_false]
  rfl

/-- The class of a seven-bit character is that of its byte. -/
theorem jsonByteLength_ascii {char : Char} (ascii : char.toNat ≤ 0x7f)
    : ((String.utf8EncodeChar char).map jsonByteLength).sum
      = if char.toNat = 0x22 ∨ char.toNat = 0x5c ∨ char.toNat ∈ shortControls then 2
        else if char.toNat ≤ 0x1f then 6
        else 1 := by
  have same : (UInt8.ofNat char.toNat).toNat = char.toNat := by
    rw [UInt8.toNat_ofNat']
    omega
  rw [utf8EncodeChar_ascii ascii, List.map_singleton, List.sum_singleton, jsonByteLength_eq, same]

/-- No byte takes more than six. -/
theorem jsonByteLength_le (byte : UInt8) : jsonByteLength byte ≤ 6 := by
  rw [jsonByteLength_eq]
  split
  · decide
  · split <;> decide

/-- Every byte of a wider character takes one byte. -/
theorem jsonByteLength_wide {char : Char} (wide : 0x7f < char.toNat)
    : ((String.utf8EncodeChar char).map jsonByteLength).sum = char.utf8Size := by
  have each : ∀ byte ∈ String.utf8EncodeChar char, jsonByteLength byte = 1 := by
    intro byte listed
    have beyond := le_of_mem_utf8EncodeChar wide listed
    rw [jsonByteLength_eq, if_neg, if_neg]
    · omega
    · simp only [shortControls, List.mem_cons, List.not_mem_nil, or_false]
      omega
  rw [List.map_congr_left each, List.map_const', List.sum_replicate_nat,
    String.length_utf8EncodeChar, Nat.mul_one]

namespace SerdeJson.Documented

variable {json : SerdeJson} (documented : json.Documented)
include documented

/-- A character takes in JSON what its bytes take in the fold. -/
theorem agree (char : Char)
    : ((json.escape char).map Char.utf8Size).sum
      = ((String.utf8EncodeChar char).map jsonByteLength).sum := by
  have quote : char.toNat = 0x22 ↔ char = '"' :=
    ⟨fun code => Char.toNat_inj.mp code, fun same => same ▸ rfl⟩
  have backslash : char.toNat = 0x5c ↔ char = '\\' :=
    ⟨fun code => Char.toNat_inj.mp code, fun same => same ▸ rfl⟩
  rcases Nat.lt_or_ge 0x7f char.toNat with wide | ascii
  · have plain : char ≠ '"' ∧ char ≠ '\\' := by
      rw [Ne, Ne, ← quote, ← backslash]
      omega
    rw [jsonByteLength_wide wide, documented.copied char (by omega) plain.1 plain.2]
    simp
  · rw [jsonByteLength_ascii ascii]
    split
    · next two =>
        rcases two with code | code | listed
        · exact documented.quoted char (.inl (quote.mp code))
        · exact documented.quoted char (.inr (backslash.mp code))
        · exact documented.short char listed
    · next plain =>
        simp only [not_or, quote, backslash] at plain
        split
        · next below => exact documented.control char below plain.2.2
        · next above =>
            rw [documented.copied char (by omega) plain.1 plain.2.1]
            have one : char.utf8Size = 1 := Char.utf8Size_eq_one_iff.mpr ascii
            simp [one]

/-- The content of a JSON string takes what the fold over its bytes says. -/
theorem content_size (value : String)
    : (json.content value).utf8ByteSize = ((bytesOf value).map jsonByteLength).sum :=
  utf8ByteSize_flatMap documented.agree value

end SerdeJson.Documented

-----------------------------------------------------------------------------------------
-- The length of a response
-----------------------------------------------------------------------------------------

/-- The fold over a string's bytes, on any target. -/
theorem jsonStringContentEncodedLenOn_eq_some {max length : Nat} {value : String}
    : jsonStringContentEncodedLenOn max value = some length
      ↔ ((bytesOf value).map jsonByteLength).sum = length ∧ length ≤ max := by
  rw [jsonStringContentEncodedLenOn, foldlM_addWithin (Nat.zero_le _), Nat.zero_add]

namespace SerdeJson.Documented

variable {json : SerdeJson} (documented : json.Documented)
include documented

/-- What is written has the fixed parts, the two contents and the digits. -/
theorem size_eq (response : ResourceResponse)
    : (json.toWriter response).utf8ByteSize
      = jsonPrefix.utf8ByteSize + ((bytesOf response.uid.text).map jsonByteLength).sum
        + jsonBetweenStrings.utf8ByteSize
        + ((bytesOf response.body.text).map jsonByteLength).sum
        + jsonBeforeStatus.utf8ByteSize + decimalDigits response.status + 1 := by
  have closing : "\x7d".utf8ByteSize = 1 := rfl
  simp only [SerdeJson.toWriter, String.utf8ByteSize_append, documented.content_size, closing,
    decimalDigits_eq]

/-- The precheck computes the length of the text, on every target, unless it does not fit. -/
theorem length_eq_some {max length : Nat} {response : ResourceResponse}
    : responseJsonEncodedLenOn max response = some length
      ↔ (json.toWriter response).utf8ByteSize = length ∧ length ≤ max := by
  simp only [documented.size_eq, responseJsonEncodedLenOn, Option.bind_eq_bind,
    Option.bind_eq_some_iff, addWithin_eq_some, jsonStringContentEncodedLenOn_eq_some]
  constructor
  · rintro ⟨_, ⟨rfl, -⟩, _, ⟨rfl, -⟩, _, ⟨rfl, -⟩, _, ⟨rfl, -⟩, _, ⟨rfl, -⟩, _, ⟨rfl, -⟩, _,
      ⟨rfl, -⟩, rfl, fits⟩
    exact ⟨rfl, fits⟩
  · rintro ⟨rfl, fits⟩
    refine ⟨_, ⟨rfl, ?_⟩, _, ⟨rfl, ?_⟩, _, ⟨rfl, ?_⟩, _, ⟨rfl, ?_⟩, _, ⟨rfl, ?_⟩, _, ⟨rfl, ?_⟩,
      _, ⟨rfl, ?_⟩, rfl, fits⟩
    all_goals omega

end SerdeJson.Documented

-----------------------------------------------------------------------------------------
-- The precheck and the serialiser
-----------------------------------------------------------------------------------------

/-- The error of `bounded_response_json` that says that the two lengths differ. -/
def jsonDisagreed : BoxError :=
  .text "websocket response length precheck disagreed with serializer"

namespace SerdeJson.Documented

variable {json : SerdeJson} (documented : json.Documented)
include documented

/-- Once the computed length is reserved, the text has that length. -/
theorem encodeReserved_agrees {origin : Origin} {response : BudgetedResponse} {length : Nat}
    {reservation : MemoryReservation}
    (computed : responseJsonEncodedLen response.response = some length)
    : (encodeReserved json.encoder origin response length reservation).Meets anything
        (fun _ result => result ≠ .error jsonDisagreed) () := by
  have same := (documented.length_eq_some.mp computed).1
  simp only [encodeReserved, SerdeJson.encoder, same, ne_eq, not_true_eq_false, if_false,
    Program.bind_eq]
  refine meets_anything_bind fun capacity => meets_anything_bind ?_
  rintro (error | reservation)
  · refine meets_anything_bind fun _ => ?_
    simp [jsonDisagreed]
  · simp

theorem encodeDowngraded_agrees {limit : Nat} {origin : Origin} {response : BudgetedResponse}
    : (encodeDowngraded limit json.encoder origin response).Meets anything
        (fun _ result => result.2 ≠ .error jsonDisagreed) () := by
  simp only [encodeDowngraded, Program.bind_eq]
  refine meets_anything_bind fun downgraded => ?_
  split
  · simp [jsonDisagreed]
  · next length computed =>
      split
      · simp [jsonDisagreed]
      · refine meets_anything_bind ?_
        rintro (error | reservation)
        · simp [jsonDisagreed]
        · refine Program.Meets.bind (documented.encodeReserved_agrees computed) ?_
          exact fun _ _ agreed => agreed

/-- No answers make `bounded_response_json` find that the two lengths differ. -/
theorem bounded_agrees {limit : Nat} {origin : Origin} {response : BudgetedResponse}
    : (boundedResponseJsonWith limit json.encoder origin response).Meets anything
        (fun _ result => result.2 ≠ .error jsonDisagreed) () := by
  unfold boundedResponseJsonWith
  split
  · simp [jsonDisagreed]
  · next length computed =>
      split
      · refine meets_anything_bind ?_
        rintro (error | reservation)
        · exact documented.encodeDowngraded_agrees
        · refine Program.Meets.bind (documented.encodeReserved_agrees computed) ?_
          exact fun _ _ agreed => agreed
      · exact documented.encodeDowngraded_agrees

/-- `response_json` writes as much as it has asked for, so its assertion holds. -/
theorem responseJson_asserts (response : ResourceResponse)
    : (json.responseJson response).Meets unfailing (fun _ text => text = json.toWriter response)
        () := by
  have allocates (least : Nat) : unfailing.allowed () (.withCapacity least) :=
    fun _ absent => nomatch absent
  simp only [SerdeJson.responseJson, perform, Program.bind_eq, Program.meets_bind,
    Program.meets_call, allocates, true_and]
  intro _ written
  have fits : (json.toWriter response).utf8ByteSize ≤ usizeMax :=
    Nat.le_trans written.property.1 (Nat.le_trans written.property.2 (by decide))
  have computed : responseJsonEncodedLen response = some _ :=
    documented.length_eq_some.mpr ⟨rfl, fits⟩
  have same
      : (json.toWriter response).utf8ByteSize = (responseJsonEncodedLen response).getD 0 := by
    rw [computed]
    rfl
  rw [if_pos same]
  rfl

/-- The length of an admitted response is computed even where `usize` has 32 bits. -/
theorem isSome_of_admitted {max : Nat} {response : ResourceResponse} (wide : 2 ^ 32 - 1 ≤ max)
    (uid : response.uid.len ≤ maxUidSize) (body : response.body.len ≤ maxBodySize)
    : (responseJsonEncodedLenOn max response).isSome = true := by
  have uidMost := sum_map_le jsonByteLength_le (bytesOf response.uid.text)
  have bodyMost := sum_map_le jsonByteLength_le (bytesOf response.body.text)
  have digits := decimalDigits_le response.status
  have fixed : jsonPrefix.utf8ByteSize + jsonBetweenStrings.utf8ByteSize
      + jsonBeforeStatus.utf8ByteSize = 47 := rfl
  rw [length_bytesOf] at uidMost bodyMost
  have size := documented.size_eq response
  simp only [RustString.len, maxUidSize, maxBodySize] at uid body
  refine Option.isSome_iff_exists.mpr ⟨_, documented.length_eq_some.mpr ⟨rfl, ?_⟩⟩
  omega

end SerdeJson.Documented

/-- The precheck and the serialiser agree on every response: the computed length is that of the
text, on every target where it fits; neither disagreement is ever found; and every admitted
response has a length.
-/
structure SerdeJson.LengthsAgree (json : SerdeJson) : Prop where
  length
    : ∀ max response length,
        responseJsonEncodedLenOn max response = some length
        ↔ (json.toWriter response).utf8ByteSize = length ∧ length ≤ max
  asserts
    : ∀ response,
        (json.responseJson response).Meets unfailing
          (fun _ text => text = json.toWriter response) ()
  prechecks
    : ∀ limit origin response trace result,
        (boundedResponseJsonWith limit json.encoder origin response).Returns trace result
        → result.2 ≠ .error jsonDisagreed
  admitted
    : ∀ max (response : ResourceResponse),
        2 ^ 32 - 1 ≤ max
        → response.uid.len ≤ maxUidSize
        → response.body.len ≤ maxBodySize
        → (responseJsonEncodedLenOn max response).isSome = true

/-- The JSON length precheck agrees with the JSON encoder on every response. -/
theorem SerdeJson.lengths_agree {json : SerdeJson} (documented : json.Documented)
    : json.LengthsAgree where
  length _ _ _ := documented.length_eq_some
  asserts := documented.responseJson_asserts
  prechecks _ _ _ _ _ returned := documented.bounded_agrees.returns returned
  admitted _ _ wide uid body := documented.isSome_of_admitted wide uid body

/-- A uid of three bytes, one of which is escaped. -/
def firstQuoted : RustString := ⟨"a\"b", 3, by decide, by decide⟩

/-- The serialiser of a connection, whose escapes are the documented ones. -/
theorem SerdeJson.lengths_agree_serdeJson
    : serdeJson.LengthsAgree
      ∧ responseJsonEncodedLenOn usizeMax (.new firstQuoted 200 .new) = some 55 :=
  ⟨lengths_agree serdeJson_documented, by decide⟩

-----------------------------------------------------------------------------------------
-- What a connection sends
-----------------------------------------------------------------------------------------

/-- What a text takes in a JSON string: six bytes for a control character without a short form. -/
def jsonBytes (value : String) : Nat := ((bytesOf value).map jsonByteLength).sum

theorem usizeMax_wide : 2 ^ 32 - 1 ≤ usizeMax := by decide

/-- The JSON encoder of a connection. -/
theorem jsonLength_eq {response : ResourceResponse} {length : Nat}
    (computed : responseJsonEncodedLen response = some length)
    : (responseJson response).utf8ByteSize = length :=
  (serdeJson_documented.length_eq_some.mp computed).1

/-- The JSON text that a connection sends has its fixed parts, the digits and two contents. -/
theorem responseJson_size (response : ResourceResponse)
    : (responseJson response).utf8ByteSize
      = 48 + decimalDigits response.status + jsonBytes response.uid.text
        + jsonBytes response.body.text := by
  have size := serdeJson_documented.size_eq response
  have fixed : jsonPrefix.utf8ByteSize + jsonBetweenStrings.utf8ByteSize
      + jsonBeforeStatus.utf8ByteSize = 47 := rfl
  rw [serdeJson_toWriter] at size
  rw [size, jsonBytes, jsonBytes]
  omega

/-- A content takes at most six bytes for each byte. -/
theorem jsonBytes_le (value : String) : jsonBytes value ≤ value.utf8ByteSize * 6 :=
  sum_map_le jsonByteLength_le (bytesOf value)

/-- The length of the text of an admitted response is computed. -/
theorem jsonLength_of_admitted {response : ResourceResponse}
    (uid : response.uid.len ≤ maxUidSize) (body : response.body.len ≤ maxBodySize)
    : responseJsonEncodedLen response = some (responseJson response).utf8ByteSize := by
  obtain ⟨length, computed⟩ := Option.isSome_iff_exists.mp
    (serdeJson_documented.isSome_of_admitted usizeMax_wide uid body)
  obtain rfl := jsonLength_eq computed
  exact computed

end ProxyClient
