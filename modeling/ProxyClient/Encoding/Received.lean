import ProxyClient.Encoding.Form
import ProxyClient.Foundations.Json
import ProxyClient.Target.ResponseUrl

/-! What a receiver reads of the texts that the client writes.
The JSON text of a response and of a control message is an object with exactly its fields, and
the form of a response has exactly its two pairs, whatever the uid, the body and the names
contain.
-/

namespace ProxyClient

open Foundations

-----------------------------------------------------------------------------------------
-- JSON
-----------------------------------------------------------------------------------------

/-- The fields of `ResourceResponse` as serde names and orders them. -/
def ResourceResponse.members (response : ResourceResponse) : Json.Members :=
  [("type", .text "response"), ("uid", .text response.uid.text),
    ("body", .text response.body.text), ("status", .number response.status.toNat)]

/-- The fields of `RegisterV1`, `RegisterV2`, `Ready` and of the two constants. -/
def ControlText.members : ControlText → Json.Members
  | .register protocol name worker =>
      if protocol = 1 then [("type", .text "register"), ("instance", .text name)]
      else
        [("type", .text "register"), ("instance", .text name), ("worker", .text worker),
          ("version", .number protocol)]
  | .ready uid worker => [("type", .text "ready"), ("uid", .text uid), ("worker", .text worker)]
  | .ping => [("type", .text "ping")]
  | .pong => [("type", .text "pong")]

/-- A serialiser that follows the grammar: it spells every character. -/
def SerdeJson.Grammatical (json : SerdeJson) : Prop :=
  ∀ char, Json.Spells (json.escape char) char

/-- The escapes a connection sends spell their characters, by cases on the character's class. -/
theorem serdeJson_grammatical : serdeJson.Grammatical := by
  intro char
  have named {code : UInt32} {letter : Char} (same : char.val = code)
      (stands : Json.shortEscape? letter = some (Char.ofNat code.toNat))
      : Json.Spells ['\\', letter] char := by
    refine .short ?_
    rw [stands, ← same]
    exact congrArg some (Char.ofNat_toNat char)
  unfold serdeJson jsonEscapeChar
  dsimp only
  split
  · next quote =>
      subst quote
      exact .short rfl
  split
  · next backslash =>
      subst backslash
      exact .short rfl
  split
  · next same => exact named same rfl
  split
  · next same => exact named same rfl
  split
  · next same => exact named same rfl
  split
  · next same => exact named same rfl
  split
  · next same => exact named same rfl
  split
  · next control =>
      have every
          : ∀ code ≤ 0x1f,
              Json.codeUnit? '0' '0' (hexDigit (code / 16)) (hexDigit (code % 16))
              = some code := by
        decide
      exact .unit (every _ control)
  · next quote backslash _ _ _ _ _ printing =>
      exact .plain (Nat.lt_of_not_le printing) quote backslash

section Json

variable {json : SerdeJson}

/-- Names are copied. -/
theorem SerdeJson.Documented.flatMap_name (documented : json.Documented) (name : String)
    (plain : name.toList.all (fun char => 0x1f < char.toNat && char ≠ '"' && char ≠ '\\') = true)
    : name.toList.flatMap json.escape = name.toList := by
  have each
      : ∀ chars : List Char,
          chars.all (fun char => 0x1f < char.toNat && char ≠ '"' && char ≠ '\\') = true
          → chars.flatMap json.escape = chars := by
    intro chars plain
    induction chars with
    | nil => rfl
    | cons char rest ih =>
        simp only [List.all_cons, Bool.and_eq_true, decide_eq_true_eq] at plain
        obtain ⟨⟨⟨printing, quote⟩, backslash⟩, later⟩ := plain
        rw [List.flatMap_cons, documented.copied char printing quote backslash, ih later]
        rfl
  exact each _ plain

/-- The text of a response is its object, written without blanks. -/
theorem SerdeJson.Documented.toWriter_eq (documented : json.Documented)
    (response : ResourceResponse)
    : json.toWriter response = Json.writeObject json.escape response.members := by
  have name := documented.flatMap_name
  apply String.toList_inj.mp
  simp only [SerdeJson.toWriter, SerdeJson.content, Json.writeObject, ResourceResponse.members,
    Json.writeMember, Json.writeString, Json.writeScalar, String.toList_append,
    String.toList_ofList, List.map_cons, List.map_nil, List.intercalate_cons_cons,
    List.intercalate_singleton, name "type" (by decide), name "uid" (by decide),
    name "body" (by decide), name "status" (by decide), name "response" (by decide)]
  simp [jsonPrefix, jsonBetweenStrings, jsonBeforeStatus]

/-- A response is read back from its text, whatever serialiser of the grammar has written it. -/
theorem SerdeJson.Documented.readObject_toWriter (documented : json.Documented)
    (grammatical : json.Grammatical) (response : ResourceResponse)
    : Json.readObject (json.toWriter response) = some response.members := by
  rw [documented.toWriter_eq, Json.readObject_written grammatical]

end Json

section ControlText

/-- A name is copied by the escapes of a connection. -/
theorem flatMap_jsonEscapeChar (name : String)
    (plain : name.toList.all (fun char => 0x1f < char.toNat && char ≠ '"' && char ≠ '\\') = true)
    : name.toList.flatMap jsonEscapeChar = name.toList :=
  serdeJson_documented.flatMap_name name plain

theorem ControlText.registerV1_eq (name : String)
    : "\x7b\"type\":\"register\",\"instance\":\"" ++ jsonEscape name ++ "\"\x7d"
      = Json.writeObject jsonEscapeChar
          [("type", .text "register"), ("instance", .text name)] := by
  apply String.toList_inj.mp
  simp only [Json.writeObject, Json.writeMember, Json.writeString, Json.writeScalar,
    String.toList_append, String.toList_ofList, List.map_cons, List.map_nil,
    List.intercalate_cons_cons, List.intercalate_singleton, jsonEscape,
    flatMap_jsonEscapeChar "type" (by decide), flatMap_jsonEscapeChar "register" (by decide),
    flatMap_jsonEscapeChar "instance" (by decide)]
  simp

theorem ControlText.registerV2_eq (name worker : String) (version : Nat)
    : "\x7b\"type\":\"register\",\"instance\":\"" ++ jsonEscape name ++ "\",\"worker\":\""
        ++ jsonEscape worker ++ "\",\"version\":" ++ toString version ++ "\x7d"
      = Json.writeObject jsonEscapeChar
          [("type", .text "register"), ("instance", .text name), ("worker", .text worker),
            ("version", .number version)] := by
  apply String.toList_inj.mp
  simp only [Json.writeObject, Json.writeMember, Json.writeString, Json.writeScalar,
    String.toList_append, String.toList_ofList, List.map_cons, List.map_nil,
    List.intercalate_cons_cons, List.intercalate_singleton, jsonEscape,
    flatMap_jsonEscapeChar "type" (by decide), flatMap_jsonEscapeChar "register" (by decide),
    flatMap_jsonEscapeChar "instance" (by decide), flatMap_jsonEscapeChar "worker" (by decide),
    flatMap_jsonEscapeChar "version" (by decide)]
  simp

theorem ControlText.ready_eq (uid worker : String)
    : "\x7b\"type\":\"ready\",\"uid\":\"" ++ jsonEscape uid ++ "\",\"worker\":\""
        ++ jsonEscape worker ++ "\"\x7d"
      = Json.writeObject jsonEscapeChar
          [("type", .text "ready"), ("uid", .text uid), ("worker", .text worker)] := by
  apply String.toList_inj.mp
  simp only [Json.writeObject, Json.writeMember, Json.writeString, Json.writeScalar,
    String.toList_append, String.toList_ofList, List.map_cons, List.map_nil,
    List.intercalate_cons_cons, List.intercalate_singleton, jsonEscape,
    flatMap_jsonEscapeChar "type" (by decide), flatMap_jsonEscapeChar "ready" (by decide),
    flatMap_jsonEscapeChar "uid" (by decide), flatMap_jsonEscapeChar "worker" (by decide)]
  simp

/-- The text of a control message is its object, written without blanks. -/
theorem ControlText.json_eq (content : ControlText)
    : content.json = Json.writeObject jsonEscapeChar content.members := by
  cases content with
  | register version name worker =>
      by_cases first : version = 1
      · rw [members, if_pos first, ← registerV1_eq]
        exact if_pos first
      · rw [members, if_neg first, ← registerV2_eq]
        exact if_neg first
  | ready uid worker => exact ready_eq uid worker
  | ping | pong => decide

/-- A control message is read back from its text. -/
theorem ControlText.readObject_json (content : ControlText)
    : Json.readObject content.json = some content.members := by
  rw [content.json_eq]
  exact Json.readObject_written serdeJson_grammatical content.members

end ControlText

-----------------------------------------------------------------------------------------
-- Forms
-----------------------------------------------------------------------------------------

/-- The text that bytes spell. -/
def textOf? (bytes : List UInt8) : Option String := String.fromUTF8? ⟨bytes.toArray⟩

@[simp] theorem textOf?_bytesOf (text : String) : textOf? (bytesOf text) = some text := by
  have valid : (ByteArray.mk (bytesOf text).toArray).IsValidUTF8 := text.isValidUTF8
  rw [textOf?, String.fromUTF8?, dif_pos valid]
  rfl

/-- Only its bytes spell a text. -/
theorem textOf?_eq_some {bytes : List UInt8} {text : String}
    : textOf? bytes = some text ↔ bytes = bytesOf text := by
  constructor
  · intro read
    rw [textOf?, String.fromUTF8?] at read
    split at read
    · obtain rfl := Option.some.inj read
      rfl
    · cases read
  · intro same
    exact same ▸ textOf?_bytesOf text

/-- A plus sign stands for a space. -/
def plusAsSpace (char : Char) : Char := if char = '+' then ' ' else char

/-- A name or a value of a form. -/
def readComponent (component : List Char) : Option String :=
  textOf? (percentDecode (component.map plusAsSpace))

/-- A pair, around its first equals sign. -/
def readPair (pair : List Char) : Option (String × String) := do
  let name ← readComponent (pair.takeWhile (· ≠ '='))
  let value ← readComponent ((pair.dropWhile (· ≠ '=')).drop 1)
  return (name, value)

/-- The pairs of a form. Nothing between two separators is no pair. -/
def readForm (form : String) : Option (List (String × String)) :=
  ((form.toList.splitOn '&').filter (· ≠ [])).mapM readPair

section Form

variable {form : FormUrlencoded}

/-- The bytes that a form spells with a percent sign. -/
def encodedInForm (byte : UInt8) : Bool := !copiedInForm byte && byte != 0x20

/-- But for the plus signs, a byte stands in a form as in a URL. -/
theorem FormUrlencoded.Documented.map_byte (documented : form.Documented) (byte : UInt8)
    : (form.byte byte).map plusAsSpace = percentEncodeByte encodedInForm byte := by
  have unplus {char : Char} (other : char ≠ '+') : plusAsSpace char = char := if_neg other
  cases copied : copiedInForm byte with
  | true =>
      have ascii := copiedInForm_ascii copied
      have small : ¬ 0x80 ≤ byte := by
        rw [UInt8.le_iff_toNat_le, Nat.not_le]
        exact Nat.lt_succ_of_le ascii
      have same : Char.ofNat byte.toNat ≠ '+' := by
        intro same
        have code := toNat_ofNat_ascii ascii
        rw [same] at code
        have plus : byte = 0x2b := UInt8.toNat_inj.mp code.symm
        subst plus
        cases copied
      have plain : ¬ (encodedInForm byte || decide (0x80 ≤ byte)) = true := by
        simp [encodedInForm, copied, small]
      rw [documented.copied byte copied, percentEncodeByte, if_neg plain, List.map_singleton,
        unplus same]
  | false =>
      by_cases space : byte = 0x20
      · subst space
        rw [documented.space]
        rfl
      · have small : byte.toNat < 256 := byte.toNat_lt
        have digit
            : ∀ digit < 16, plusAsSpace (hexDigit digit).toUpper = (hexDigit digit).toUpper := by
          decide
        have encoded : (encodedInForm byte || decide (0x80 ≤ byte)) = true := by
          simp [encodedInForm, copied, space]
        rw [documented.percent byte copied space, percentEncodeByte, if_pos encoded, List.map_cons,
          List.map_cons, List.map_singleton, unplus (by decide), digit _ (by omega),
          digit _ (by omega)]

/-- A component is read back. -/
theorem FormUrlencoded.Documented.readComponent_component (documented : form.Documented)
    (value : String)
    : readComponent (form.component value).toList = some value := by
  have same
      : (form.component value).toList.map plusAsSpace
        = (percentEncode encodedInForm value).toList := by
    rw [FormUrlencoded.component, percentEncode, String.toList_ofList, String.toList_ofList,
      List.map_flatMap]
    exact congrArg (List.flatMap · (bytesOf value)) (funext documented.map_byte)
  rw [readComponent, same, percentDecode_percentEncode rfl, textOf?_bytesOf]

/-- No separator stands in a component. -/
theorem FormUrlencoded.Documented.not_mem_component (documented : form.Documented)
    {separator : Char} (separates : separator = '&' ∨ separator = '=') (value : String)
    : separator ∉ (form.component value).toList := by
  rw [FormUrlencoded.component, String.toList_ofList, List.mem_flatMap]
  intro listed
  obtain ⟨byte, -, written⟩ := listed
  have small : byte.toNat < 256 := byte.toNat_lt
  cases copied : copiedInForm byte with
  | true =>
      have code := toNat_ofNat_ascii (copiedInForm_ascii copied)
      rw [documented.copied byte copied, List.mem_singleton] at written
      rw [← written] at code
      rcases separates with rfl | rfl
      · obtain rfl : byte = 0x26 := UInt8.toNat_inj.mp code.symm
        cases copied
      · obtain rfl : byte = 0x3d := UInt8.toNat_inj.mp code.symm
        cases copied
  | false =>
      by_cases space : byte = 0x20
      · subst space
        rw [documented.space] at written
        rcases separates with rfl | rfl <;> simp at written
      · have digit
            : ∀ digit < 16, '&' ≠ (hexDigit digit).toUpper ∧ '=' ≠ (hexDigit digit).toUpper := by
          decide
        have high := digit (byte.toNat / 16) (by omega)
        have low := digit (byte.toNat % 16) (by omega)
        rw [documented.percent byte copied space] at written
        rcases separates with rfl | rfl <;> simp [high, low] at written

/-- A pair of two components is read back. -/
theorem FormUrlencoded.Documented.readPair_components (documented : form.Documented)
    (name value : String)
    : readPair ((form.component name).toList ++ '=' :: (form.component value).toList)
      = some (name, value) := by
  have free : ∀ char ∈ (form.component name).toList, decide (char ≠ '=') = true := by
    intro char listed
    rw [decide_eq_true_eq]
    intro equals
    exact documented.not_mem_component (.inr equals) name listed
  have front
      : ((form.component name).toList ++ '=' :: (form.component value).toList).takeWhile (· ≠ '=')
        = (form.component name).toList := by
    rw [List.takeWhile_append_of_pos free, List.takeWhile_cons_of_neg (by simp), List.append_nil]
  have back
      : ((form.component name).toList ++ '=' :: (form.component value).toList).dropWhile (· ≠ '=')
        = '=' :: (form.component value).toList := by
    rw [List.dropWhile_append_of_pos free, List.dropWhile_cons_of_neg (by simp)]
  rw [readPair, front, back, documented.readComponent_component]
  simp only [List.drop_succ_cons, List.drop_zero, documented.readComponent_component,
    Option.bind_eq_bind, Option.bind_some, Option.pure_def]

/-- The form of a response has its status and its body. -/
theorem FormUrlencoded.Documented.readForm_formOf (documented : form.Documented)
    (response : ResourceResponse)
    : readForm (form.formOf response)
      = some [("status", toString response.status.toNat), ("body", response.body.text)] := by
  have status : form.component "status" = "status" :=
    documented.component_eq (forall_mem_of_all (by decide))
  have body : form.component "body" = "body" :=
    documented.component_eq (forall_mem_of_all (by decide))
  have digits := documented.component_digits response.status.toNat
  let pair (name value : String) : List Char :=
    (form.component name).toList ++ '=' :: (form.component value).toList
  have free (name value : String) : '&' ∉ pair name value := by
    simp [pair, documented.not_mem_component (.inl rfl)]
  have pairs
      : (form.formOf response).toList
        = ['&'].intercalate
            [pair "status" (toString response.status.toNat), pair "body" response.body.text] := by
    rw [FormUrlencoded.formOf]
    simp only [pair, status, body, digits, List.intercalate_cons_cons,
      List.intercalate_singleton, String.toList_append]
    simp
  have apart : ∀ written ∈ [pair "status" (toString response.status.toNat),
      pair "body" response.body.text], '&' ∉ written := by
    simp [free]
  rw [readForm, pairs, List.splitOn_intercalate '&' apart (by simp),
    List.filter_eq_self.mpr (by simp [pair])]
  simp only [List.mapM_cons, List.mapM_nil, pair, documented.readPair_components]
  rfl

end Form

-----------------------------------------------------------------------------------------
-- Answers
-----------------------------------------------------------------------------------------

/-- What the server learns from an answer. -/
structure Delivered where
  uid : String
  status : Nat
  body : String
deriving DecidableEq, Repr

def ResourceResponse.delivered (response : ResourceResponse) : Delivered where
  uid := response.uid.text
  status := response.status.toNat
  body := response.body.text

/-- The answer in a text frame, whose members are found by their names. -/
def readFrame (text : String) : Option Delivered := do
  let members ← Json.readObject text
  match members.lookup "type", members.lookup "uid", members.lookup "status",
      members.lookup "body" with
  | some (.text "response"), some (.text uid), some (.number status), some (.text body) =>
      some { uid, status, body }
  | _, _, _, _ => none

/-- The uid that a path names behind a base path. -/
def readUid (base path : String) : Option String :=
  let front := (base ++ "response/").toList
  let rest := path.toList.drop front.length
  let segment := rest.dropLast
  if path.toList = front ++ segment ++ ['/'] ∧ '/' ∉ segment then
    textOf? (percentDecode segment)
  else none

/-- A status in decimal digits. -/
def readStatus (digits : String) : Option Nat :=
  match Json.readNumber digits.toList with
  | some (status, []) => some status
  | _ => none

theorem readStatus_toString (status : Nat) : readStatus (toString status) = some status := by
  have closes : Json.Closes [] := fun _ listed => by cases listed
  have read := Json.readNumber_written status closes
  rw [List.append_nil] at read
  rw [readStatus, read]

/-- The answer in a POST to a path. -/
def readPost (base path form : String) : Option Delivered := do
  let uid ← readUid base path
  let pairs ← readForm form
  let status ← pairs.lookup "status"
  let status ← readStatus status
  let body ← pairs.lookup "body"
  return { uid, status, body }

/-- The uid is read exactly when the path names it. -/
theorem readUid_eq_some {base path uid : String}
    : readUid base path = some uid ↔ NamesUid base path uid := by
  constructor
  · intro read
    simp only [readUid] at read
    split at read
    · next shape =>
        obtain ⟨same, free⟩ := shape
        refine ⟨String.ofList (path.toList.drop (base ++ "response/").toList.length).dropLast,
          ?_, ?_, ?_⟩
        · rwa [String.toList_ofList]
        · rw [String.toList_ofList]
          exact textOf?_eq_some.mp read
        · apply String.toList_inj.mp
          rw [same]
          simp
    · cases read
  · intro names
    obtain ⟨segment, free, decoded, rfl⟩ := names
    have same
        : (base ++ "response" ++ "/" ++ segment ++ "/").toList
          = (base ++ "response/").toList ++ (segment.toList ++ ['/']) := by
      simp
    simp only [readUid, same, List.drop_left, List.dropLast_concat]
    rw [if_pos ⟨by simp, free⟩, decoded, textOf?_bytesOf]

/-- The answer in the text of a response is that response. -/
theorem SerdeJson.Documented.readFrame_toWriter {json : SerdeJson} (documented : json.Documented)
    (grammatical : json.Grammatical) (response : ResourceResponse)
    : readFrame (json.toWriter response) = some response.delivered := by
  rw [readFrame, documented.readObject_toWriter grammatical]
  rfl

/-- No control message is an answer. -/
theorem ControlText.readFrame_json (content : ControlText) : readFrame content.json = none := by
  rw [readFrame, content.readObject_json]
  cases content with
  | register version name worker =>
      by_cases first : version = 1
      · rw [members, if_pos first]
        rfl
      · rw [members, if_neg first]
        rfl
  | ready | ping | pong => rfl

/-- The form of a response, sent to a path that names a uid, is that response to that uid. -/
theorem FormUrlencoded.Documented.readPost_formOf {form : FormUrlencoded}
    (documented : form.Documented) (base path : String) (response : ResourceResponse)
    : readPost base path (form.formOf response)
      = (readUid base path).map fun uid => { response.delivered with uid } := by
  rw [readPost, documented.readForm_formOf]
  cases readUid base path with
  | none => rfl
  | some uid =>
      have status
          : [("status", toString response.status.toNat), ("body", response.body.text)].lookup
              "status"
            = some (toString response.status.toNat) :=
        rfl
      have body
          : [("status", toString response.status.toNat), ("body", response.body.text)].lookup
              "body"
            = some response.body.text :=
        rfl
      simp only [Option.bind_eq_bind, Option.bind_some, status, body, readStatus_toString,
        Option.pure_def, Option.map_some]
      rfl

-----------------------------------------------------------------------------------------
-- The uid of a POST
-----------------------------------------------------------------------------------------

/-- The uid that a response URL names, behind a base path that keeps its slashes: dot segments
name none, and the characters that the path parser drops are missing. What is one dot then has
left an empty segment.
-/
def namedUid? (uid : String) : Option String :=
  if uid = "." ∨ uid = ".." ∨ keptUid uid = ".." then none
  else if keptUid uid = "." then some ""
  else some (keptUid uid)

section Uid

variable {encodes : UInt8 → Bool} {base uid : String} {stem : List Char}

/-- A path with a segment names what the segment decodes to. -/
theorem readUid_segment {segment : String} (free : '/' ∉ segment.toList)
    (decoded : percentDecode segment.toList = bytesOf uid)
    : readUid base (base ++ "response" ++ "/" ++ segment ++ "/") = some uid :=
  readUid_eq_some.mpr ⟨segment, free, decoded, rfl⟩

/-- A path that names no uid at all. -/
theorem readUid_eq_none {path : String} (none : ∀ uid, ¬ NamesUid base path uid)
    : readUid base path = .none := by
  cases read : readUid base path with
  | none => rfl
  | some uid => exact absurd (readUid_eq_some.mp read) (none uid)

/-- What the response path of a uid names, by the cases of `push`. -/
theorem readUid_responsePath (slash : encodes 0x2f = true) (percent : encodes 0x25 = true)
    (copies : ∀ byte, isAsciiAlphanumeric byte = true → encodes byte = false)
    (closes : base.toList = stem ++ ['/'])
    : readUid base (responsePath encodes base uid)
      = if base = "//" then none else namedUid? uid := by
  have eight : "response".toList.length = 8 := by decide
  have one : "/".toList.length = 1 := by decide
  have shorter := @length_keptBase_le base
  by_cases double : base = "//"
  · rw [if_pos double]
    refine readUid_eq_none fun other => ?_
    rcases responsePath_shape uid percent copies closes with short | ⟨-, -, segment, -, path⟩
    · exact not_namesUid_of_shorter short
    · rw [path]
      intro names
      exact (segment_of_namesUid names).1 double
  rw [if_neg double, namedUid?]
  have kept : keptBase base = base := if_neg double
  by_cases dots : uid = "." ∨ uid = ".."
  · rw [if_pos (by tauto), responsePath_dots copies closes dots]
    refine readUid_eq_none fun _ => not_namesUid_of_shorter ?_
    simp only [String.toList_append, List.length_append]
    omega
  by_cases dotdot : keptUid uid = ".."
  · rw [if_pos (by tauto), responsePath_dotdot copies closes dots dotdot]
    refine readUid_eq_none fun _ => not_namesUid_of_shorter ?_
    split
    · omega
    · simp only [String.toList_append, List.length_append]
      omega
  rw [if_neg (by tauto)]
  by_cases dot : keptUid uid = "."
  · rw [if_pos dot, responsePath_dot copies closes dots dot, kept]
    have path : base ++ "response" ++ "/" ++ "/" = base ++ "response" ++ "/" ++ "" ++ "/" := by
      simp
    rw [path]
    exact readUid_segment (by decide) rfl
  · rw [if_neg dot, responsePath_segment copies closes dots dot dotdot, kept]
    exact readUid_segment (slash_not_mem_percentEncode slash _)
      (percentDecode_percentEncode percent _)

end Uid

-----------------------------------------------------------------------------------------
-- Both transports
-----------------------------------------------------------------------------------------

/-- What a receiver reads of the texts of a connection: a response is read back from its frame
with all its members, a control message with all of its own and never as an answer.
-/
structure SerdeJson.ReadBack (json : SerdeJson) : Prop where
  members : ∀ response, Json.readObject (json.toWriter response) = some response.members
  answers : ∀ response, readFrame (json.toWriter response) = some response.delivered
  controls : ∀ content : ControlText, Json.readObject content.json = some content.members
  apart : ∀ content : ControlText, readFrame content.json = none

/-- Every text frame says what it was written from, whatever serialiser of the grammar has written
it and whatever its texts contain.
-/
theorem SerdeJson.frames_readBack {json : SerdeJson} (documented : json.Documented)
    (grammatical : json.Grammatical)
    : json.ReadBack where
  members := documented.readObject_toWriter grammatical
  answers := documented.readFrame_toWriter grammatical
  controls := ControlText.readObject_json
  apart := ControlText.readFrame_json

theorem SerdeJson.frames_readBack_serdeJson : serdeJson.ReadBack :=
  frames_readBack serdeJson_documented serdeJson_grammatical

/-- What a POST says that carries a response to its URL, compared with the frame that carries it
over the WebSocket.
-/
structure Target.PostsRead (crate : UrlCrate) (target : Target) (form : FormUrlencoded)
    (json : SerdeJson)
    : Prop where
  pairs
    : ∀ response,
        readForm (form.formOf response)
        = some [("status", toString response.status.toNat), ("body", response.body.text)]
  delivers
    : ∀ (response : ResourceResponse) url,
        target.responseUrl crate response.uid.text = .ok url
        → readPost target.responseBase.path url.path (form.formOf response)
          = if target.responseBase.path = "//" then none
            else
              (namedUid? response.uid.text).map fun uid => { response.delivered with uid }
  agrees
    : ∀ (response : ResourceResponse) url,
        target.responseUrl crate response.uid.text = .ok url
        → (readPost target.responseBase.path url.path (form.formOf response)
              = readFrame (json.toWriter response)
            ↔ target.responseBase.path ≠ "//" ∧ PlainUid response.uid.text)

/-- A validated uid has its response path. -/
theorem UrlCrate.PushDocumented.path_of_responseUrl {crate : UrlCrate}
    (pushes : crate.PushDocumented) {target : Target} {uid : String} {url : Url}
    (special : (secureScheme target.responseBase.scheme).isSome = true)
    (located : target.responseUrl crate uid = .ok url)
    : url.path = responsePath crate.encodes target.responseBase.path uid := by
  have small : uid.utf8ByteSize ≤ maxUidSize := by
    rw [Target.responseUrl] at located
    split at located
    · cases located
    · next valid => exact validateField_eq_ok.mp valid
  rw [pushes.responseUrl_eq special small] at located
  rw [← Except.ok.inj located]

/-- The POST of a response says its status, its body and the uid that its path names, which is what
its frame says exactly when the uid is plain and the base path is not `//`.
-/
theorem Target.posts_read {crate : UrlCrate} (documented : crate.Documented)
    (pushes : crate.PushDocumented) {value : String} {target : Target}
    (parsed : Target.parse crate value = .ok target)
    {form : FormUrlencoded} (encodes : form.Documented)
    {json : SerdeJson} (writes : json.Documented) (grammatical : json.Grammatical)
    : target.PostsRead crate form json where
  pairs := encodes.readForm_formOf
  delivers response url located := by
    obtain ⟨special, stem, closes⟩ := documented.responseBase_closed parsed
    rw [encodes.readPost_formOf, pushes.path_of_responseUrl special located,
      readUid_responsePath pushes.encodes_slash pushes.encodes_percent
        pushes.copies_alphanumeric closes]
    split <;> rfl
  agrees response url located := by
    obtain ⟨special, stem, closes⟩ := documented.responseBase_closed parsed
    have names := @namesUid_iff crate.encodes _ response.uid.text _ pushes.encodes_slash
      pushes.encodes_percent pushes.copies_alphanumeric closes
    rw [encodes.readPost_formOf, writes.readFrame_toWriter grammatical, ← names,
      ← pushes.path_of_responseUrl special located, ← readUid_eq_some, Option.map_eq_some_iff]
    constructor
    · intro delivered
      obtain ⟨uid, read, same⟩ := delivered
      have named : uid = response.uid.text := congrArg Delivered.uid same
      rw [read, named]
    · intro read
      exact ⟨_, read, rfl⟩

theorem Target.posts_read_example
    : (exampleUrl.target true).PostsRead plainUrls formUrlencoded serdeJson := by
  have parsed
      : Target.parse plainUrls "https://example.test/a/" = .ok (exampleUrl.target true) := by
    decide
  exact Target.posts_read plainUrls_documented plainUrls_pushDocumented parsed
    formUrlencoded_documented serdeJson_documented serdeJson_grammatical

end ProxyClient
