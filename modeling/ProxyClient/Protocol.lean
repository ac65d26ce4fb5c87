import ProxyClient.Foundations.Checked
import ProxyClient.Memory.Budget

/-! The wire messages of `protocol.rs`: identifier limits, the scrape response, and the
allocation-free lengths its two encoders are checked against. Their texts are owned strings
with the capacity of their buffers.
-/

namespace ProxyClient

open Foundations Memory

-----------------------------------------------------------------------------------------
-- Owned strings, and the size limits of `lib.rs`
-----------------------------------------------------------------------------------------

/-- The largest capacity the standard library gives a buffer, `isize::MAX`. -/
def isizeMax : Nat := 2 ^ 63 - 1

def maxBodySize : Nat := 64 * 1024 * 1024

def maxWsMessageSize : Nat := 64 * 1024 * 1024

/-- An owned `String`: its text, and the bytes its buffer takes from the allocator. -/
structure RustString where
  text : String
  capacity : Nat
  fits : text.utf8ByteSize ≤ capacity
  addressable : capacity ≤ isizeMax

namespace RustString

/-- `String::len`, in UTF-8 bytes. -/
def len (string : RustString) : Nat := string.text.utf8ByteSize

/-- `String::new`, which does not allocate. -/
def new : RustString := ⟨"", 0, by decide, by decide⟩

end RustString

theorem isizeMax_double : isizeMax + isizeMax ≤ usizeMax := by decide

/-- The capacities of two buffers never overflow `usize` together. -/
theorem checkedAdd_capacity (left right : RustString)
    : checkedAdd left.capacity right.capacity = some (left.capacity + right.capacity) :=
  if_pos (Nat.le_trans (Nat.add_le_add left.addressable right.addressable) isizeMax_double)

/-- The bytes of a text, in order. -/
def bytesOf (text : String) : List UInt8 := text.toByteArray.data.toList

theorem length_bytesOf (text : String) : (bytesOf text).length = text.utf8ByteSize := rfl

-----------------------------------------------------------------------------------------
-- Identifiers and messages
-----------------------------------------------------------------------------------------

def maxUidSize : Nat := 128
def maxResourceSize : Nat := 512
def maxInstanceSize : Nat := 256

/-- The error of an identifier over its byte limit. -/
structure FieldLimitError where
  field : String
  length : Nat
  limit : Nat
deriving DecidableEq, Repr

/-- `validate_field`. -/
def validateField (field : String) (value : String) (limit : Nat)
    : Except FieldLimitError Unit :=
  if value.utf8ByteSize ≤ limit then .ok ()
  else .error { field, length := value.utf8ByteSize, limit }

def validateUid (uid : String) : Except FieldLimitError Unit :=
  validateField "uid" uid maxUidSize

def validateResource (resource : String) : Except FieldLimitError Unit :=
  validateField "resource" resource maxResourceSize

def validateInstance (name : String) : Except FieldLimitError Unit :=
  validateField "instance" name maxInstanceSize

/-- A validated field is within its limit, and only such a field is validated. -/
theorem validateField_eq_ok {field value : String} {limit : Nat}
    : validateField field value limit = .ok () ↔ value.utf8ByteSize ≤ limit := by
  unfold validateField
  split <;> simp_all

/-- A message from the server, as serde reads its JSON text. -/
inductive IncomingMessage
  | ping
  | pong
  | ready (uid : RustString)
  | request (uid resource : RustString)
  | unknown

/-- `IncomingMessage::validate`. -/
def IncomingMessage.validate : IncomingMessage → Except FieldLimitError Unit
  | .ready uid => validateUid uid.text
  | .request uid resource => do
      validateUid uid.text
      validateResource resource.text
  | .ping | .pong | .unknown => .ok ()

/-- A scrape response. Its `kind` is always `response`. -/
structure ResourceResponse where
  uid : RustString
  body : RustString
  status : UInt16

/-- `ResourceResponse::new`. -/
def ResourceResponse.new (uid : RustString) (status : UInt16) (body : RustString)
    : ResourceResponse :=
  { uid, body, status }

-----------------------------------------------------------------------------------------
-- Encoded lengths, computed before anything is allocated
-----------------------------------------------------------------------------------------

-- `max` is `usize::MAX` of the target the client is built for.

/-- The bytes of one body or uid byte inside a JSON string. -/
def jsonByteLength (byte : UInt8) : Nat :=
  if byte = 0x22 ∨ byte = 0x5c ∨ byte = 0x08 ∨ byte = 0x09 ∨ byte = 0x0a ∨ byte = 0x0c
      ∨ byte = 0x0d then 2
  else if byte ≤ 0x1f then 6
  else 1

/-- `json_string_content_encoded_len`. -/
def jsonStringContentEncodedLenOn (max : Nat) (value : String) : Option Nat :=
  (bytesOf value).foldlM (fun length byte => addWithin max length (jsonByteLength byte)) 0

/-- `u8::is_ascii_alphanumeric`. -/
def isAsciiAlphanumeric (byte : UInt8) : Bool :=
  (0x30 ≤ byte && byte ≤ 0x39) || (0x41 ≤ byte && byte ≤ 0x5a) || (0x61 ≤ byte && byte ≤ 0x7a)

/-- The bytes of one body byte in a form: `* - . _` and the space are one byte as well. -/
def formByteLength (byte : UInt8) : Nat :=
  if isAsciiAlphanumeric byte || byte == 0x2a || byte == 0x2d || byte == 0x2e || byte == 0x5f
      || byte == 0x20 then 1
  else 3

/-- `form_component_encoded_len`. -/
def formComponentEncodedLenOn (max : Nat) (value : String) : Option Nat :=
  (bytesOf value).foldlM (fun length byte => addWithin max length (formByteLength byte)) 0

/-- `decimal_digits`. -/
def decimalDigits (value : UInt16) : Nat :=
  if value ≤ 9 then 1
  else if value ≤ 99 then 2
  else if value ≤ 999 then 3
  else if value ≤ 9999 then 4
  else 5

/-- The digit table counts the bytes of the decimal number. -/
theorem decimalDigits_eq (status : UInt16)
    : decimalDigits status = (toString status.toNat).utf8ByteSize := by
  have small : status.toNat < 65536 := status.toNat_lt
  have digits (count : Nat) (lower : count = 0 ∨ 10 ^ count ≤ status.toNat)
      (upper : status.toNat < 10 ^ (count + 1))
      : (toString status.toNat).utf8ByteSize = count + 1 := by
    have size := utf8ByteSize_repr status.toNat
    rw [length_repr_eq lower upper] at size
    exact size
  simp only [decimalDigits, UInt16.le_iff_toNat_le]
  split
  · next few => exact (digits 0 (.inl rfl) (Nat.lt_succ_of_le few)).symm
  · next many =>
      have many : 9 < status.toNat := Nat.not_le.mp many
      split
      · next few => exact (digits 1 (.inr many) (Nat.lt_succ_of_le few)).symm
      · next many =>
          have many : 99 < status.toNat := Nat.not_le.mp many
          split
          · next few => exact (digits 2 (.inr many) (Nat.lt_succ_of_le few)).symm
          · next many =>
              have many : 999 < status.toNat := Nat.not_le.mp many
              split
              · next few => exact (digits 3 (.inr many) (Nat.lt_succ_of_le few)).symm
              · next many =>
                  have many : 9999 < status.toNat := Nat.not_le.mp many
                  exact (digits 4 (.inr many) (by omega)).symm

theorem decimalDigits_le (status : UInt16) : decimalDigits status ≤ 5 := by
  unfold decimalDigits
  repeat' split
  all_goals decide

def jsonPrefix : String := "\x7b\"type\":\"response\",\"uid\":\""
def jsonBetweenStrings : String := "\",\"body\":\""
def jsonBeforeStatus : String := "\",\"status\":"

/-- `response_json_encoded_len`. -/
def responseJsonEncodedLenOn (max : Nat) (response : ResourceResponse) : Option Nat := do
  let length ← addWithin max jsonPrefix.utf8ByteSize
    (← jsonStringContentEncodedLenOn max response.uid.text)
  let length ← addWithin max length jsonBetweenStrings.utf8ByteSize
  let length ← addWithin max length (← jsonStringContentEncodedLenOn max response.body.text)
  let length ← addWithin max length jsonBeforeStatus.utf8ByteSize
  let length ← addWithin max length (decimalDigits response.status)
  addWithin max length 1

/-- `response_json_encoded_len` on a 64-bit target. -/
def responseJsonEncodedLen (response : ResourceResponse) : Option Nat :=
  responseJsonEncodedLenOn usizeMax response

def formFields : Nat := "status=".utf8ByteSize + "&body=".utf8ByteSize

/-- `response_form_encoded_len`. -/
def responseFormEncodedLenOn (max : Nat) (response : ResourceResponse) : Option Nat := do
  let length ← addWithin max formFields (decimalDigits response.status)
  addWithin max length (← formComponentEncodedLenOn max response.body.text)

/-- `response_form_encoded_len` on a 64-bit target. -/
def responseFormEncodedLen (response : ResourceResponse) : Option Nat :=
  responseFormEncodedLenOn usizeMax response

-----------------------------------------------------------------------------------------
-- The encoders
-----------------------------------------------------------------------------------------

/-- A lowercase hexadecimal digit. -/
def hexDigit (value : Nat) : Char := Nat.digitChar value

/-- One character of a JSON string as serde_json writes it: two-byte escapes for quote,
backslash and the five short control characters, `\u00xx` for the other control characters.
-/
def jsonEscapeChar (char : Char) : List Char :=
  if char = '"' then ['\\', '"']
  else if char = '\\' then ['\\', '\\']
  else if char.val = 0x08 then ['\\', 'b']
  else if char.val = 0x09 then ['\\', 't']
  else if char.val = 0x0a then ['\\', 'n']
  else if char.val = 0x0c then ['\\', 'f']
  else if char.val = 0x0d then ['\\', 'r']
  else if char.val ≤ 0x1f then
    ['\\', 'u', '0', '0', hexDigit (char.toNat / 16), hexDigit (char.toNat % 16)]
  else [char]

/-- The content of a JSON string. -/
def jsonEscape (value : String) : String := String.ofList (value.toList.flatMap jsonEscapeChar)

/-- `response_json`: fields in declaration order without spaces. -/
def responseJson (response : ResourceResponse) : String :=
  jsonPrefix ++ jsonEscape response.uid.text ++ jsonBetweenStrings
    ++ jsonEscape response.body.text ++ jsonBeforeStatus
    ++ toString response.status.toNat ++ "\x7d"

/-- One byte of a form component: a space becomes `+`, reserved bytes become `%XX`. -/
def formEscapeByte (byte : UInt8) : List Char :=
  if byte == 0x20 then ['+']
  else if formByteLength byte = 1 then [Char.ofNat byte.toNat]
  else ['%', (hexDigit (byte.toNat / 16)).toUpper, (hexDigit (byte.toNat % 16)).toUpper]

/-- `encode_form`. -/
def encodeForm (response : ResourceResponse) : String :=
  "status=" ++ toString response.status.toNat ++ "&body="
    ++ String.ofList ((bytesOf response.body.text).flatMap formEscapeByte)

/-- A JSON text this client sends on the control queue. -/
inductive ControlText
  | register (protocol : Nat) (name worker : String)
  | ready (uid worker : String)
  | ping
  | pong
deriving DecidableEq, Repr

/-- `register_json`, `ready_json`, `PING_JSON` and `PONG_JSON`. -/
def ControlText.json : ControlText → String
  | .register protocol name worker =>
      if protocol = 1 then
        "\x7b\"type\":\"register\",\"instance\":\"" ++ jsonEscape name ++ "\"\x7d"
      else
        "\x7b\"type\":\"register\",\"instance\":\"" ++ jsonEscape name ++ "\",\"worker\":\""
          ++ jsonEscape worker ++ "\",\"version\":" ++ toString protocol ++ "\x7d"
  | .ready uid worker =>
      "\x7b\"type\":\"ready\",\"uid\":\"" ++ jsonEscape uid ++ "\",\"worker\":\""
        ++ jsonEscape worker ++ "\"\x7d"
  | .ping => "\x7b\"type\":\"ping\"\x7d"
  | .pong => "\x7b\"type\":\"pong\"\x7d"

end ProxyClient
