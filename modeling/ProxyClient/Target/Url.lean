import ProxyClient.Effects
import ProxyClient.Foundations.Segments

/-! The `url` crate as the target uses it: what a parsed URL consists of, the functions that
`target.rs` calls, and what they document for `http`, `https`, `ws` and `wss` URLs.
-/

namespace ProxyClient

open Foundations

/-- A parsed URL, by the parts its accessors give. -/
structure Url where
  scheme : String
  username : String
  password : Option String
  host : Option String
  port : Option UInt16
  path : String
  query : Option String
  fragment : Option String
deriving DecidableEq

/-- Whether a target scheme is one over TLS; other schemes are no target schemes. -/
def secureScheme (scheme : String) : Option Bool :=
  if scheme = "http" ∨ scheme = "ws" then some false
  else if scheme = "https" ∨ scheme = "wss" then some true
  else none

/-- The functions of the crate. `copies` tells which path segments its path parser leaves as they
are, and `encodes` which bytes of a pushed segment it percent-encodes.
-/
structure UrlCrate where
  parse : String → Except BoxError Url
  asStr : Url → String
  setScheme : Url → String → Option Url
  setPath : Url → String → Url
  setQuery : Url → Option String → Url
  setFragment : Url → Option String → Url
  cannotBeABase : Url → Bool
  popIfEmpty : Url → Url
  push : Url → String → Url
  copies : List Char → Bool
  encodes : UInt8 → Bool

-----------------------------------------------------------------------------------------
-- Paths
-----------------------------------------------------------------------------------------

/-- A normalised path: absolute, and of segments that the path parser leaves as they are. -/
def UrlCrate.Normal (crate : UrlCrate) (path : String) : Prop :=
  ∃ segments : List (List Char),
    segments ≠ []
    ∧ path.toList = joined '/' segments
    ∧ ∀ segment ∈ segments, crate.copies segment = true

/-- What the crate documents of parsing and of its setters, for target schemes. A scheme change
that keeps the default port keeps the port.
-/
structure UrlCrate.Documented (crate : UrlCrate) : Prop where
  copies_nil : crate.copies [] = true
  copies_ws : crate.copies ['w', 's'] = true
  copies_free : ∀ segment, crate.copies segment = true → '/' ∉ segment
  parses
    : ∀ value url,
        crate.parse value = .ok url
        → (secureScheme url.scheme).isSome = true
        → crate.Normal url.path
  setScheme
    : ∀ (url : Url) scheme,
        (secureScheme url.scheme).isSome = true
        → secureScheme scheme = secureScheme url.scheme
        → crate.setScheme url scheme = some { url with scheme }
  setPath
    : ∀ (url : Url) path,
        (secureScheme url.scheme).isSome = true
        → crate.Normal path
        → crate.setPath url path = { url with path }
  setQuery : ∀ url, crate.setQuery url none = { url with query := none }
  setFragment : ∀ url, crate.setFragment url none = { url with fragment := none }

/-- The serialisation of a URL is read back: here of one with the authority of a parsed URL, a
normalised path, and neither query nor fragment.
-/
def UrlCrate.ReadsBack (crate : UrlCrate) : Prop :=
  ∀ value (url : Url) scheme path,
    crate.parse value = .ok url
    → (secureScheme url.scheme).isSome = true
    → secureScheme scheme = secureScheme url.scheme
    → crate.Normal path
    → crate.parse (crate.asStr { url with scheme, path, query := none, fragment := none })
      = .ok { url with scheme, path, query := none, fragment := none }

-----------------------------------------------------------------------------------------
-- Pushed segments
-----------------------------------------------------------------------------------------

/-- Percent-encoding: the bytes of a set and those beyond seven bits become `%XX`. -/
def percentEncodeByte (encodes : UInt8 → Bool) (byte : UInt8) : List Char :=
  if encodes byte || 0x80 ≤ byte then
    ['%', (hexDigit (byte.toNat / 16)).toUpper, (hexDigit (byte.toNat % 16)).toUpper]
  else [Char.ofNat byte.toNat]

def percentEncode (encodes : UInt8 → Bool) (text : String) : String :=
  String.ofList ((bytesOf text).flatMap (percentEncodeByte encodes))

/-- A hexadecimal digit of a percent-encoded byte. -/
def hexValue (char : Char) : Option Nat :=
  if char.isDigit then some (char.toNat - 0x30)
  else if 'A' ≤ char ∧ char ≤ 'F' then some (char.toNat - 0x41 + 10)
  else if 'a' ≤ char ∧ char ≤ 'f' then some (char.toNat - 0x61 + 10)
  else none

/-- Percent-decoding, to bytes. A `%` without two digits stands for itself. -/
def percentDecode : List Char → List UInt8
  | '%' :: high :: low :: rest =>
      match hexValue high, hexValue low with
      | some high, some low => UInt8.ofNat (high * 16 + low) :: percentDecode rest
      | _, _ => 0x25 :: percentDecode (high :: low :: rest)
  | char :: rest => String.utf8EncodeChar char ++ percentDecode rest
  | [] => []

/-- The characters that the path parser drops: tab, line feed and carriage return. -/
def droppedInPath (char : Char) : Bool := char == '\t' || char == '\n' || char == '\r'

/-- A path whose last segment is removed together with its separator, but for the root. -/
def shortenPath (path : String) : String :=
  if path = "/" then path
  else String.ofList (path.toList.dropLast.rdropWhile (fun char => char ≠ '/'))

/-- The path parser on one segment, behind an opened path: dot segments are resolved, everything
else is percent-encoded.
-/
def parseSegment (encodes : UInt8 → Bool) (opened segment : String) : String :=
  if segment = "." then opened
  else if segment = ".." then shortenPath opened
  else opened ++ percentEncode encodes segment

/-- The path after `push`: dot segments are skipped, and what is left goes to the path parser. -/
def pushedPath (encodes : UInt8 → Bool) (path segment : String) : String :=
  if segment = "." ∨ segment = ".." then path
  else
    let opened := if path = "/" then path else path ++ "/"
    parseSegment encodes opened
      (String.ofList (segment.toList.filter (fun char => !droppedInPath char)))

/-- The path after `pop_if_empty`. -/
def poppedPath (path : String) : String :=
  if 1 < path.toList.length ∧ path.toList.getLast? = some '/' then
    String.ofList path.toList.dropLast
  else path

/-- What the crate documents of `path_segments_mut`, for target schemes. Slashes and percent signs
of a pushed segment are encoded, letters and digits are not.
-/
structure UrlCrate.PushDocumented (crate : UrlCrate) : Prop where
  base : ∀ url : Url, (secureScheme url.scheme).isSome = true → crate.cannotBeABase url = false
  popIfEmpty
    : ∀ url : Url,
        (secureScheme url.scheme).isSome = true
        → crate.popIfEmpty url = { url with path := poppedPath url.path }
  push
    : ∀ (url : Url) segment,
        (secureScheme url.scheme).isSome = true
        → crate.push url segment
          = { url with path := pushedPath crate.encodes url.path segment }
  encodes_slash : crate.encodes 0x2f = true
  encodes_percent : crate.encodes 0x25 = true
  copies_alphanumeric : ∀ byte, isAsciiAlphanumeric byte = true → crate.encodes byte = false

end ProxyClient
