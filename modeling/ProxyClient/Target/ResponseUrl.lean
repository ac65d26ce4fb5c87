import ProxyClient.Target.Endpoints

/-! The URL of a wire-v3 response names its uid as one path segment. The uid is whatever the server
has chosen, so it matters what the `url` crate makes of every text.
-/

namespace ProxyClient

open Foundations

-----------------------------------------------------------------------------------------
-- Percent-encoding
-----------------------------------------------------------------------------------------

section Percent

variable {encodes : UInt8 → Bool}

/-- A character of seven bits has its code. -/
theorem toNat_ofNat_ascii {code : Nat} (ascii : code ≤ 0x7f) : (Char.ofNat code).toNat = code := by
  have every : ∀ code ≤ 0x7f, (Char.ofNat code).toNat = code := by decide
  exact every code ascii

/-- One encoded byte is decoded to itself. -/
theorem percentDecode_byte (percent : encodes 0x25 = true) (byte : UInt8) (rest : List Char)
    : percentDecode (percentEncodeByte encodes byte ++ rest) = byte :: percentDecode rest := by
  have small : byte.toNat < 256 := byte.toNat_lt
  unfold percentEncodeByte
  split
  · have digits : ∀ digit < 16, hexValue (hexDigit digit).toUpper = some digit := by decide
    have same : byte.toNat / 16 * 16 + byte.toNat % 16 = byte.toNat := by omega
    simp only [List.cons_append, List.nil_append]
    rw [percentDecode, digits _ (by omega), digits _ (by omega)]
    simp only [same, UInt8.ofNat_toNat]
  · next plain =>
      simp only [Bool.or_eq_true, decide_eq_true_eq, not_or, UInt8.le_iff_toNat_le] at plain
      have ascii : byte.toNat ≤ 0x7f := Nat.le_of_lt_succ (Nat.lt_of_not_le plain.2)
      have code := toNat_ofNat_ascii ascii
      have other : Char.ofNat byte.toNat ≠ '%' := by
        intro same
        rw [same] at code
        have percent' : byte = 0x25 := UInt8.toNat_inj.mp code.symm
        exact plain.1 (percent' ▸ percent)
      have seven : (Char.ofNat byte.toNat).toNat ≤ 0x7f := by
        rw [code]
        exact ascii
      rw [List.singleton_append, percentDecode.eq_2 _ _ fun _ _ _ same _ => other same,
        utf8EncodeChar_ascii seven, code, UInt8.ofNat_toNat]
      rfl

/-- Percent-decoding undoes percent-encoding, by induction over the bytes. -/
theorem percentDecode_percentEncode (percent : encodes 0x25 = true) (text : String)
    : percentDecode (percentEncode encodes text).toList = bytesOf text := by
  rw [percentEncode, String.toList_ofList]
  induction bytesOf text with
  | nil => rfl
  | cons byte rest ih => rw [List.flatMap_cons, percentDecode_byte percent, ih]

/-- An encoded text is one segment. -/
theorem slash_not_mem_percentEncode (slash : encodes 0x2f = true) (text : String)
    : '/' ∉ (percentEncode encodes text).toList := by
  rw [percentEncode, String.toList_ofList]
  intro listed
  obtain ⟨byte, -, written⟩ := List.mem_flatMap.mp listed
  have small : byte.toNat < 256 := byte.toNat_lt
  unfold percentEncodeByte at written
  split at written
  · have digits : ∀ digit < 16, '/' ≠ (hexDigit digit).toUpper := by decide
    simp only [List.mem_cons, List.not_mem_nil, or_false] at written
    rcases written with absent | absent | absent
    · cases absent
    · exact digits _ (by omega) absent
    · exact digits _ (by omega) absent
  · next plain =>
      simp only [Bool.or_eq_true, decide_eq_true_eq, not_or, UInt8.le_iff_toNat_le] at plain
      have ascii : byte.toNat ≤ 0x7f := Nat.le_of_lt_succ (Nat.lt_of_not_le plain.2)
      have code := toNat_ofNat_ascii ascii
      rw [← List.mem_singleton.mp written] at code
      have slash' : byte = 0x2f := UInt8.toNat_inj.mp code.symm
      exact plain.1 (slash' ▸ slash)

/-- The segment that names the endpoint is copied. -/
theorem percentEncode_response
    (copies : ∀ byte, isAsciiAlphanumeric byte = true → encodes byte = false)
    : percentEncode encodes "response" = "response" := by
  have plain
      : ∀ byte ∈ bytesOf "response",
          percentEncodeByte encodes byte = [Char.ofNat byte.toNat] := by
    intro byte listed
    have letters
        : ∀ byte ∈ bytesOf "response",
            isAsciiAlphanumeric byte = true ∧ ¬ 0x80 ≤ byte :=
      forall_mem_of_all (by decide)
    obtain ⟨letter, ascii⟩ := letters byte listed
    simp [percentEncodeByte, copies byte letter, ascii]
  have text
      : String.ofList ((bytesOf "response").flatMap fun byte => [Char.ofNat byte.toNat])
        = "response" := by
    decide
  rw [percentEncode, List.flatMap_congr plain, text]

@[simp] theorem percentEncode_empty : percentEncode encodes "" = "" := rfl

end Percent

-----------------------------------------------------------------------------------------
-- The path of a response
-----------------------------------------------------------------------------------------

/-- The path that `response_url` builds behind a base path. -/
def responsePath (encodes : UInt8 → Bool) (base uid : String) : String :=
  pushedPath encodes (pushedPath encodes (pushedPath encodes (poppedPath base) "response") uid) ""

/-- The part of a base path that a response URL keeps: all of it, unless it is `//`. -/
def keptBase (base : String) : String := if base = "//" then "/" else base

/-- A uid without the characters that the path parser drops. -/
def keptUid (uid : String) : String :=
  String.ofList (uid.toList.filter (fun char => !droppedInPath char))

section Path

variable {encodes : UInt8 → Bool} {base uid : String} {stem : List Char}

/-- A base path closes with a slash, so that the part kept does too. -/
theorem keptBase_closed (closes : base.toList = stem ++ ['/'])
    : ∃ start, (keptBase base).toList = start ++ ['/'] := by
  unfold keptBase
  split
  · exact ⟨[], by decide⟩
  · exact ⟨stem, closes⟩

/-- The empty segment opens a path. -/
theorem pushedPath_empty {path : String} (some : path ≠ "/")
    : pushedPath encodes path "" = path ++ "/" := by
  have kept : String.ofList ("".toList.filter (fun char => !droppedInPath char)) = "" := by decide
  rw [pushedPath, kept, if_neg some]
  simp [parseSegment]

/-- Popping and opening again changes only the base `//`, of which one slash is lost. -/
theorem opened_poppedPath (closes : base.toList = stem ++ ['/'])
    : (if poppedPath base = "/" then poppedPath base else poppedPath base ++ "/")
      = keptBase base := by
  by_cases root : stem = []
  · obtain rfl : base = "/" := by
      rw [← String.toList_inj, closes, root]
      decide
    decide
  · by_cases double : stem = ['/']
    · obtain rfl : base = "//" := by
        rw [← String.toList_inj, closes, double]
        decide
      decide
    · have long : 1 < base.toList.length ∧ base.toList.getLast? = some '/' := by
        have positive := List.length_pos_iff.mpr root
        rw [closes, List.length_append]
        exact ⟨by simpa using positive, by simp⟩
      have popped : poppedPath base = String.ofList stem := by
        rw [poppedPath, if_pos long, closes, List.dropLast_concat]
      have below : String.ofList stem ≠ "/" := by
        intro same
        have chars := congrArg String.toList same
        rw [String.toList_ofList] at chars
        exact double chars
      have other : base ≠ "//" := by
        rintro rfl
        have chars : ['/'] ++ ['/'] = stem ++ ['/'] := closes
        exact double (List.append_inj_left' chars rfl).symm
      rw [popped, if_neg below, keptBase, if_neg other, ← String.toList_inj, closes,
        String.toList_append, String.toList_ofList]
      rfl

/-- The first push is behind the base, whose trailing slash has been popped. -/
theorem pushedPath_response
    (copies : ∀ byte, isAsciiAlphanumeric byte = true → encodes byte = false)
    (closes : base.toList = stem ++ ['/'])
    : pushedPath encodes (poppedPath base) "response" = keptBase base ++ "response" := by
  have kept
      : String.ofList ("response".toList.filter (fun char => !droppedInPath char))
        = "response" := by
    decide
  rw [pushedPath, kept, if_neg (by decide)]
  dsimp only
  rw [opened_poppedPath closes, parseSegment, if_neg (by decide), if_neg (by decide),
    percentEncode_response copies]

/-- What follows a base path is longer than a single slash. -/
theorem append_response_ne {more : String} : keptBase base ++ "response" ++ more ≠ "/" := by
  intro same
  have lengths := congrArg (fun text => text.toList.length) same
  simp only [String.toList_append, List.length_append] at lengths
  have eight : "response".toList.length = 8 := by decide
  have one : "/".toList.length = 1 := by decide
  omega

/-- A dot segment is skipped. -/
theorem responsePath_dots
    (copies : ∀ byte, isAsciiAlphanumeric byte = true → encodes byte = false)
    (closes : base.toList = stem ++ ['/']) (dots : uid = "." ∨ uid = "..")
    : responsePath encodes base uid = keptBase base ++ "response" ++ "/" := by
  have some : keptBase base ++ "response" ≠ "/" := by
    simpa using @append_response_ne base ""
  rw [responsePath, pushedPath_response copies closes]
  have skipped : pushedPath encodes (keptBase base ++ "response") uid
      = keptBase base ++ "response" := by
    rw [pushedPath, if_pos dots]
  rw [skipped, pushedPath_empty some]

/-- Any other uid goes to the path parser without its dropped characters. -/
theorem pushedPath_uid (plain : ¬ (uid = "." ∨ uid = ".."))
    : pushedPath encodes (keptBase base ++ "response") uid
      = parseSegment encodes (keptBase base ++ "response" ++ "/") (keptUid uid) := by
  have some : keptBase base ++ "response" ≠ "/" := by
    simpa using @append_response_ne base ""
  rw [pushedPath, if_neg plain, if_neg some]
  rfl

/-- A text that is one dot once characters are dropped is resolved: an empty segment is left. -/
theorem responsePath_dot
    (copies : ∀ byte, isAsciiAlphanumeric byte = true → encodes byte = false)
    (closes : base.toList = stem ++ ['/']) (plain : ¬ (uid = "." ∨ uid = ".."))
    (dot : keptUid uid = ".")
    : responsePath encodes base uid = keptBase base ++ "response" ++ "/" ++ "/" := by
  rw [responsePath, pushedPath_response copies closes, pushedPath_uid plain, dot, parseSegment,
    if_pos rfl, pushedPath_empty append_response_ne]

/-- Shortening drops the segment of the endpoint. -/
theorem shortenPath_response (closes : base.toList = stem ++ ['/'])
    : shortenPath (keptBase base ++ "response" ++ "/") = keptBase base := by
  obtain ⟨start, kept⟩ := keptBase_closed closes
  have letters : ∀ char ∈ "response".toList.reverse, decide (char ≠ '/') = true :=
    forall_mem_of_all (by decide)
  have slash : "/".toList = ['/'] := by decide
  have some : keptBase base ++ "response" ++ "/" ≠ "/" := append_response_ne
  rw [shortenPath, if_neg some, String.toList_append, slash, List.dropLast_concat,
    String.toList_append, List.rdropWhile, List.reverse_append,
    List.dropWhile_append_of_pos letters, kept, List.reverse_append, List.reverse_singleton,
    List.singleton_append, List.dropWhile_cons_of_neg (by decide)]
  rw [← String.toList_inj, String.toList_ofList, kept]
  simp

/-- And one that is two dots removes the endpoint itself. -/
theorem responsePath_dotdot
    (copies : ∀ byte, isAsciiAlphanumeric byte = true → encodes byte = false)
    (closes : base.toList = stem ++ ['/']) (plain : ¬ (uid = "." ∨ uid = ".."))
    (dots : keptUid uid = "..")
    : responsePath encodes base uid
      = if keptBase base = "/" then "/" else keptBase base ++ "/" := by
  rw [responsePath, pushedPath_response copies closes, pushedPath_uid plain, dots, parseSegment,
    if_neg (by decide), if_pos rfl, shortenPath_response closes]
  split
  · next root =>
      rw [root]
      have kept : String.ofList ("".toList.filter (fun char => !droppedInPath char)) = "" := by
        decide
      rw [pushedPath, kept]
      simp [parseSegment]
  · next root => exact pushedPath_empty root

/-- Every other text is one encoded segment. -/
theorem responsePath_segment
    (copies : ∀ byte, isAsciiAlphanumeric byte = true → encodes byte = false)
    (closes : base.toList = stem ++ ['/']) (plain : ¬ (uid = "." ∨ uid = ".."))
    (dot : keptUid uid ≠ ".") (dots : keptUid uid ≠ "..")
    : responsePath encodes base uid
      = keptBase base ++ "response" ++ "/" ++ percentEncode encodes (keptUid uid) ++ "/" := by
  have some : keptBase base ++ "response" ++ "/" ++ percentEncode encodes (keptUid uid) ≠ "/" := by
    rw [String.append_assoc]
    exact append_response_ne
  rw [responsePath, pushedPath_response copies closes, pushedPath_uid plain, parseSegment,
    if_neg dot, if_neg dots, pushedPath_empty some]

end Path

-----------------------------------------------------------------------------------------
-- Uids and URLs
-----------------------------------------------------------------------------------------

/-- The response path names the uid: it is the base path, `response/`, one segment that decodes to
the uid, and a slash.
-/
def NamesUid (base path uid : String) : Prop :=
  ∃ segment : String,
    '/' ∉ segment.toList
    ∧ percentDecode segment.toList = bytesOf uid
    ∧ path = base ++ "response" ++ "/" ++ segment ++ "/"

/-- The uids that the path parser copies into one segment: no dot segment, and nothing that it
drops.
-/
def PlainUid (uid : String) : Prop :=
  uid ≠ "." ∧ uid ≠ ".." ∧ ∀ char ∈ uid.toList, droppedInPath char = false

/-- Nothing is dropped from a text without such characters. -/
theorem keptUid_eq_self {uid : String} (plain : ∀ char ∈ uid.toList, droppedInPath char = false)
    : keptUid uid = uid := by
  have all : uid.toList.filter (fun char => !droppedInPath char) = uid.toList := by
    apply List.filter_eq_self.mpr
    intro char listed
    simp [plain char listed]
  rw [keptUid, all, String.ofList_toList]

/-- Something is dropped from every other text. -/
theorem keptUid_ne_self {uid : String} {char : Char} (listed : char ∈ uid.toList)
    (dropped : droppedInPath char = true)
    : keptUid uid ≠ uid := by
  intro same
  have kept : char ∈ (keptUid uid).toList := by
    rw [same]
    exact listed
  rw [keptUid, String.toList_ofList, List.mem_filter] at kept
  simp [dropped] at kept

/-- The bytes of a text determine it. -/
theorem bytesOf_inj {left right : String} (same : bytesOf left = bytesOf right) : left = right :=
  String.toByteArray_inj.mp (ByteArray.ext (Array.toList_inj.mp same))

/-- A path that stands behind another base names no uid. -/
theorem not_namesUid_of_shorter {base path uid : String}
    (shorter : path.toList.length < base.toList.length + 10)
    : ¬ NamesUid base path uid := by
  rintro ⟨segment, -, -, rfl⟩
  have eight : "response".toList.length = 8 := by decide
  have one : "/".toList.length = 1 := by decide
  simp only [String.toList_append, List.length_append] at shorter
  omega

section Names

variable {encodes : UInt8 → Bool} {base uid : String} {stem : List Char}

/-- A path behind the base `//` is not behind it, since one of its slashes was lost. -/
theorem not_namesUid_double {more : String} : ¬ NamesUid "//" ("/" ++ "response" ++ more) uid := by
  rintro ⟨segment, -, -, same⟩
  have chars := congrArg String.toList same
  simp only [String.toList_append] at chars
  have double : "//".toList = ['/', '/'] := by decide
  have single : "/".toList = ['/'] := by decide
  have response : "response".toList = ['r', 'e', 's', 'p', 'o', 'n', 's', 'e'] := by decide
  rw [double, single, response] at chars
  cases chars

/-- The segment of a response path is determined by the path. -/
theorem segment_inj {left right : String}
    (same
      : base ++ "response" ++ "/" ++ left ++ "/" = base ++ "response" ++ "/" ++ right ++ "/")
    : left = right := by
  have chars := congrArg String.toList same
  rw [String.toList_append, String.toList_append (s := base ++ "response" ++ "/" ++ right)] at chars
  have front := List.append_cancel_right chars
  rw [String.toList_append, String.toList_append (s := base ++ "response" ++ "/")] at front
  exact String.toList_inj.mp (List.append_cancel_left front)

theorem length_keptBase_le : (keptBase base).toList.length ≤ base.toList.length := by
  unfold keptBase
  split
  · next double =>
      subst double
      decide
  · exact Nat.le_refl _

/-- The cases of `push`: a dot segment makes the path too short, and otherwise a segment is
pushed that decodes to the uid only if nothing is dropped from the uid.
-/
theorem responsePath_shape (uid : String) (percent : encodes 0x25 = true)
    (copies : ∀ byte, isAsciiAlphanumeric byte = true → encodes byte = false)
    (closes : base.toList = stem ++ ['/'])
    : (responsePath encodes base uid).toList.length < base.toList.length + 10
      ∨ (uid ≠ "." ∧ uid ≠ ".."
        ∧ ∃ segment,
            (percentDecode segment.toList = bytesOf uid → keptUid uid = uid)
            ∧ responsePath encodes base uid
              = keptBase base ++ "response" ++ "/" ++ segment ++ "/") := by
  have eight : "response".toList.length = 8 := by decide
  have one : "/".toList.length = 1 := by decide
  have shorter := @length_keptBase_le base
  by_cases dots : uid = "." ∨ uid = ".."
  · rw [responsePath_dots copies closes dots]
    left
    simp only [String.toList_append, List.length_append]
    omega
  · by_cases dotdot : keptUid uid = ".."
    · rw [responsePath_dotdot copies closes dots dotdot]
      left
      split
      · omega
      · simp only [String.toList_append, List.length_append]
        omega
    · refine .inr ⟨fun dot => dots (.inl dot), fun dot => dots (.inr dot), ?_⟩
      by_cases dot : keptUid uid = "."
      · refine ⟨"", ?_, ?_⟩
        · intro none
          obtain rfl : uid = "" := bytesOf_inj none.symm
          decide
        · rw [responsePath_dot copies closes dots dot]
          simp
      · refine ⟨percentEncode encodes (keptUid uid), ?_, ?_⟩
        · intro decoded
          rw [percentDecode_percentEncode percent] at decoded
          exact bytesOf_inj decoded
        · exact responsePath_segment copies closes dots dot dotdot

/-- A path with a pushed segment names a uid only behind a base that keeps its slashes, and
only by that segment.
-/
theorem segment_of_namesUid {segment : String}
    (names : NamesUid base (keptBase base ++ "response" ++ "/" ++ segment ++ "/") uid)
    : base ≠ "//" ∧ percentDecode segment.toList = bytesOf uid := by
  by_cases double : base = "//"
  · subst double
    have root : keptBase "//" = "/" := by decide
    have behind : "/" ++ "response" ++ "/" ++ segment ++ "/"
        = "/" ++ "response" ++ ("/" ++ segment ++ "/") := by
      simp only [String.append_assoc]
    rw [root, behind] at names
    exact absurd names not_namesUid_double
  · rw [keptBase, if_neg double] at names
    obtain ⟨named, -, same, text⟩ := names
    rw [← segment_inj text] at same
    exact ⟨double, same⟩

/-- A response path names its uid exactly when the base keeps its slashes and the uid is plain. -/
theorem namesUid_iff (slash : encodes 0x2f = true) (percent : encodes 0x25 = true)
    (copies : ∀ byte, isAsciiAlphanumeric byte = true → encodes byte = false)
    (closes : base.toList = stem ++ ['/'])
    : NamesUid base (responsePath encodes base uid) uid ↔ base ≠ "//" ∧ PlainUid uid := by
  constructor
  · intro names
    rcases responsePath_shape uid percent copies closes
      with short | ⟨dot, dots, segment, decoded, path⟩
    · exact absurd names (not_namesUid_of_shorter short)
    · rw [path] at names
      obtain ⟨double, same⟩ := segment_of_namesUid names
      refine ⟨double, dot, dots, ?_⟩
      intro char listed
      cases dropped : droppedInPath char with
      | false => rfl
      | true => exact absurd (decoded same) (keptUid_ne_self listed dropped)
  · rintro ⟨base', dot, dots, plain⟩
    have kept := keptUid_eq_self plain
    have dot' : keptUid uid ≠ "." := by
      rw [kept]
      exact dot
    have dots' : keptUid uid ≠ ".." := by
      rw [kept]
      exact dots
    rw [responsePath_segment copies closes (not_or.mpr ⟨dot, dots⟩) dot' dots', keptBase,
      if_neg base', kept]
    exact ⟨percentEncode encodes uid, slash_not_mem_percentEncode slash uid,
      percentDecode_percentEncode percent uid, rfl⟩

end Names

/-- The response URL of a uid identifies it. -/
def Target.IdentifiesUid (crate : UrlCrate) (target : Target) (uid : String) : Prop :=
  ∃ url,
    target.responseUrl crate uid = .ok url
    ∧ NamesUid target.responseBase.path url.path uid

/-- The response URL is the base with the response path. -/
theorem UrlCrate.PushDocumented.responseUrl_eq {crate : UrlCrate} (pushes : crate.PushDocumented)
    {target : Target} {uid : String}
    (special : (secureScheme target.responseBase.scheme).isSome = true)
    (small : uid.utf8ByteSize ≤ maxUidSize)
    : target.responseUrl crate uid
      = .ok { target.responseBase with
          path := responsePath crate.encodes target.responseBase.path uid } := by
  have valid : validateUid uid = .ok () := validateField_eq_ok.mpr small
  have push (path segment : String)
      : crate.push { target.responseBase with path } segment
        = { target.responseBase with path := pushedPath crate.encodes path segment } :=
    pushes.push _ _ special
  rw [Target.responseUrl, valid]
  dsimp only
  rw [pushes.base _ special, pushes.popIfEmpty _ special, push, push, push]
  rfl

/-- A base path closes with a slash. -/
theorem UrlCrate.Documented.responseBase_closed {crate : UrlCrate} (documented : crate.Documented)
    {value : String} {target : Target} (parsed : Target.parse crate value = .ok target)
    : (secureScheme target.responseBase.scheme).isSome = true
      ∧ ∃ stem, target.responseBase.path.toList = stem ++ ['/'] := by
  obtain ⟨source, secure, read, known, rfl⟩ := documented.parse_ok_iff.mp parsed
  have special : (secureScheme source.scheme).isSome = true :=
    Option.isSome_of_eq_some known
  obtain ⟨core, same, -, free, ended⟩ :=
    documented.trimmed_path (documented.parses _ _ read special)
  obtain ⟨base, -⟩ := endpointPaths_path same free ended
  obtain ⟨front, closes⟩ := closed_eq_concat (stripped core)
  refine ⟨?_, joined '/' front, ?_⟩
  · cases secure <;> rfl
  · rw [Url.target_responseBase_path, base, closes, joined_concat_nil]

/-- Which uids the response URLs of a target identify; those URLs are different for different
uids.
-/
structure Target.ResponseUrls (crate : UrlCrate) (target : Target) : Prop where
  identifies
    : ∀ uid : String,
        uid.utf8ByteSize ≤ maxUidSize
        → (target.IdentifiesUid crate uid ↔ target.responseBase.path ≠ "//" ∧ PlainUid uid)
  distinct
    : ∀ uid other,
        target.IdentifiesUid crate uid
        → target.IdentifiesUid crate other
        → target.responseUrl crate uid = target.responseUrl crate other
        → uid = other

/-- A response URL identifies its uid exactly when the base path is not `//` and the uid is plain:
neither `.` nor `..`, and without tab, line feed and carriage return.
-/
theorem Target.responseUrls_identify {crate : UrlCrate} (documented : crate.Documented)
    (pushes : crate.PushDocumented) {value : String} {target : Target}
    (parsed : Target.parse crate value = .ok target)
    : target.ResponseUrls crate where
  identifies uid small := by
    obtain ⟨special, stem, closes⟩ := documented.responseBase_closed parsed
    have url := pushes.responseUrl_eq special small
    have names := @namesUid_iff crate.encodes _ uid _ pushes.encodes_slash pushes.encodes_percent
      pushes.copies_alphanumeric closes
    rw [← names]
    constructor
    · rintro ⟨_, same, named⟩
      rw [url] at same
      obtain rfl := Except.ok.inj same
      exact named
    · intro named
      exact ⟨_, url, named⟩
  distinct uid other := by
    rintro ⟨url, same, segment, -, decoded, path⟩ ⟨url', same', segment', -, decoded', path'⟩ equal
    rw [same, same'] at equal
    obtain rfl := Except.ok.inj equal
    have segments := segment_inj (path.symm.trans path')
    rw [segments] at decoded
    exact bytesOf_inj (decoded.symm.trans decoded')

theorem Target.responseUrls_identify_example : (exampleUrl.target true).ResponseUrls plainUrls := by
  have parsed
      : Target.parse plainUrls "https://example.test/a/" = .ok (exampleUrl.target true) := by
    decide
  exact Target.responseUrls_identify plainUrls_documented plainUrls_pushDocumented parsed

/-- The uids `.` and `..` have one URL, which has no segment for either. -/
theorem Target.not_identifiesUid_dots
    : Target.parse plainUrls "https://example.test/a/" = .ok (exampleUrl.target true)
      ∧ (exampleUrl.target true).responseUrl plainUrls "."
        = .ok (plainUrl "https" "example.test".toList "/a/response/".toList)
      ∧ (exampleUrl.target true).responseUrl plainUrls ".."
        = .ok (plainUrl "https" "example.test".toList "/a/response/".toList) := by
  decide

end ProxyClient
