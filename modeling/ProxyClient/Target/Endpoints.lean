import ProxyClient.Target.Plain

/-! The two endpoints of a target, as `target.rs` derives them from one URL: the WebSocket and the
base of the wire-v3 response URLs.
-/

namespace ProxyClient

open Foundations

/-- A target of the proxy. -/
structure Target where
  wsUrl : Url
  responseBase : Url
deriving DecidableEq

-----------------------------------------------------------------------------------------
-- Paths as text
-----------------------------------------------------------------------------------------

/-- `trim_end_matches('/')`. -/
def trimEndSlashes (path : String) : String :=
  String.ofList (path.toList.rdropWhile (fun char => decide (char = '/')))

/-- `str::ends_with`. -/
def endsWith (text suffix : String) : Bool := suffix.toList.isSuffixOf text.toList

/-- `str::strip_suffix`. -/
def stripSuffix (text suffix : String) : Option String :=
  if endsWith text suffix then
    some (String.ofList (text.toList.take (text.toList.length - suffix.toList.length)))
  else none

/-- `with_trailing_slash`. -/
def withTrailingSlash (path : String) : String :=
  let path := if path.isEmpty then "/" else path
  if endsWith path "/" then path else path ++ "/"

/-- The base path and the WebSocket path of a trimmed path: an endpoint gives its base, and a base
gives its endpoint.
-/
def endpointPaths (trimmed : String) : String × String :=
  if endsWith trimmed "/ws" || trimmed == "ws" then
    let base := (stripSuffix trimmed "/ws").getD ""
    (withTrailingSlash base, withTrailingSlash trimmed)
  else
    let base := withTrailingSlash trimmed
    (base, base ++ "ws/")

/-- The two schemes of a target. -/
def targetSchemes (scheme : String) : Except BoxError (String × String) :=
  if scheme = "http" then .ok ("ws", "http")
  else if scheme = "https" then .ok ("wss", "https")
  else if scheme = "ws" then .ok ("ws", "http")
  else if scheme = "wss" then .ok ("wss", "https")
  else .error (.text ("unsupported target URL scheme: " ++ scheme))

namespace Target

variable (crate : UrlCrate)

/-- `Target::parse`. -/
def parse (value : String) : Except BoxError Target := do
  let source ← crate.parse value
  let (wsScheme, httpScheme) ← targetSchemes source.scheme
  let source := crate.setFragment source none
  let source := crate.setQuery source none
  let (basePath, wsPath) := endpointPaths (trimEndSlashes source.path)
  match crate.setScheme source wsScheme with
  | none => .error (.text "invalid WS scheme")
  | some wsUrl =>
      let wsUrl := crate.setPath wsUrl wsPath
      match crate.setScheme source httpScheme with
      | none => .error (.text "invalid HTTP scheme")
      | some responseBase =>
          let responseBase := crate.setPath responseBase basePath
          .ok { wsUrl, responseBase }

/-- `Target::response_url`. -/
def responseUrl (target : Target) (uid : String) : Except BoxError Url :=
  match validateUid uid with
  | .error error => .error (.fieldLimit error)
  | .ok () =>
      let result := target.responseBase
      if crate.cannotBeABase result then .error (.text "target URL cannot be a base")
      else
        .ok (crate.push (crate.push (crate.push (crate.popIfEmpty result) "response") uid) "")

end Target

-----------------------------------------------------------------------------------------
-- Paths as segments
-----------------------------------------------------------------------------------------

/-- A text is one path when its characters are those of the segments. -/
def IsPath (path : String) (segments : List (List Char)) : Prop := path.toList = joined '/' segments

theorem isPath_root : IsPath "/" [[]] := by
  unfold IsPath
  decide

theorem endsWith_iff {text suffix : String}
    : endsWith text suffix = true ↔ suffix.toList <:+ text.toList :=
  List.isSuffixOf_iff_suffix

/-- Trimming drops the empty segments at the end. -/
theorem trimEndSlashes_path {path : String} {segments : List (List Char)}
    (same : IsPath path segments) (free : ∀ segment ∈ segments, '/' ∉ segment)
    : IsPath (trimEndSlashes path) (segments.rdropWhile List.isEmpty) := by
  rw [IsPath, trimEndSlashes, String.toList_ofList, same, rdropWhile_joined free]

/-- A path ends in a slash exactly when its last segment is empty. -/
theorem endsWith_slash_iff {path : String} {segments : List (List Char)}
    (same : IsPath path segments) (free : ∀ segment ∈ segments, '/' ∉ segment)
    : endsWith path "/" = true ↔ ∃ front, segments = front ++ [[]] := by
  rw [endsWith_iff, same]
  exact suffix_joined_iff free List.not_mem_nil

/-- A path ends in `/ws` exactly when its last segment is `ws`. -/
theorem endsWith_ws_iff {path : String} {segments : List (List Char)}
    (same : IsPath path segments) (free : ∀ segment ∈ segments, '/' ∉ segment)
    : endsWith path "/ws" = true ↔ ∃ front, segments = front ++ [['w', 's']] := by
  rw [endsWith_iff, same]
  exact suffix_joined_iff free (by decide)

/-- Segments with an empty last one: it is added unless it is there. -/
def closed (segments : List (List Char)) : List (List Char) :=
  if segments.getLast? = some [] then segments else segments ++ [[]]

/-- Segments without `ws` as the last one. -/
def stripped (segments : List (List Char)) : List (List Char) :=
  if segments.getLast? = some ['w', 's'] then segments.dropLast else segments

@[simp] theorem closed_concat_nil {front : List (List Char)}
    : closed (front ++ [[]]) = front ++ [[]] := by
  simp [closed]

@[simp] theorem stripped_concat_ws {front : List (List Char)}
    : stripped (front ++ [['w', 's']]) = front := by
  simp [stripped]

/-- Closed segments end in an empty one. -/
theorem closed_eq_concat (segments : List (List Char))
    : ∃ front, closed segments = front ++ [[]] := by
  unfold closed
  split
  · next last => exact ⟨segments.dropLast, (List.dropLast_append_getLast? _ last).symm⟩
  · exact ⟨segments, rfl⟩

/-- A non-empty path is no empty text. -/
theorem isEmpty_path {path : String} {segments : List (List Char)} (same : IsPath path segments)
    (some : segments ≠ [])
    : path.isEmpty = false := by
  cases empty : path.isEmpty with
  | false => rfl
  | true =>
      rw [String.isEmpty_iff.mp empty] at same
      cases segments with
      | nil => exact absurd rfl some
      | cons first rest => cases same

/-- `with_trailing_slash` closes the segments. -/
theorem withTrailingSlash_path {path : String} {segments : List (List Char)}
    (same : IsPath path segments) (free : ∀ segment ∈ segments, '/' ∉ segment)
    : IsPath (withTrailingSlash path) (closed segments) := by
  rcases List.eq_nil_or_concat segments with rfl | ⟨front, last, rfl⟩
  · have empty : path = "" := String.toList_inj.mp same
    subst empty
    exact isPath_root
  · rw [List.concat_eq_append] at same free ⊢
    have some := isEmpty_path same (by simp)
    have ends := endsWith_slash_iff same free
    by_cases last' : last = []
    · subst last'
      rw [withTrailingSlash, some, closed_concat_nil]
      simp [ends.mpr ⟨front, rfl⟩, same]
    · have open' : ¬ endsWith path "/" = true := by
        intro closes
        obtain ⟨start, ended⟩ := ends.mp closes
        exact last' (List.append_inj_right' ended rfl |> List.singleton_inj.mp)
      have unclosed : closed (front ++ [last]) = front ++ [last] ++ [[]] := by
        simp [closed, last']
      rw [withTrailingSlash, some, unclosed, IsPath]
      simp only [Bool.false_eq_true, if_false, open', String.toList_append]
      rw [joined_concat_nil, ← same]
      rfl

/-- Stripping `/ws` drops the last segment. -/
theorem stripSuffix_ws {path : String} {front : List (List Char)}
    (same : IsPath path (front ++ [['w', 's']]))
    : ∃ base, stripSuffix path "/ws" = some base ∧ IsPath base front := by
  have text : path.toList = joined '/' front ++ ['/', 'w', 's'] := by
    rw [same, joined_concat]
  have ends : endsWith path "/ws" = true := by
    rw [endsWith_iff, text]
    exact List.suffix_append _ _
  have three : "/ws".toList.length = 3 := by decide
  refine ⟨_, if_pos ends, ?_⟩
  rw [IsPath, String.toList_ofList, text, three, List.length_append]
  simp

/-- Both endpoint paths come from the trimmed path without `ws`: the WebSocket's is `ws` under it,
the base is it with an empty last segment, unless it has one already.
-/
theorem endpointPaths_path {trimmed : String} {core : List (List Char)}
    (same : IsPath trimmed core) (free : ∀ segment ∈ core, '/' ∉ segment)
    (ended : core.getLast? ≠ some [])
    : IsPath (endpointPaths trimmed).1 (closed (stripped core))
      ∧ IsPath (endpointPaths trimmed).2 (stripped core ++ [['w', 's'], []]) := by
  have ends := endsWith_ws_iff same free
  have absolute : trimmed ≠ "ws" := by
    rintro rfl
    cases core with
    | nil => cases same
    | cons first rest => cases same
  by_cases last : core.getLast? = some ['w', 's']
  · obtain ⟨front, rfl⟩ : ∃ front, core = front ++ [['w', 's']] :=
      ⟨core.dropLast, (List.dropLast_append_getLast? _ last).symm⟩
    obtain ⟨base, strips, isBase⟩ := stripSuffix_ws same
    have below : ∀ segment ∈ front, '/' ∉ segment := by
      intro segment listed
      exact free segment (List.mem_append_left _ listed)
    have closes := withTrailingSlash_path same free
    have unclosed : closed (front ++ [['w', 's']]) = front ++ [['w', 's'], []] := by
      simp [closed]
    rw [unclosed] at closes
    rw [endpointPaths, ends.mpr ⟨front, rfl⟩, strips, stripped_concat_ws]
    exact ⟨withTrailingSlash_path isBase below, closes⟩
  · have none : endsWith trimmed "/ws" = false := by
      cases found : endsWith trimmed "/ws" with
      | false => rfl
      | true =>
          obtain ⟨front, rfl⟩ := ends.mp found
          exact absurd (by simp) last
    have same' : stripped core = core := if_neg last
    have closes := withTrailingSlash_path same free
    have unclosed : closed core = core ++ [[]] := if_neg ended
    rw [endpointPaths, none, same']
    simp only [Bool.false_or, beq_iff_eq, absolute, if_false]
    refine ⟨closes, ?_⟩
    rw [unclosed] at closes
    rw [IsPath, String.toList_append, closes]
    simp [joined]

-----------------------------------------------------------------------------------------
-- What is parsed
-----------------------------------------------------------------------------------------

/-- The target of a parsed URL: two URLs that differ from it in scheme, path, query and fragment
only.
-/
def Url.target (source : Url) (secure : Bool) : Target :=
  let paths := endpointPaths (trimEndSlashes source.path)
  { wsUrl :=
      { source with
        scheme := if secure then "wss" else "ws", path := paths.2, query := none, fragment := none }
    responseBase :=
      { source with
        scheme := if secure then "https" else "http", path := paths.1, query := none
        fragment := none } }

theorem Url.target_wsUrl (source : Url) (secure : Bool)
    : (source.target secure).wsUrl
      = { source with
          scheme := if secure then "wss" else "ws"
          path := (endpointPaths (trimEndSlashes source.path)).2
          query := none
          fragment := none } :=
  rfl

@[simp] theorem Url.target_wsUrl_path (source : Url) (secure : Bool)
    : (source.target secure).wsUrl.path = (endpointPaths (trimEndSlashes source.path)).2 := by
  rw [Url.target_wsUrl]

@[simp] theorem Url.target_responseBase_path (source : Url) (secure : Bool)
    : (source.target secure).responseBase.path
      = (endpointPaths (trimEndSlashes source.path)).1 := by
  simp only [Url.target]

/-- The two schemes of a target are those of its security. -/
theorem targetSchemes_eq {scheme : String} {secure : Bool}
    (known : secureScheme scheme = some secure)
    : targetSchemes scheme = .ok (if secure then ("wss", "https") else ("ws", "http")) := by
  unfold secureScheme at known
  split at known
  · next plain =>
      obtain rfl := Option.some.inj known
      rcases plain with rfl | rfl <;> rfl
  · split at known
    · next tls =>
        obtain rfl := Option.some.inj known
        rcases tls with rfl | rfl <;> rfl
    · cases known

/-- Other schemes are refused. -/
theorem targetSchemes_error {scheme : String} (unknown : secureScheme scheme = none)
    : targetSchemes scheme = .error (.text ("unsupported target URL scheme: " ++ scheme)) := by
  unfold secureScheme at unknown
  split at unknown
  · cases unknown
  · next plain =>
      split at unknown
      · cases unknown
      · next tls =>
          simp only [not_or] at plain tls
          simp [targetSchemes, plain, tls]

theorem mem_of_mem_stripped {segments : List (List Char)} {segment : List Char}
    (listed : segment ∈ stripped segments)
    : segment ∈ segments := by
  unfold stripped at listed
  split at listed
  · exact List.dropLast_subset _ listed
  · exact listed

theorem mem_of_mem_closed {segments : List (List Char)} {segment : List Char}
    (listed : segment ∈ closed segments)
    : segment ∈ segments ∨ segment = [] := by
  unfold closed at listed
  split at listed
  · exact .inl listed
  · simpa using listed

namespace UrlCrate.Documented

variable {crate : UrlCrate} (documented : crate.Documented)
include documented

/-- A normalised path without its trailing slashes. -/
theorem trimmed_path {path : String} (normal : crate.Normal path)
    : ∃ core,
        IsPath (trimEndSlashes path) core
        ∧ (∀ segment ∈ core, crate.copies segment = true)
        ∧ (∀ segment ∈ core, '/' ∉ segment)
        ∧ core.getLast? ≠ some [] := by
  obtain ⟨segments, -, same, copied⟩ := normal
  have free : ∀ segment ∈ segments, '/' ∉ segment := by
    intro segment listed
    exact documented.copies_free segment (copied segment listed)
  refine ⟨_, trimEndSlashes_path same free, ?_, ?_, ?_⟩
  · intro segment listed
    exact copied segment ((List.rdropWhile_prefix _ _).subset listed)
  · intro segment listed
    exact free segment ((List.rdropWhile_prefix _ _).subset listed)
  · intro last
    have some : segments.rdropWhile List.isEmpty ≠ [] := by
      intro none
      rw [none] at last
      cases last
    have kept := List.rdropWhile_last_not List.isEmpty segments some
    rw [List.getLast?_eq_some_getLast some] at last
    rw [Option.some.inj last] at kept
    exact kept rfl

/-- Both endpoint paths of a normalised path are normalised. -/
theorem normal_endpointPaths {path : String} (normal : crate.Normal path)
    : crate.Normal (endpointPaths (trimEndSlashes path)).1
      ∧ crate.Normal (endpointPaths (trimEndSlashes path)).2 := by
  obtain ⟨core, same, copied, free, ended⟩ := documented.trimmed_path normal
  obtain ⟨base, ws⟩ := endpointPaths_path same free ended
  constructor
  · refine ⟨_, ?_, base, ?_⟩
    · obtain ⟨front, closes⟩ := closed_eq_concat (stripped core)
      rw [closes]
      simp
    · intro segment listed
      rcases mem_of_mem_closed listed with listed | rfl
      · exact copied segment (mem_of_mem_stripped listed)
      · exact documented.copies_nil
  · refine ⟨_, by simp, ws, ?_⟩
    intro segment listed
    simp only [List.mem_append, List.mem_cons, List.not_mem_nil, or_false] at listed
    rcases listed with listed | rfl | rfl
    · exact copied segment (mem_of_mem_stripped listed)
    · exact documented.copies_ws
    · exact documented.copies_nil

/-- A setter chain of `Target::parse` changes scheme, path, query and fragment. -/
theorem setParts {source : Url} {scheme path : String} {secure : Bool}
    (known : secureScheme source.scheme = some secure) (same : secureScheme scheme = some secure)
    (normal : crate.Normal path)
    : ∃ url,
        crate.setScheme (crate.setQuery (crate.setFragment source none) none) scheme = some url
        ∧ crate.setPath url path
          = { source with scheme, path, query := none, fragment := none } := by
  rw [documented.setFragment, documented.setQuery]
  refine ⟨_, documented.setScheme _ _ ?_ ?_, documented.setPath _ _ ?_ normal⟩
  · simp [known]
  · exact same.trans known.symm
  · simp [same]

/-- Every URL with a target scheme has its target. -/
theorem parse_eq {value : String} {source : Url} {secure : Bool}
    (read : crate.parse value = .ok source) (known : secureScheme source.scheme = some secure)
    : Target.parse crate value = .ok (source.target secure) := by
  have special : (secureScheme source.scheme).isSome = true :=
    Option.isSome_of_eq_some known
  have path : (crate.setQuery (crate.setFragment source none) none).path = source.path := by
    rw [documented.setFragment, documented.setQuery]
  obtain ⟨base, ws⟩ := documented.normal_endpointPaths (documented.parses _ _ read special)
  have wsScheme : secureScheme (if secure then "wss" else "ws") = some secure := by
    cases secure <;> rfl
  have httpScheme : secureScheme (if secure then "https" else "http") = some secure := by
    cases secure <;> rfl
  obtain ⟨wsUrl, schemed, wsEnds⟩ := documented.setParts known wsScheme ws
  obtain ⟨baseUrl, schemed', baseEnds⟩ := documented.setParts known httpScheme base
  have schemes : (if secure then (("wss", "https") : String × String) else ("ws", "http"))
      = (if secure then "wss" else "ws", if secure then "https" else "http") := by
    cases secure <;> rfl
  simp only [Target.parse, read, targetSchemes_eq known, schemes, bind, Except.bind, path, schemed,
    schemed', wsEnds, baseEnds]
  rfl

/-- A target is that of the parsed URL, whose scheme must be a target scheme. -/
theorem parse_ok_iff {value : String} {target : Target}
    : Target.parse crate value = .ok target
      ↔ ∃ source secure,
          crate.parse value = .ok source
          ∧ secureScheme source.scheme = some secure
          ∧ target = source.target secure := by
  cases read : crate.parse value with
  | error error =>
      constructor
      · intro parsed
        rw [Target.parse, read] at parsed
        cases parsed
      · rintro ⟨source, secure, absent, -⟩
        cases absent
  | ok source =>
      cases known : secureScheme source.scheme with
      | none =>
          constructor
          · intro parsed
            simp only [Target.parse, read, targetSchemes_error known, bind, Except.bind] at parsed
            cases parsed
          · rintro ⟨_, secure, ⟨⟩, absent, -⟩
            rw [known] at absent
            cases absent
      | some secure =>
          have parsed := documented.parse_eq read known
          rw [parsed]
          constructor
          · intro same
            exact ⟨source, secure, rfl, known, (Except.ok.inj same).symm⟩
          · rintro ⟨_, _, ⟨⟩, known', rfl⟩
            rw [known] at known'
            rw [Option.some.inj known']

end UrlCrate.Documented

-----------------------------------------------------------------------------------------
-- One prefix
-----------------------------------------------------------------------------------------

/-- The two endpoints have the authority of one server, the schemes of the given security, nothing
behind their paths, and the WebSocket is `ws/` under the base.
-/
structure Target.SharesPrefix (target : Target) (source : Url) : Prop where
  username : target.wsUrl.username = target.responseBase.username
  password : target.wsUrl.password = target.responseBase.password
  host : target.wsUrl.host = target.responseBase.host
  port : target.wsUrl.port = target.responseBase.port
  schemes
    : (secureScheme source.scheme = some false
        ∧ target.wsUrl.scheme = "ws"
        ∧ target.responseBase.scheme = "http")
      ∨ (secureScheme source.scheme = some true
        ∧ target.wsUrl.scheme = "wss"
        ∧ target.responseBase.scheme = "https")
  ws : target.wsUrl.query = none ∧ target.wsUrl.fragment = none
  base : target.responseBase.query = none ∧ target.responseBase.fragment = none
  path : target.wsUrl.path = target.responseBase.path ++ "ws/"

/-- A trimmed path ends in `//ws` exactly when an empty segment stands before `ws`. -/
theorem endsWith_doubled_iff {path : String} {segments : List (List Char)}
    (same : IsPath path segments) (free : ∀ segment ∈ segments, '/' ∉ segment)
    : endsWith path "//ws" = true ↔ ∃ start, segments = start ++ [[], ['w', 's']] := by
  rw [endsWith_iff, same]
  constructor
  · rintro ⟨before, text⟩
    have text' : (before ++ ['/']) ++ '/' :: ['w', 's'] = joined '/' segments := by
      rw [← text]
      simp
    obtain ⟨front, rfl⟩ := (suffix_joined_iff free (by decide)).mp ⟨_, text'⟩
    rw [joined_concat] at text'
    have earlier := List.append_inj_left' text' rfl
    have below : ∀ segment ∈ front, '/' ∉ segment := by
      intro segment listed
      exact free segment (List.mem_append_left _ listed)
    obtain ⟨start, rfl⟩ := (suffix_joined_iff below List.not_mem_nil).mp ⟨before, earlier⟩
    exact ⟨start, by simp⟩
  · rintro ⟨start, rfl⟩
    have split : start ++ [[], ['w', 's']] = start ++ [[]] ++ [['w', 's']] := by simp
    rw [split, joined_concat, joined_concat_nil]
    exact ⟨joined '/' start, by simp⟩

/-- The WebSocket's path is `ws/` under the base unless the trimmed path ends in `//ws`. -/
theorem endpointPaths_share_iff {trimmed : String} {core : List (List Char)}
    (same : IsPath trimmed core) (free : ∀ segment ∈ core, '/' ∉ segment)
    (ended : core.getLast? ≠ some [])
    : (endpointPaths trimmed).2 = (endpointPaths trimmed).1 ++ "ws/"
      ↔ endsWith trimmed "//ws" = false := by
  obtain ⟨base, ws⟩ := endpointPaths_path same free ended
  have doubled := endsWith_doubled_iff same free
  rw [← String.toList_inj, String.toList_append, ws, base]
  by_cases last : (stripped core).getLast? = some []
  · obtain ⟨start, front⟩ : ∃ start, stripped core = start ++ [[]] :=
      ⟨(stripped core).dropLast, (List.dropLast_append_getLast? _ last).symm⟩
    have whole : core = start ++ [[], ['w', 's']] := by
      unfold stripped at front last
      split at front
      · next ends =>
          have split := List.dropLast_append_getLast? _ ends
          rw [front] at split
          rw [← split]
          simp
      · next ends =>
          rw [if_neg ends] at last
          exact absurd last ended
    have ends : endsWith trimmed "//ws" = true := doubled.mpr ⟨start, whole⟩
    rw [ends, front, closed_concat_nil]
    constructor
    · intro text
      have lengths := congrArg List.length text
      have three : "ws/".toList.length = 3 := by decide
      simp only [joined_append, List.length_append, three] at lengths
      simp [joined] at lengths
    · intro absent
      cases absent
  · have ends : endsWith trimmed "//ws" = false := by
      cases found : endsWith trimmed "//ws" with
      | false => rfl
      | true =>
          obtain ⟨start, rfl⟩ := doubled.mp found
          have split : start ++ [[], ['w', 's']] = start ++ [[]] ++ [['w', 's']] := by simp
          rw [split, stripped_concat_ws] at last
          exact absurd (by simp) last
    rw [ends, closed, if_neg last]
    simp only [iff_true]
    rw [joined_concat_nil, joined_append, List.append_assoc]
    rfl

/-- The two endpoints of a target share one prefix exactly when the input's path, without its
trailing slashes, does not end in `//ws`.
-/
theorem Target.sharesPrefix_iff {crate : UrlCrate} (documented : crate.Documented)
    {value : String} {source : Url} {target : Target} (read : crate.parse value = .ok source)
    (parsed : Target.parse crate value = .ok target)
    : target.SharesPrefix source ↔ endsWith (trimEndSlashes source.path) "//ws" = false := by
  obtain ⟨_, secure, read', known, rfl⟩ := documented.parse_ok_iff.mp parsed
  obtain rfl := Except.ok.inj (read.symm.trans read')
  have special : (secureScheme source.scheme).isSome = true :=
    Option.isSome_of_eq_some known
  obtain ⟨core, same, -, free, ended⟩ :=
    documented.trimmed_path (documented.parses _ _ read special)
  have paths := endpointPaths_share_iff same free ended
  rw [← Url.target_wsUrl_path source secure, ← Url.target_responseBase_path source secure]
    at paths
  rw [← paths]
  constructor
  · intro shares
    exact shares.path
  · intro single
    refine {
      username := rfl, password := rfl, host := rfl, port := rfl
      schemes := ?_
      ws := ⟨rfl, rfl⟩, base := ⟨rfl, rfl⟩
      path := single
    }
    cases secure with
    | false => exact .inl ⟨known, rfl, rfl⟩
    | true => exact .inr ⟨known, rfl, rfl⟩

/-- A base under a host. -/
def exampleUrl : Url := plainUrl "https" "example.test".toList "/a/".toList

theorem Target.sharesPrefix_iff_example : (exampleUrl.target true).SharesPrefix exampleUrl := by
  have read : plainUrls.parse "https://example.test/a/" = .ok exampleUrl := by decide
  have parsed
      : Target.parse plainUrls "https://example.test/a/" = .ok (exampleUrl.target true) := by
    decide
  have single : endsWith (trimEndSlashes exampleUrl.path) "//ws" = false := by decide
  exact (Target.sharesPrefix_iff plainUrls_documented read parsed).mpr single

/-- An endpoint behind a doubled slash: the POSTs go to another prefix than the socket. -/
theorem Target.not_sharesPrefix_doubled
    : (Target.parse plainUrls "http://example.test/a//ws").map
        (fun target => (target.wsUrl.path, target.responseBase.path))
      = .ok ("/a//ws/", "/a/") := by
  decide

-----------------------------------------------------------------------------------------
-- Canonical targets
-----------------------------------------------------------------------------------------

/-- Two inputs that differ in the scheme of the same security, in trailing slashes of the path, in
the query and in the fragment only.
-/
structure Url.SameEndpoint (left right : Url) : Prop where
  username : left.username = right.username
  password : left.password = right.password
  host : left.host = right.host
  port : left.port = right.port
  security : secureScheme left.scheme = secureScheme right.scheme
  path
    : ∃ stem more fewer,
        left.path.toList = stem ++ List.replicate more '/'
        ∧ right.path.toList = stem ++ List.replicate fewer '/'

/-- Trailing slashes do not count, by induction over them. -/
theorem rdropWhile_slashes {stem : List Char} {count : Nat}
    : (stem ++ List.replicate count '/').rdropWhile (fun char => decide (char = '/'))
      = stem.rdropWhile (fun char => decide (char = '/')) := by
  induction count with
  | zero => simp
  | succ count ih =>
      rw [List.replicate_succ', ← List.append_assoc, List.rdropWhile_concat_pos _ _ _ (by simp), ih]

/-- Such inputs have one target. -/
theorem Url.SameEndpoint.target_eq {left right : Url} (same : left.SameEndpoint right)
    (secure : Bool)
    : left.target secure = right.target secure := by
  obtain ⟨stem, more, fewer, leftPath, rightPath⟩ := same.path
  have trimmed : trimEndSlashes left.path = trimEndSlashes right.path := by
    rw [trimEndSlashes, trimEndSlashes, leftPath, rightPath, rdropWhile_slashes,
      rdropWhile_slashes]
  simp only [Url.target, same.username, same.password, same.host, same.port, trimmed]

/-- The endpoint paths of the WebSocket path are those it came from. -/
theorem endpointPaths_ws {trimmed : String} {core : List (List Char)}
    (same : IsPath trimmed core) (free : ∀ segment ∈ core, '/' ∉ segment)
    (ended : core.getLast? ≠ some [])
    : endpointPaths (trimEndSlashes (endpointPaths trimmed).2) = endpointPaths trimmed := by
  obtain ⟨base, ws⟩ := endpointPaths_path same free ended
  have below : ∀ segment ∈ stripped core ++ [['w', 's'], []], '/' ∉ segment := by
    intro segment listed
    simp only [List.mem_append, List.mem_cons, List.not_mem_nil, or_false] at listed
    rcases listed with listed | rfl | rfl
    · exact free segment (mem_of_mem_stripped listed)
    · decide
    · exact List.not_mem_nil
  have split : stripped core ++ [['w', 's'], []] = stripped core ++ [['w', 's']] ++ [[]] := by simp
  have again := trimEndSlashes_path ws below
  rw [split, List.rdropWhile_concat_pos _ _ _ rfl,
    List.rdropWhile_concat_neg _ _ _ (by simp)] at again
  have below' : ∀ segment ∈ stripped core ++ [['w', 's']], '/' ∉ segment := by
    intro segment listed
    refine below segment ?_
    rw [split]
    exact List.mem_append_left _ listed
  obtain ⟨base', ws'⟩ := endpointPaths_path again below' (by simp)
  rw [stripped_concat_ws] at base' ws'
  refine Prod.ext ?_ ?_
  · exact String.toList_inj.mp (base'.trans base.symm)
  · exact String.toList_inj.mp (ws'.trans ws.symm)

/-- Normalisation is canonical: the WebSocket URL of a target is parsed to that target, and every
variant of an input that names the same endpoint gives the same target.
-/
structure UrlCrate.Canonical (crate : UrlCrate) : Prop where
  reparses
    : ∀ value target,
        Target.parse crate value = .ok target
        → Target.parse crate (crate.asStr target.wsUrl) = .ok target
  variants
    : ∀ value value' source source' target,
        crate.parse value = .ok source
        → crate.parse value' = .ok source'
        → source.SameEndpoint source'
        → Target.parse crate value = .ok target
        → Target.parse crate value' = .ok target

/-- Target normalisation is canonical. -/
theorem UrlCrate.Documented.canonical {crate : UrlCrate} (documented : crate.Documented)
    (readsBack : crate.ReadsBack)
    : crate.Canonical where
  reparses value target parsed := by
    obtain ⟨source, secure, read, known, rfl⟩ := documented.parse_ok_iff.mp parsed
    have special : (secureScheme source.scheme).isSome = true :=
      Option.isSome_of_eq_some known
    have normal := documented.parses _ _ read special
    obtain ⟨core, same, -, free, ended⟩ := documented.trimmed_path normal
    have scheme : secureScheme (if secure then "wss" else "ws") = some secure := by
      cases secure <;> rfl
    have again := readsBack value source _ _ read special (scheme.trans known.symm)
      (documented.normal_endpointPaths normal).2
    rw [← Url.target_wsUrl source secure] at again
    have scheme' : secureScheme (source.target secure).wsUrl.scheme = some secure := by
      rw [Url.target_wsUrl]
      exact scheme
    have paths := endpointPaths_ws same free ended
    have fixed : (source.target secure).wsUrl.target secure = source.target secure := by
      rw [Url.target_wsUrl]
      simp only [Url.target, paths]
    have parsed' := documented.parse_eq again scheme'
    rw [fixed] at parsed'
    exact parsed'
  variants value value' source source' target read read' same parsed := by
    obtain ⟨_, secure, read'', known, rfl⟩ := documented.parse_ok_iff.mp parsed
    obtain rfl := Except.ok.inj (read.symm.trans read'')
    rw [same.target_eq secure]
    exact documented.parse_eq read' (same.security ▸ known)

/-- The same endpoint as a WebSocket URL with more slashes. -/
def slashedUrl : Url := { exampleUrl with scheme := "wss", path := "/a///" }

/-- Both URLs of one endpoint have one target, and so has the WebSocket URL of that target. -/
theorem UrlCrate.Documented.canonical_plainUrls
    : plainUrls.Canonical
      ∧ Target.parse plainUrls "wss://example.test/a///" = .ok (exampleUrl.target true)
      ∧ plainUrls.asStr (exampleUrl.target true).wsUrl = "wss://example.test/a/ws/"
      ∧ Target.parse plainUrls "wss://example.test/a/ws/" = .ok (exampleUrl.target true) := by
  have canonical := plainUrls_documented.canonical plainUrls_readsBack
  have read : plainUrls.parse "https://example.test/a/" = .ok exampleUrl := by decide
  have read' : plainUrls.parse "wss://example.test/a///" = .ok slashedUrl := by decide
  have same : exampleUrl.SameEndpoint slashedUrl := {
    username := rfl, password := rfl, host := rfl, port := rfl, security := by decide,
    path := ⟨['/', 'a'], 1, 3, by decide, by decide⟩
  }
  have parsed
      : Target.parse plainUrls "https://example.test/a/" = .ok (exampleUrl.target true) := by
    decide
  have text : plainUrls.asStr (exampleUrl.target true).wsUrl = "wss://example.test/a/ws/" := by
    decide
  refine ⟨canonical, canonical.variants _ _ _ _ _ read read' same parsed, text, ?_⟩
  rw [← text]
  exact canonical.reparses _ _ parsed

end ProxyClient
