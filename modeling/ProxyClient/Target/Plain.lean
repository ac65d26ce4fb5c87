import ProxyClient.Target.Url

/-! A crate that reads the plain URLs: a target scheme, a host without port and user info, and a
path of letters, digits, `-` and `_`. It has everything that the crate documents, so that the
results about targets speak of something.
-/

namespace ProxyClient

open Foundations

/-- The characters of a plain path segment. -/
def plainChar (char : Char) : Bool := char.isAlphanum || char == '-' || char == '_'

/-- The URL with these parts. -/
def plainUrl (scheme : String) (host path : List Char) : Url where
  scheme := scheme
  username := ""
  password := none
  host := some (String.ofList host)
  port := none
  path := if path.isEmpty then "/" else String.ofList path
  query := none
  fragment := none

/-- A target scheme, a host and a path of plain characters. -/
def plainParts (scheme : String) (host path : List Char) : Bool :=
  (secureScheme scheme).isSome
  && !host.isEmpty
  && host.all (fun char => plainChar char || char == '.')
  && path.all (fun char => plainChar char || char == '/')

/-- `Url::parse` on plain URLs; it refuses all others. -/
def parsePlain (value : String) : Except BoxError Url :=
  let scheme := String.ofList (value.toList.takeWhile (fun char => char ≠ ':'))
  let tail := value.toList.dropWhile (fun char => char ≠ ':')
  let rest := tail.drop 3
  let host := rest.takeWhile (fun char => char ≠ '/')
  let path := rest.dropWhile (fun char => char ≠ '/')
  if tail.take 3 = [':', '/', '/'] ∧ plainParts scheme host path = true then
    .ok (plainUrl scheme host path)
  else .error (.text "relative URL without a base")

/-- The crate on plain URLs. -/
def plainUrls : UrlCrate where
  parse := parsePlain
  asStr url := url.scheme ++ "://" ++ url.host.getD "" ++ url.path
  setScheme url scheme := some { url with scheme }
  setPath url path := { url with path }
  setQuery url query := { url with query }
  setFragment url fragment := { url with fragment }
  cannotBeABase _ := false
  popIfEmpty url := { url with path := poppedPath url.path }
  push url segment :=
    { url with path := pushedPath (fun byte => !isAsciiAlphanumeric byte) url.path segment }
  copies segment := segment.all plainChar
  encodes byte := !isAsciiAlphanumeric byte

/-- A path is empty or starts with a slash. -/
def Absolute (path : List Char) : Prop := path = [] ∨ ∃ rest, path = '/' :: rest

/-- What a plain URL consists of. -/
theorem parsePlain_ok {value : String} {url : Url} (read : parsePlain value = .ok url)
    : ∃ scheme host path,
        url = plainUrl scheme host path
        ∧ plainParts scheme host path = true
        ∧ (∀ char ∈ host, char ≠ '/')
        ∧ Absolute path := by
  unfold parsePlain at read
  dsimp only at read
  split at read
  · next plain =>
      obtain rfl := Except.ok.inj read
      refine ⟨_, _, _, rfl, plain.2, ?_, ?_⟩
      · intro char listed
        have other := List.mem_takeWhile_imp listed
        simpa using other
      · generalize (value.toList.dropWhile (fun char => decide (char ≠ ':'))).drop 3 = rest
        cases found : rest.dropWhile (fun char => decide (char ≠ '/')) with
        | nil => exact .inl rfl
        | cons first rest' =>
            have stops := List.head?_dropWhile_not (fun char => decide (char ≠ '/')) rest
            rw [found] at stops
            simp at stops
            subst stops
            exact .inr ⟨rest', rfl⟩
  · cases read

/-- A plain URL is read back from its text. -/
theorem parsePlain_text {scheme : String} {host path : List Char}
    (plain : plainParts scheme host path = true) (open' : ∀ char ∈ host, char ≠ '/')
    (absolute : Absolute path)
    : parsePlain (scheme ++ "://" ++ String.ofList host ++ String.ofList path)
      = .ok (plainUrl scheme host path) := by
  have text : (scheme ++ "://" ++ String.ofList host ++ String.ofList path).toList
      = scheme.toList ++ ':' :: '/' :: '/' :: (host ++ path) := by
    have colon : "://".toList = [':', '/', '/'] := by decide
    simp [colon]
  have special : (secureScheme scheme).isSome = true := by
    simp only [plainParts, Bool.and_eq_true] at plain
    exact plain.1.1.1
  have letters : ∀ char ∈ scheme.toList, decide (char ≠ ':') = true := by
    unfold secureScheme at special
    split at special
    · next known => rcases known with rfl | rfl <;> exact forall_mem_of_all (by decide)
    · split at special
      · next known => rcases known with rfl | rfl <;> exact forall_mem_of_all (by decide)
      · cases special
  have hosts : ∀ char ∈ host, decide (char ≠ '/') = true := by
    intro char listed
    simpa using open' char listed
  have hostRead : (host ++ path).takeWhile (fun char => decide (char ≠ '/')) = host := by
    rw [List.takeWhile_append_of_pos hosts]
    rcases absolute with rfl | ⟨rest, rfl⟩ <;> simp
  have pathRead : (host ++ path).dropWhile (fun char => decide (char ≠ '/')) = path := by
    rw [List.dropWhile_append_of_pos hosts]
    rcases absolute with rfl | ⟨rest, rfl⟩ <;> simp
  have colon (rest : List Char)
      : (':' :: rest).takeWhile (fun char => decide (char ≠ ':')) = []
        ∧ (':' :: rest).dropWhile (fun char => decide (char ≠ ':')) = ':' :: rest := by
    simp
  rw [parsePlain, text, List.takeWhile_append_of_pos letters, List.dropWhile_append_of_pos letters,
    (colon _).1, (colon _).2, List.append_nil, String.ofList_toList]
  simp only [List.take_succ_cons, List.take_zero, List.drop_succ_cons, List.drop_zero, hostRead,
    pathRead, plain, and_self, if_true]

/-- The path of a plain URL is one of plain segments. -/
theorem plainUrls_normal {scheme : String} {host path : List Char}
    (plain : plainParts scheme host path = true) (absolute : Absolute path)
    : plainUrls.Normal (plainUrl scheme host path).path := by
  simp only [plainParts, Bool.and_eq_true] at plain
  rcases absolute with rfl | ⟨rest, rfl⟩
  · have root : "/".toList = joined '/' [[]] := by decide
    exact ⟨[[]], by simp, root, by simp [plainUrls]⟩
  · obtain ⟨segments, some, same, free⟩ := @exists_joined _ '/' _ rest
    refine ⟨segments, some, ?_, ?_⟩
    · rw [← same]
      exact String.toList_ofList
    · intro segment listed
      apply List.all_eq_true.mpr
      intro char inside
      have path := List.all_eq_true.mp plain.2 char
        (List.mem_cons_of_mem _ ((free segment listed).2 char inside))
      have other : char ≠ '/' := by
        rintro rfl
        exact (free segment listed).1 inside
      simpa [other] using path

/-- A path of plain segments is one of plain characters. -/
theorem plain_of_normal {path : String} (normal : plainUrls.Normal path)
    : (∃ rest, path.toList = '/' :: rest)
      ∧ path.toList.all (fun char => plainChar char || char == '/') = true := by
  obtain ⟨segments, some, same, copied⟩ := normal
  cases segments with
  | nil => exact absurd rfl some
  | cons first rest =>
      refine ⟨⟨_, same⟩, ?_⟩
      rw [same]
      apply List.all_eq_true.mpr
      intro char listed
      obtain ⟨segment, inside, written⟩ := List.mem_flatMap.mp listed
      rcases List.mem_cons.mp written with rfl | written
      · decide
      · have plain := List.all_eq_true.mp (copied segment inside) char written
        simp [plain]

/-- The crate on plain URLs parses and sets as documented. -/
theorem plainUrls_documented : plainUrls.Documented where
  copies_nil := rfl
  copies_ws := by decide
  copies_free segment copied listed := by
    have plain := List.all_eq_true.mp copied '/' listed
    exact absurd plain (by decide)
  parses value url read special := by
    obtain ⟨scheme, host, path, rfl, plain, -, absolute⟩ := parsePlain_ok read
    exact plainUrls_normal plain absolute
  setScheme _ _ _ _ := rfl
  setPath _ _ _ _ := rfl
  setQuery _ := rfl
  setFragment _ := rfl

/-- It pushes as documented. -/
theorem plainUrls_pushDocumented : plainUrls.PushDocumented where
  base _ _ := rfl
  popIfEmpty _ _ := rfl
  push _ _ _ := rfl
  encodes_slash := by decide
  encodes_percent := by decide
  copies_alphanumeric byte letter := by simp [plainUrls, letter]

/-- And it reads its own texts back. -/
theorem plainUrls_readsBack : plainUrls.ReadsBack := by
  intro value url scheme path read special same normal
  obtain ⟨_, host, _, rfl, plain, open', -⟩ := parsePlain_ok read
  obtain ⟨⟨rest, slash⟩, chars⟩ := plain_of_normal normal
  have parts : plainParts scheme host path.toList = true := by
    simp only [plainParts, Bool.and_eq_true] at plain ⊢
    rw [← same] at special
    exact ⟨⟨⟨special, plain.1.1.2⟩, plain.1.2⟩, chars⟩
  have parsed := parsePlain_text parts open' (.inr ⟨rest, slash⟩)
  have kept : (plainUrl scheme host path.toList).path = path := by
    have some : path.toList.isEmpty = false := by
      rw [slash]
      rfl
    rw [plainUrl, some, String.ofList_toList]
    rfl
  rw [String.ofList_toList] at parsed
  refine parsed.trans (congrArg Except.ok ?_)
  conv_rhs => rw [← kept]
  rfl

end ProxyClient
