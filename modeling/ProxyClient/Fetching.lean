import ProxyClient.Coverage
import ProxyClient.Traces

/-! One exporter call end to end. The loop's bookkeeping is stated as assertions of a second
copy of the code, which never fail; the result is stated over the trace of the call, so that it
is compared with what the exporter, the budget and the allocator have answered.
-/

namespace ProxyClient

open Foundations Memory

-----------------------------------------------------------------------------------------
-- The code with its bookkeeping asserted
-----------------------------------------------------------------------------------------

/-- A failing check of the code's bookkeeping. -/
def ensure (condition : Prop) [Decidable condition] : Proc Unit :=
  if condition then return () else fault "bookkeeping broken"

/-- A subtraction that fails instead of wrapping. -/
def subtract (left right : Nat) : Proc Nat := do
  ensure (right ≤ left)
  return left - right

/-- What holds at every iteration of the loop: the reservation covers the uid and the buffer
exactly, the buffer holds the chunks read so far, and they are within the body limit.
-/
def Reading (uid : RustString) (read : List UInt8) (buffer : BodyBuffer)
    (retained : MemoryReservation)
    : Prop :=
  retained.bytes = uid.capacity + buffer.capacity
  ∧ buffer.bytes = read
  ∧ read.length ≤ maxBodySize

instance {uid : RustString} {read : List UInt8} {buffer : BodyBuffer}
    {retained : MemoryReservation}
    : Decidable (Reading uid read buffer retained) :=
  inferInstanceAs (Decidable (_ ∧ _ ∧ _))

/-- `grow_beyond` with its subtraction checked. -/
def MemoryReservation.growBeyondAsserted (reservation : MemoryReservation) (actual covered : Nat)
    : Proc (Except MemoryBudgetError MemoryReservation) := do
  if actual > covered then
    let slack ← subtract actual covered
    reservation.tryGrow slack
  else return .ok reservation

section

variable {least : Nat} (initial : Capacity least)

/-- A new buffer holds nothing. -/
theorem nil_fits : ([] : List UInt8).length ≤ initial.val := Nat.zero_le _

theorem initial_addressable : initial.val ≤ isizeMax := initial.property.2

variable {buffer : BodyBuffer} {chunk : List UInt8}
  (grown : Capacity (buffer.bytes.length + chunk.length))

/-- A grown buffer holds the next chunk too. -/
theorem grown_fits : buffer.bytes.length + chunk.length ≤ grown.val := grown.property.1

theorem grown_addressable : grown.val ≤ isizeMax := grown.property.2

/-- So does one that has room for it. -/
theorem chunk_fits (within : saturatingAdd buffer.bytes.length chunk.length ≤ maxBodySize)
    (room : saturatingAdd buffer.bytes.length chunk.length ≤ buffer.capacity)
    : buffer.bytes.length + chunk.length ≤ buffer.capacity := by
  rwa [saturatingAdd_eq within] at room

end

/-- The loop of `fetch_resource` with its bookkeeping asserted: `read` is the concatenation of
the chunks read so far.
-/
def readChunksAsserted (uid : RustString) (read : List UInt8) (buffer : BodyBuffer)
    (retained : MemoryReservation)
    : List (Except BoxError (List UInt8)) → Proc (Except BoxError BodyBuffer × MemoryReservation)
  | [] => do
      ensure (Reading uid read buffer retained)
      perform (.nextChunk buffer.capacity)
      return (.ok buffer, retained)
  | .error error :: _ => do
      ensure (Reading uid read buffer retained)
      perform (.nextChunk buffer.capacity)
      return (.error error, retained)
  | .ok chunk :: chunks => do
      ensure (Reading uid read buffer retained)
      perform (.nextChunk buffer.capacity)
      let nextLength := saturatingAdd buffer.bytes.length chunk.length
      if within : nextLength ≤ maxBodySize then
        if room : nextLength ≤ buffer.capacity then
          readChunksAsserted uid (read ++ chunk)
            (buffer.extend chunk buffer.capacity (chunk_fits within room) buffer.addressable)
            retained chunks
        else
          let minimumGrowth ← subtract nextLength buffer.capacity
          match ← retained.tryGrow minimumGrowth with
          | .error error => return (.error (.memoryBudget error), retained)
          | .ok retained =>
              match ← perform (.tryReserveExact (buffer.bytes.length + chunk.length)) with
              | .error error => return (.error error, retained)
              | .ok capacity =>
                  let actualGrowth ← subtract capacity.val buffer.capacity
                  match ← retained.growBeyondAsserted actualGrowth minimumGrowth with
                  | .error error => return (.error (.memoryBudget error), retained)
                  | .ok retained =>
                      readChunksAsserted uid (read ++ chunk)
                        (buffer.extend chunk capacity.val (grown_fits capacity)
                          (grown_addressable capacity))
                        retained chunks
      else return (.error bodyTooLarge, retained)

/-- `fetch_resource` with its bookkeeping asserted. -/
def fetchResourceAsserted (uid : RustString) (url : String) (retained : MemoryReservation)
    : Proc (Except BoxError (UInt16 × RustString) × MemoryReservation) := do
  match ← perform (.get url) with
  | .error error => return (.error error, retained)
  | .ok response =>
      if response.contentLength.any (fun length => length > maxBodySize) then
        return (.error bodyTooLarge, retained)
      else
        let initialCapacity := min (response.contentLength.getD 0) maxBodySize
        match ← retained.tryGrow initialCapacity with
        | .error error => return (.error (.memoryBudget error), retained)
        | .ok retained =>
            let capacity ← perform (.withCapacity initialCapacity)
            match ← retained.growBeyondAsserted capacity.val initialCapacity with
            | .error error => return (.error (.memoryBudget error), retained)
            | .ok retained =>
                let empty : BodyBuffer :=
                  { bytes := [], capacity := capacity.val, fits := nil_fits capacity,
                    addressable := initial_addressable capacity }
                let (body, retained) ← readChunksAsserted uid [] empty retained response.chunks
                match body.bind BodyBuffer.fromUtf8 with
                | .error error => return (.error error, retained)
                | .ok body => return (.ok (response.status, body), retained)

/-- `call_resource` with the bookkeeping of `fetch_resource` asserted. -/
def callResourceAsserted (resources : String → Option String) (uid : RustString)
    (resource : String)
    : Proc (Option BudgetedResponse) := do
  match ← tryReserve uid.capacity with
  | .error _ => return none
  | .ok retained =>
      match resources resource with
      | none =>
          match ← retained.tryGrow noSuchResource.len with
          | .ok retained =>
              return some (← BudgetedResponse.fromReserved uid 404 noSuchResource retained)
          | .error _ => return some (← BudgetedResponse.fromReserved uid 500 .new retained)
      | some url =>
          match ← fetchResourceAsserted uid url retained with
          | (.ok (status, body), retained) =>
              return some (← BudgetedResponse.fromReserved uid status body retained)
          | (.error _, retained) =>
              let retained ← retained.shrinkTo uid.capacity
              return some (← BudgetedResponse.fromReserved uid 500 .new retained)

-----------------------------------------------------------------------------------------
-- The assertions never fail
-----------------------------------------------------------------------------------------

theorem ensure_eq {condition : Prop} [Decidable condition] (holds : condition)
    : ensure condition = .pure () :=
  if_pos holds

theorem subtract_eq {left right : Nat} (smaller : right ≤ left)
    : subtract left right = .pure (left - right) := by
  rw [subtract, ensure_eq smaller]
  rfl

theorem growBeyondAsserted_eq {reservation : MemoryReservation} {actual covered : Nat}
    : reservation.growBeyondAsserted actual covered = reservation.growBeyond actual covered := by
  unfold MemoryReservation.growBeyondAsserted MemoryReservation.growBeyond
  split
  · next beyond =>
      rw [subtract_eq (Nat.le_of_lt beyond)]
      rfl
  · rfl

/-- What a loop may append stays within the body limit. -/
theorem length_append_le {read chunk : List UInt8}
    (within : saturatingAdd read.length chunk.length ≤ maxBodySize)
    : (read ++ chunk).length ≤ maxBodySize := by
  rw [List.length_append, ← saturatingAdd_eq within]
  exact within

/-- What it refuses exceeds that limit. -/
theorem lt_length_append {read chunk : List UInt8}
    (beyond : ¬ saturatingAdd read.length chunk.length ≤ maxBodySize)
    : maxBodySize < (read ++ chunk).length := by
  apply Nat.lt_of_not_le
  intro within
  rw [List.length_append] at within
  have narrow : maxBodySize ≤ usizeMax := by decide
  rw [saturatingAdd, if_pos (Nat.le_trans within narrow)] at beyond
  exact beyond within

section Congruence

variable {α : Type} {f g : Except MemoryBudgetError MemoryReservation → Proc α}
  {reservation : MemoryReservation}

/-- Two continuations of `try_reserve` agree when they do on its two results. -/
theorem tryReserve_congr {bytes : Nat} (granted : f (.ok ⟨bytes⟩) = g (.ok ⟨bytes⟩))
    (refused : ∀ error, f (.error error) = g (.error error))
    : (tryReserve bytes).bind f = (tryReserve bytes).bind g := by
  have agree : (tryReserve bytes).Meets (coverage 0) (fun _ value => f value = g value) 0 :=
    meets_tryReserve.mpr ⟨granted, refused⟩
  exact agree.bind_congr

/-- Two continuations of `try_grow` agree when they do on its two results. -/
theorem tryGrow_congr {additional : Nat}
    (granted : f (.ok ⟨reservation.bytes + additional⟩) = g (.ok ⟨reservation.bytes + additional⟩))
    (refused : ∀ error, f (.error error) = g (.error error))
    : (reservation.tryGrow additional).bind f = (reservation.tryGrow additional).bind g := by
  have agree
      : (reservation.tryGrow additional).Meets (coverage 0) (fun _ value => f value = g value) 0 :=
    meets_tryGrow.mpr ⟨granted, refused⟩
  exact agree.bind_congr

/-- Two continuations of a growth agree when they do on its two results. -/
theorem growBeyond_congr {actual covered : Nat}
    (granted
      : f (.ok ⟨reservation.bytes + (actual - covered)⟩)
        = g (.ok ⟨reservation.bytes + (actual - covered)⟩))
    (refused : ∀ error, f (.error error) = g (.error error))
    : (reservation.growBeyond actual covered).bind f
      = (reservation.growBeyond actual covered).bind g := by
  have agree
      : (reservation.growBeyond actual covered).Meets (coverage 0)
          (fun _ value => f value = g value) 0 :=
    meets_growBeyond granted refused
  exact agree.bind_congr

end Congruence

/-- The loop's assertions hold at every iteration, by induction over the chunks. -/
theorem readChunksAsserted_eq {uid : RustString} {read : List UInt8} {buffer : BodyBuffer}
    {retained : MemoryReservation} {chunks : List (Except BoxError (List UInt8))}
    (reading : Reading uid read buffer retained)
    : readChunksAsserted uid read buffer retained chunks = readChunks buffer retained chunks := by
  induction chunks generalizing read buffer retained with
  | nil =>
      rw [readChunksAsserted, ensure_eq reading]
      rfl
  | cons chunk chunks ih =>
      cases chunk with
      | error error =>
          rw [readChunksAsserted, ensure_eq reading]
          rfl
      | ok chunk =>
          rw [readChunksAsserted, readChunks, ensure_eq reading]
          obtain ⟨covered, rfl, small⟩ := reading
          apply congrArg (Program.bind (perform (.nextChunk buffer.capacity)))
          funext _
          dsimp only
          split
          · next within =>
              have sum := saturatingAdd_eq within
              have fits := length_append_le within
              split
              · exact ih ⟨covered, rfl, fits⟩
              · next room =>
                  rw [subtract_eq (by omega)]
                  apply tryGrow_congr
                  · apply congrArg (Program.bind (perform _))
                    funext answer
                    cases answer with
                    | error error => rfl
                    | ok capacity =>
                        have larger := capacity.property.1
                        dsimp only
                        rw [subtract_eq (by omega)]
                        change (MemoryReservation.growBeyondAsserted _ _ _).bind _ = _
                        rw [growBeyondAsserted_eq]
                        apply growBeyond_congr
                        · apply ih
                          refine ⟨?_, rfl, fits⟩
                          simp only [BodyBuffer.extend]
                          omega
                        · intro error
                          rfl
                  · intro error
                    rfl
          · rfl

/-- So do those of `fetch_resource`. -/
theorem fetchResourceAsserted_eq {uid : RustString} {url : String} {retained : MemoryReservation}
    (covered : retained.bytes = uid.capacity)
    : fetchResourceAsserted uid url retained = fetchResource url retained := by
  apply congrArg (Program.bind (perform (.get url)))
  funext answer
  cases answer with
  | error error => rfl
  | ok response =>
      dsimp only
      split
      · rfl
      · apply tryGrow_congr
        · apply congrArg (Program.bind (perform _))
          funext capacity
          have larger := capacity.property.1
          rw [growBeyondAsserted_eq]
          apply growBeyond_congr
          · have reading : Reading uid [] ⟨[], capacity.val, Nat.zero_le _, capacity.property.2⟩
                ⟨retained.bytes + min (response.contentLength.getD 0) maxBodySize
                  + (capacity.val - min (response.contentLength.getD 0) maxBodySize)⟩ := by
              refine ⟨?_, rfl, Nat.zero_le _⟩
              dsimp only
              omega
            exact congrArg (Program.bind · _) (readChunksAsserted_eq reading)
          · intro error
            rfl
        · intro error
          rfl

/-- So do those of `call_resource`. -/
theorem callResourceAsserted_eq {resources : String → Option String} {uid : RustString}
    {resource : String}
    : callResourceAsserted resources uid resource = callResource resources uid resource := by
  apply tryReserve_congr
  · cases known : resources resource with
    | none => rfl
    | some url =>
        exact congrArg (Program.bind · _) (fetchResourceAsserted_eq rfl)
  · intro error
    rfl

-----------------------------------------------------------------------------------------
-- What is read
-----------------------------------------------------------------------------------------

/-- The exporter's answer is a body: no declared or actual length exceeds the limit, no chunk is
an error, and the chunks together are UTF-8 text.
-/
structure ExporterResponse.Yields (response : ExporterResponse) (body : List UInt8) : Prop where
  declared : ∀ length, response.contentLength = some length → length ≤ maxBodySize
  chunks : ∃ parts : List (List UInt8), response.chunks = parts.map .ok ∧ body = parts.flatten
  within : body.length ≤ maxBodySize
  text : ByteArray.IsValidUTF8 ⟨body.toArray⟩

/-- Chunks without an error, as they extend what has been read. -/
def Extends (read : List UInt8) (chunks : List (Except BoxError (List UInt8)))
    (body : List UInt8)
    : Prop :=
  ∃ parts : List (List UInt8), chunks = parts.map .ok ∧ body = read ++ parts.flatten

theorem extends_nil {read body : List UInt8} : Extends read [] body ↔ body = read := by
  constructor
  · rintro ⟨parts, none, rfl⟩
    obtain rfl := List.map_eq_nil_iff.mp none.symm
    simp
  · rintro rfl
    exact ⟨[], rfl, by simp⟩

theorem not_extends_error {read body : List UInt8} {error : BoxError}
    {chunks : List (Except BoxError (List UInt8))}
    : ¬ Extends read (.error error :: chunks) body := by
  rintro ⟨parts, same, -⟩
  cases parts with
  | nil => cases same
  | cons part parts => cases same

theorem extends_ok {read chunk body : List UInt8} {chunks : List (Except BoxError (List UInt8))}
    : Extends read (.ok chunk :: chunks) body ↔ Extends (read ++ chunk) chunks body := by
  constructor
  · rintro ⟨parts, same, rfl⟩
    cases parts with
    | nil => cases same
    | cons part parts =>
        obtain ⟨first, rfl⟩ := List.cons_eq_cons.mp same
        obtain rfl := Except.ok.inj first
        exact ⟨parts, rfl, by simp⟩
  · rintro ⟨parts, rfl, rfl⟩
    exact ⟨chunk :: parts, rfl, by simp⟩

/-- What has been read is part of what is read in the end. -/
theorem Extends.length_le {read body : List UInt8} {chunks : List (Except BoxError (List UInt8))}
    (extended : Extends read chunks body)
    : read.length ≤ body.length := by
  obtain ⟨parts, -, rfl⟩ := extended
  simp

/-- A proof view of one iteration of the loop that got a chunk. -/
inductive Iterated (buffer : BodyBuffer) (chunk : List UInt8)
    (chunks : List (Except BoxError (List UInt8)))
    : List Step → Except BoxError BodyBuffer × MemoryReservation → Prop
  | continued {extended retained granted rest result} (given : AllGranted granted)
    (fits : (buffer.bytes ++ chunk).length ≤ maxBodySize)
    (bytes : extended.bytes = buffer.bytes ++ chunk)
    (looped : (readChunks extended retained chunks).Returns rest result)
    : Iterated buffer chunk chunks (granted ++ rest) result
  | refused {trace error retained} (refused : ¬ AllGranted trace)
    : Iterated buffer chunk chunks trace (.error error, retained)
  | exceeded {trace error retained} (beyond : maxBodySize < (buffer.bytes ++ chunk).length)
    : Iterated buffer chunk chunks trace (.error error, retained)

/-- Every return of such an iteration is one of the view's constructors. -/
theorem iterated_of_returns {buffer : BodyBuffer} {retained : MemoryReservation}
    {chunk : List UInt8} {chunks : List (Except BoxError (List UInt8))} {trace : List Step}
    {result : Except BoxError BodyBuffer × MemoryReservation}
    (returned : (readChunks buffer retained (.ok chunk :: chunks)).Returns trace result)
    : Iterated buffer chunk chunks trace result := by
  rw [readChunks] at returned
  rcases Program.returns_bind.mp returned with ⟨first, rest, answer, rfl, asked, later⟩
  obtain rfl := returns_perform.mp asked
  dsimp only at later
  split at later
  · next within =>
      have fits := length_append_le within
      split at later
      · exact .continued (by simp) fits rfl later
      · rcases Program.returns_bind.mp later with ⟨first, rest, grown, rfl, acquired, allocates⟩
        rcases MemoryReservation.returns_tryGrow acquired with ⟨rfl, rfl⟩ | ⟨error, rfl, rfl⟩
        · rcases Program.returns_bind.mp allocates
            with ⟨first, rest, memory, rfl, asked, covers⟩
          obtain rfl := returns_perform.mp asked
          cases memory with
          | error error =>
              obtain ⟨rfl, rfl⟩ := Program.returns_pure.mp covers
              exact .refused (by simp)
          | ok capacity =>
              rcases Program.returns_bind.mp covers
                with ⟨first, rest, covered, rfl, slack, appends⟩
              rcases MemoryReservation.granted_growBeyond slack
                with ⟨granted, grown, rfl⟩ | ⟨refused, error, rfl⟩
              · simp only [← List.append_assoc]
                exact .continued (by simp [granted]) fits rfl appends
              · obtain ⟨rfl, rfl⟩ := Program.returns_pure.mp appends
                exact .refused (by simp [refused])
        · obtain ⟨rfl, rfl⟩ := Program.returns_pure.mp allocates
          exact .refused (by simp)
  · next beyond =>
      obtain ⟨rfl, rfl⟩ := Program.returns_pure.mp later
      exact .exceeded (lt_length_append beyond)

/-- The loop returns a body exactly when everything it asked for was given and no chunk is an
error or exceeds the limit; the body is then the concatenation. By induction over the chunks.
-/
theorem readChunks_ok_iff {buffer : BodyBuffer} {retained : MemoryReservation}
    {chunks : List (Except BoxError (List UInt8))} {trace : List Step}
    {result : Except BoxError BodyBuffer × MemoryReservation} (body : List UInt8)
    (small : buffer.bytes.length ≤ maxBodySize)
    (returned : (readChunks buffer retained chunks).Returns trace result)
    : (∃ final, result.1 = .ok final ∧ final.bytes = body)
      ↔ AllGranted trace ∧ body.length ≤ maxBodySize ∧ Extends buffer.bytes chunks body := by
  induction chunks generalizing buffer retained trace with
  | nil =>
      rcases Program.returns_bind.mp returned with ⟨first, rest, answer, rfl, asked, later⟩
      obtain rfl := returns_perform.mp asked
      obtain ⟨rfl, rfl⟩ := Program.returns_pure.mp later
      rw [extends_nil]
      constructor
      · rintro ⟨final, same, rfl⟩
        obtain rfl := Except.ok.inj same
        exact ⟨by simp, small, rfl⟩
      · rintro ⟨-, -, rfl⟩
        exact ⟨buffer, rfl, rfl⟩
  | cons chunk chunks ih =>
      cases chunk with
      | error error =>
          rcases Program.returns_bind.mp returned with ⟨first, rest, answer, rfl, asked, later⟩
          obtain ⟨rfl, rfl⟩ := Program.returns_pure.mp later
          constructor
          · rintro ⟨final, absent, -⟩
            cases absent
          · rintro ⟨-, -, extended⟩
            exact absurd extended not_extends_error
      | ok chunk =>
          rw [extends_ok]
          cases iterated_of_returns returned with
          | continued given fits bytes looped =>
              have recursed := ih (bytes ▸ fits) looped
              rw [recursed, bytes, allGranted_append, and_iff_right given]
          | refused refused =>
              constructor
              · rintro ⟨final, absent, -⟩
                cases absent
              · rintro ⟨granted, -⟩
                exact absurd granted refused
          | exceeded beyond =>
              constructor
              · rintro ⟨final, absent, -⟩
                cases absent
              · rintro ⟨-, within, extended⟩
                exact absurd (Nat.le_trans extended.length_le within) (Nat.not_le.mpr beyond)

/-- A buffer becomes text exactly when its bytes are UTF-8, and they stay the same. -/
theorem BodyBuffer.fromUtf8_ok_iff {buffer : BodyBuffer} {bytes : List UInt8}
    : (∃ body, buffer.fromUtf8 = .ok body ∧ bytesOf body.text = bytes)
      ↔ buffer.bytes = bytes ∧ ByteArray.IsValidUTF8 ⟨bytes.toArray⟩ := by
  unfold fromUtf8
  constructor
  · rintro ⟨body, read, rfl⟩
    split at read
    · next valid =>
        obtain rfl := Except.ok.inj read
        exact ⟨rfl, valid⟩
    · cases read
  · rintro ⟨rfl, valid⟩
    rw [dif_pos valid]
    exact ⟨_, rfl, rfl⟩

/-- What `fetch_resource` returns: it asks the exporter once, and returns a status and a body
exactly when the answer yields that body and everything asked for afterwards was given.
-/
structure FetchedFrom (url : String) (trace : List Step)
    (result : Except BoxError (UInt16 × RustString))
    (answer : Except BoxError ExporterResponse) (rest : List Step)
    : Prop where
  asks : trace = ⟨.get url, answer⟩ :: rest
  ok_iff
    : ∀ status bytes,
        (∃ body, result = .ok (status, body) ∧ bytesOf body.text = bytes)
        ↔ AllGranted rest
          ∧ ∃ response, answer = .ok response ∧ response.status = status ∧ response.Yields bytes

/-- A failure, when the answer yields nothing or something was refused. -/
theorem FetchedFrom.failed {url : String} {answer : Except BoxError ExporterResponse}
    {error : BoxError} {rest : List Step}
    (fails
      : ∀ response bytes, answer = .ok response → response.Yields bytes → ¬ AllGranted rest)
    : FetchedFrom url (⟨.get url, answer⟩ :: rest) (.error error) answer rest where
  asks := rfl
  ok_iff status bytes := by
    constructor
    · rintro ⟨body, absent, -⟩
      cases absent
    · rintro ⟨granted, response, answered, -, yields⟩
      exact absurd granted (fails response bytes answered yields)

/-- An answer that declares an admitted length yields what its chunks do. -/
theorem ExporterResponse.yields_iff {response : ExporterResponse} {body : List UInt8}
    (declared : ¬ response.contentLength.any (fun length => length > maxBodySize) = true)
    : response.Yields body
      ↔ (body.length ≤ maxBodySize ∧ Extends [] response.chunks body)
        ∧ ByteArray.IsValidUTF8 ⟨body.toArray⟩ := by
  constructor
  · rintro ⟨-, chunks, within, text⟩
    exact ⟨⟨within, by simpa [Extends] using chunks⟩, text⟩
  · rintro ⟨⟨within, chunks⟩, text⟩
    refine { declared := ?_, chunks := by simpa [Extends] using chunks, within, text }
    intro length same
    simp only [same, Option.any_some, decide_eq_true_eq] at declared
    omega

/-- What becomes of a loop that started with an empty buffer. -/
theorem ExporterResponse.text_ok_iff {response : ExporterResponse} {buffer : BodyBuffer}
    {retained : MemoryReservation} {trace : List Step} (bytes : List UInt8)
    {result : Except BoxError BodyBuffer × MemoryReservation}
    (declared : ¬ response.contentLength.any (fun length => length > maxBodySize) = true)
    (empty : buffer.bytes = [])
    (looped : (readChunks buffer retained response.chunks).Returns trace result)
    : (∃ text, result.1.bind BodyBuffer.fromUtf8 = .ok text ∧ bytesOf text.text = bytes)
      ↔ AllGranted trace ∧ response.Yields bytes := by
  have small : buffer.bytes.length ≤ maxBodySize := by
    rw [empty]
    exact Nat.zero_le _
  have read := readChunks_ok_iff bytes small looped
  rw [response.yields_iff declared, ← and_assoc, ← empty, ← read]
  obtain ⟨body, after⟩ := result
  cases body with
  | error error =>
      constructor
      · rintro ⟨text, absent, -⟩
        cases absent
      · rintro ⟨⟨final, absent, -⟩, -⟩
        cases absent
  | ok buffer =>
      have converted := @BodyBuffer.fromUtf8_ok_iff buffer bytes
      constructor
      · intro text
        obtain ⟨same, valid⟩ := converted.mp text
        exact ⟨⟨buffer, rfl, same⟩, valid⟩
      · rintro ⟨⟨final, same, read⟩, valid⟩
        obtain rfl := Except.ok.inj same
        exact converted.mpr ⟨read, valid⟩

/-- A proof view of `fetch_resource`: its ends, in the order of the code. -/
inductive Fetches (url : String)
    : List Step → Except BoxError (UInt16 × RustString) × MemoryReservation → Prop
  | unanswered {error retained} : Fetches url [⟨.get url, .error error⟩] (.error error, retained)
  | oversized {response retained}
    (declared : response.contentLength.any (fun length => length > maxBodySize) = true)
    : Fetches url [⟨.get url, .ok response⟩] (.error bodyTooLarge, retained)
  | refused {response rest error retained} (refused : ¬ AllGranted rest)
    : Fetches url (⟨.get url, .ok response⟩ :: rest) (.error error, retained)
  | read {response granted buffer before looped body retained}
    (declared : ¬ response.contentLength.any (fun length => length > maxBodySize) = true)
    (given : AllGranted granted) (empty : buffer.bytes = [])
    (read : (readChunks buffer before response.chunks).Returns looped (body, retained))
    : Fetches url (⟨.get url, .ok response⟩ :: (granted ++ looped))
        ((body.bind BodyBuffer.fromUtf8).map (response.status, ·), retained)

/-- Every return of `fetch_resource` is one of the view's constructors. -/
theorem fetches_of_returns {url : String} {retained : MemoryReservation} {trace : List Step}
    {result : Except BoxError (UInt16 × RustString) × MemoryReservation}
    (returned : (fetchResource url retained).Returns trace result)
    : Fetches url trace result := by
  rcases Program.returns_bind.mp returned with ⟨first, rest, answer, rfl, asked, continued⟩
  obtain rfl := returns_perform.mp asked
  cases answer with
  | error error =>
      obtain ⟨rfl, rfl⟩ := Program.returns_pure.mp continued
      exact .unanswered
  | ok response =>
      dsimp only at continued
      split at continued
      · next declared =>
          obtain ⟨rfl, rfl⟩ := Program.returns_pure.mp continued
          exact .oversized declared
      · next declared =>
          rcases Program.returns_bind.mp continued
            with ⟨first, rest, grown, rfl, acquired, allocates⟩
          rcases MemoryReservation.returns_tryGrow acquired with ⟨rfl, rfl⟩ | ⟨error, rfl, rfl⟩
          · rcases Program.returns_bind.mp allocates
              with ⟨first, rest, capacity, rfl, asked, covers⟩
            obtain rfl := returns_perform.mp asked
            rcases Program.returns_bind.mp covers
              with ⟨first, rest, covered, rfl, slack, reads⟩
            rcases MemoryReservation.granted_growBeyond slack
              with ⟨granted, grown, rfl⟩ | ⟨refused, error, rfl⟩
            · rcases Program.returns_bind.mp reads with ⟨read, rest, body, rfl, looped, ends⟩
              obtain ⟨body, after⟩ := body
              have whole : rest = []
                  ∧ result = ((body.bind BodyBuffer.fromUtf8).map (response.status, ·), after) := by
                dsimp only at ends
                split at ends
                · next error failed =>
                    obtain ⟨rfl, rfl⟩ := Program.returns_pure.mp ends
                    rw [failed]
                    exact ⟨rfl, rfl⟩
                · next text converted =>
                    obtain ⟨rfl, rfl⟩ := Program.returns_pure.mp ends
                    rw [converted]
                    exact ⟨rfl, rfl⟩
              obtain ⟨rfl, rfl⟩ := whole
              have given : AllGranted
                  ([⟨.tryAcquire (min (response.contentLength.getD 0) maxBodySize), .ok ()⟩,
                    ⟨.withCapacity (min (response.contentLength.getD 0) maxBodySize), capacity⟩]
                  ++ first) := by
                simp [granted]
              simpa using Fetches.read declared given rfl looped
            · obtain ⟨rfl, rfl⟩ := Program.returns_pure.mp reads
              exact .refused (by simp [refused])
          · obtain ⟨rfl, rfl⟩ := Program.returns_pure.mp allocates
            exact .refused (by simp)

/-- What each end says of the exporter's answer. -/
theorem returns_fetchResource {url : String} {retained : MemoryReservation} {trace : List Step}
    {result : Except BoxError (UInt16 × RustString) × MemoryReservation}
    (returned : (fetchResource url retained).Returns trace result)
    : ∃ answer rest, FetchedFrom url trace result.1 answer rest := by
  cases fetches_of_returns returned with
  | @unanswered error retained =>
      exact ⟨.error error, [], .failed fun response bytes absent => nomatch absent⟩
  | @oversized response retained declared =>
      refine ⟨.ok response, [], .failed ?_⟩
      rintro _ bytes ⟨⟩ yields
      cases length : response.contentLength with
      | none => simp [length] at declared
      | some length =>
          have within := yields.declared _ length
          simp [length] at declared
          omega
  | @refused response rest error retained refused =>
      exact ⟨.ok response, rest, .failed fun _ _ _ _ given => refused given⟩
  | @read response granted buffer before looped body retained declared given empty read =>
      refine ⟨.ok response, granted ++ looped, rfl, ?_⟩
      intro status bytes
      have text := ExporterResponse.text_ok_iff bytes declared empty read
      rw [allGranted_append, and_iff_right given]
      constructor
      · rintro ⟨final, same, rfl⟩
        cases converted : body.bind BodyBuffer.fromUtf8 with
        | error error =>
            rw [converted] at same
            cases same
        | ok content =>
            rw [converted] at same
            obtain ⟨rfl, rfl⟩ := Prod.mk.inj (Except.ok.inj same)
            obtain ⟨given, yields⟩ := text.mp ⟨content, converted, rfl⟩
            exact ⟨given, response, rfl, rfl, yields⟩
      · rintro ⟨given, _, ⟨⟩, rfl, yields⟩
        obtain ⟨converted, same, read⟩ := text.mpr ⟨given, yields⟩
        exact ⟨converted, by simp [same, Except.map], read⟩

-----------------------------------------------------------------------------------------
-- What is returned
-----------------------------------------------------------------------------------------

/-- The response to an unknown resource: its text, or an error without one when there is no room
for it. The exporter is not asked.
-/
def AnsweredUnknown (uid : RustString) (trace : List Step) (response : ResourceResponse) : Prop :=
  (∀ url answer, ⟨.get url, answer⟩ ∉ trace)
  ∧ ∃ answer rest,
      trace = ⟨.tryAcquire uid.capacity, .ok ()⟩ :: ⟨.tryAcquire noSuchResource.len, answer⟩ :: rest
      ∧ ((answer = .ok () ∧ response = .new uid 404 noSuchResource)
        ∨ ((∃ error, answer = .error error) ∧ response = .new uid 500 .new))

/-- The response to a configured resource: the exporter's status and body when its answer yields
one and everything asked for was given, and an empty error otherwise.
-/
def AnsweredConfigured (uid : RustString) (url : String) (trace : List Step)
    (response : ResourceResponse)
    : Prop :=
  ∃ answer rest,
    trace = ⟨.tryAcquire uid.capacity, .ok ()⟩ :: ⟨.get url, answer⟩ :: rest
    ∧ ((∃ exporter bytes body,
          answer = .ok exporter
          ∧ exporter.Yields bytes
          ∧ AllGranted rest
          ∧ bytesOf body.text = bytes
          ∧ response = .new uid exporter.status body)
      ∨ ((∀ exporter bytes, answer = .ok exporter → exporter.Yields bytes → ¬ AllGranted rest)
        ∧ response = .new uid 500 .new))

/-- What a call has done when it returned: the uid was reserved first, and nothing is returned
exactly when that was refused; a response has that uid and retains exactly its two buffers.
-/
structure CallEnded (resources : String → Option String) (uid : RustString) (resource : String)
    (trace : List Step) (result : Option BudgetedResponse)
    : Prop where
  reserves
    : ∃ answer rest,
        trace = ⟨.tryAcquire uid.capacity, answer⟩ :: rest
        ∧ (result = none ↔ ∃ error, answer = .error error)
  retains : ∀ response, result = some response → response.response.uid = uid ∧ response.Exact
  unknown
    : resources resource = none
      → ∀ response, result = some response → AnsweredUnknown uid trace response.response
  configured
    : ∀ url,
        resources resource = some url
        → ∀ response, result = some response → AnsweredConfigured uid url trace response.response

/-- What a reading that returned has left in the reservation. -/
theorem fetchResource_covers {uid : RustString} {url : String} {retained : MemoryReservation}
    {trace : List Step} {result : Except BoxError (UInt16 × RustString) × MemoryReservation}
    (covered : retained.bytes = uid.capacity)
    (returned : (fetchResource url retained).Returns trace result)
    : uid.capacity ≤ result.2.bytes
      ∧ ∀ status body,
          result.1 = .ok (status, body) → result.2.bytes = uid.capacity + body.capacity := by
  have fetched := (meets_fetchResource covered).returns returned
  exact ⟨fetched.uidCovered, fun status body same => fetched.bodyCovered _ same⟩

section Ends

variable {resources : String → Option String} {uid : RustString} {resource : String}
  {trace : List Step} {result : Option BudgetedResponse} {response : BudgetedResponse}

/-- Nothing is returned exactly when the uid cannot be reserved. -/
theorem reserves_uid (returned : (callResource resources uid resource).Returns trace result)
    : ∃ answer rest,
        trace = ⟨.tryAcquire uid.capacity, answer⟩ :: rest
        ∧ (result = none ↔ ∃ error, answer = .error error) := by
  rcases Program.returns_bind.mp returned with ⟨first, rest, reserved, rfl, asked, continued⟩
  rcases returns_tryReserve asked with ⟨rfl, rfl⟩ | ⟨error, rfl, rfl⟩
  · refine ⟨.ok (), rest, rfl, ?_⟩
    have answered : result ≠ none := by
      apply returned_satisfies (P := fun result => result ≠ none) continued
      cases resources resource with
      | none =>
          apply meets_anything_bind
          rintro (error | retained)
          · apply meets_anything_bind
            simp
          · apply meets_anything_bind
            simp
      | some url =>
          apply meets_anything_bind
          rintro ⟨error | ⟨status, body⟩, retained⟩
          · apply meets_anything_bind
            intro retained
            apply meets_anything_bind
            simp
          · apply meets_anything_bind
            simp
    constructor
    · intro absent
      exact absurd absent answered
    · rintro ⟨error, absent⟩
      cases absent
  · obtain ⟨rfl, rfl⟩ := Program.returns_pure.mp continued
    exact ⟨.error error, [], rfl, by simp⟩

/-- An unknown resource is answered without the exporter. -/
theorem answers_unknown (unknown : resources resource = none)
    (returned : (callResource resources uid resource).Returns trace (some response))
    : AnsweredUnknown uid trace response.response := by
  rcases Program.returns_bind.mp returned with ⟨first, rest, reserved, rfl, asked, continued⟩
  rcases returns_tryReserve asked with ⟨rfl, rfl⟩ | ⟨error, rfl, rfl⟩
  · dsimp only at continued
    rw [unknown] at continued
    rcases Program.returns_bind.mp continued with ⟨first, rest, grown, rfl, acquired, builds⟩
    have covers : uid.capacity + (RustString.new).capacity ≤ uid.capacity := Nat.le_refl _
    rcases MemoryReservation.returns_tryGrow acquired with ⟨rfl, rfl⟩ | ⟨error, rfl, rfl⟩
    · rcases Program.returns_bind.mp builds with ⟨first, rest, built, rfl, reserved, ends⟩
      obtain ⟨rfl, rfl⟩ := BudgetedResponse.returns_fromReserved (Nat.le_refl _) reserved
      obtain ⟨rfl, same⟩ := Program.returns_pure.mp ends
      obtain rfl := Option.some.inj same
      exact ⟨by simp, _, _, rfl, .inl ⟨rfl, rfl⟩⟩
    · rcases Program.returns_bind.mp builds with ⟨first, rest, built, rfl, reserved, ends⟩
      obtain ⟨rfl, rfl⟩ := BudgetedResponse.returns_fromReserved covers reserved
      obtain ⟨rfl, same⟩ := Program.returns_pure.mp ends
      obtain rfl := Option.some.inj same
      exact ⟨by simp, _, _, rfl, .inr ⟨⟨error, rfl⟩, rfl⟩⟩
  · obtain ⟨rfl, absent⟩ := Program.returns_pure.mp continued
    cases absent

/-- A configured resource is answered by its exporter or with an error. -/
theorem answers_configured {url : String} (known : resources resource = some url)
    (returned : (callResource resources uid resource).Returns trace (some response))
    : AnsweredConfigured uid url trace response.response := by
  rcases Program.returns_bind.mp returned with ⟨first, rest, reserved, rfl, asked, continued⟩
  rcases returns_tryReserve asked with ⟨rfl, rfl⟩ | ⟨error, rfl, rfl⟩
  · dsimp only at continued
    rw [known] at continued
    rcases Program.returns_bind.mp continued with ⟨first, rest, fetched, rfl, reads, builds⟩
    obtain ⟨uidCovered, bodyCovered⟩ := fetchResource_covers rfl reads
    obtain ⟨answer, read, from'⟩ := returns_fetchResource reads
    obtain ⟨fetched, retained⟩ := fetched
    obtain rfl := from'.asks
    cases fetched with
    | ok fetched =>
        obtain ⟨status, body⟩ := fetched
        have covers := Nat.le_of_eq (bodyCovered status body rfl).symm
        rcases Program.returns_bind.mp builds with ⟨first, rest, built, rfl, reserved, ends⟩
        obtain ⟨rfl, rfl⟩ := BudgetedResponse.returns_fromReserved covers reserved
        obtain ⟨rfl, same⟩ := Program.returns_pure.mp ends
        obtain rfl := Option.some.inj same
        obtain ⟨given, exporter, rfl, rfl, yields⟩ :=
          (from'.ok_iff status (bytesOf body.text)).mp ⟨body, rfl, rfl⟩
        exact ⟨_, _, rfl, .inl ⟨exporter, _, body, rfl, yields, by simp [given], rfl, rfl⟩⟩
    | error error =>
        rcases Program.returns_bind.mp builds with ⟨first, rest, shrunk, rfl, shrinks, builds⟩
        obtain ⟨rfl, rfl⟩ := MemoryReservation.returns_shrinkTo uidCovered shrinks
        rcases Program.returns_bind.mp builds with ⟨first, rest, built, rfl, reserved, ends⟩
        obtain ⟨rfl, rfl⟩ := BudgetedResponse.returns_fromReserved (Nat.le_refl _) reserved
        obtain ⟨rfl, same⟩ := Program.returns_pure.mp ends
        obtain rfl := Option.some.inj same
        refine ⟨_, _, rfl, .inr ⟨?_, rfl⟩⟩
        intro exporter bytes answered yields given
        have read : AllGranted read := (allGranted_append.mp given).1
        obtain ⟨body, absent, -⟩ :=
          (from'.ok_iff exporter.status bytes).mpr ⟨read, exporter, answered, rfl, yields⟩
        cases absent
  · obtain ⟨rfl, absent⟩ := Program.returns_pure.mp continued
    cases absent

end Ends

/-- What is true of `call_resource` for every resource, exporter, budget and allocator: its
bookkeeping holds at every iteration and no subtraction wraps, none of its own assertions fails,
and every call ends as it should.
-/
structure CallsResource (resources : String → Option String) (uid : RustString)
    (resource : String)
    : Prop where
  bookkeeping : callResourceAsserted resources uid resource = callResource resources uid resource
  covers : (callResource resources uid resource).Meets (coverage uid.capacity) (Called uid) 0
  ends
    : ∀ trace result,
        (callResource resources uid resource).Returns trace result
        → CallEnded resources uid resource trace result

/-- `call_resource` end to end. -/
theorem callResource_correct (resources : String → Option String) (uid : RustString)
    (resource : String)
    : CallsResource resources uid resource where
  bookkeeping := callResourceAsserted_eq
  covers := meets_callResource
  ends trace result returned := by
    refine { reserves := reserves_uid returned, retains := ?_, unknown := ?_, configured := ?_ }
    · rintro response rfl
      have called := meets_callResource.returns returned
      exact ⟨called.1, called.2.1⟩
    · rintro unknown response rfl
      exact answers_unknown unknown returned
    · rintro url known response rfl
      exact answers_configured known returned

end ProxyClient
