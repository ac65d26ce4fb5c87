import ProxyClient.Coverage
import ProxyClient.Encoding.Json

/-! `bounded_response_json` against its purpose, over its traces: which response it leaves, what
it returns for it, and on which responses the encoder is run.
-/

namespace ProxyClient

open Foundations Memory

-----------------------------------------------------------------------------------------
-- A response that has a reservation
-----------------------------------------------------------------------------------------

/-- The encoded text of a response, and its cover. -/
structure EncodedResponse.IsOf (encoded : EncodedResponse) (json : SerdeJson) (origin : Origin)
    (source : ResourceResponse)
    : Prop where
  text : encoded.json.text = json.toWriter source
  covered : encoded.reservation.bytes = encoded.json.capacity
  origin : encoded.origin = origin
  source : encoded.source = source

/-- What becomes of a response whose length is reserved: its text is written to a buffer, the
slack of the buffer is asked for if there is any, and the result is the text exactly when the
slack was given.
-/
structure Serialized (json : SerdeJson) (origin : Origin) (source : ResourceResponse)
    (trace : List Step) (result : Except BoxError EncodedResponse)
    : Prop where
  slack
    : ∃ (capacity : Capacity (json.toWriter source).utf8ByteSize) (rest : List Step),
        trace = ⟨.withCapacity (json.toWriter source).utf8ByteSize, capacity⟩ :: rest
        ∧ ((capacity.val = (json.toWriter source).utf8ByteSize ∧ rest = [])
          ∨ ((json.toWriter source).utf8ByteSize < capacity.val
            ∧ ∃ answer more,
                rest
                = ⟨.tryAcquire (capacity.val - (json.toWriter source).utf8ByteSize), answer⟩
                  :: more))
  given : AllGranted trace → ∃ encoded, result = .ok encoded ∧ encoded.IsOf json origin source
  refused : ¬ AllGranted trace → ∃ error, result = .error error

/-- The second half of `bounded_response_json`, once the computed length is reserved. -/
theorem SerdeJson.Documented.returns_encodeReserved {json : SerdeJson}
    (documented : json.Documented) {origin : Origin} {response : BudgetedResponse} {length : Nat}
    {trace : List Step} {result : Except BoxError EncodedResponse}
    (computed : responseJsonEncodedLen response.response = some length)
    (returned : (encodeReserved json.encoder origin response length ⟨length⟩).Returns trace result)
    : Serialized json origin response.response trace result := by
  obtain ⟨rfl, -⟩ := documented.length_eq_some.mp computed
  simp only [encodeReserved, SerdeJson.encoder, ne_eq, not_true_eq_false, if_false,
    Program.bind_eq] at returned
  rcases Program.returns_bind.mp returned with ⟨first, rest, capacity, rfl, asked, covers⟩
  obtain rfl := returns_perform.mp asked
  rcases Program.returns_bind.mp covers with ⟨first, rest, grown, rfl, slack, ends⟩
  rcases MemoryReservation.returns_growBeyond capacity.property.1 slack
    with ⟨exact', rfl, rfl⟩ | ⟨beyond, ⟨rfl, rfl⟩ | ⟨error, rfl, rfl⟩⟩
  · obtain ⟨rfl, rfl⟩ := Program.returns_pure.mp ends
    refine { slack := ⟨capacity, [], rfl, .inl ⟨exact', rfl⟩⟩, given := ?_, refused := ?_ }
    · intro _
      exact ⟨_, rfl, rfl, exact'.symm, rfl, rfl⟩
    · intro refused
      exact absurd (by simp) refused
  · obtain ⟨rfl, rfl⟩ := Program.returns_pure.mp ends
    refine { slack := ⟨capacity, _, rfl, .inr ⟨beyond, _, _, rfl⟩⟩, given := ?_, refused := ?_ }
    · intro _
      refine ⟨_, rfl, rfl, ?_, rfl, rfl⟩
      dsimp only
      omega
    · intro refused
      exact absurd (by simp) refused
  · rcases Program.returns_bind.mp ends with ⟨first, rest, dropped, rfl, drops, ends⟩
    obtain ⟨rfl, rfl⟩ := Program.returns_pure.mp ends
    refine { slack := ⟨capacity, _, rfl, .inr ⟨beyond, _, _, rfl⟩⟩, given := ?_, refused := ?_ }
    · intro granted
      simp at granted
    · intro _
      exact ⟨_, rfl⟩

-----------------------------------------------------------------------------------------
-- The two attempts
-----------------------------------------------------------------------------------------

/-- The second attempt: an empty error response with the same uid, whose body bytes have been
given back before anything else is reserved.
-/
structure Downgraded (json : SerdeJson) (limit : Nat) (origin : Origin)
    (response : BudgetedResponse) (trace : List Step) (after : BudgetedResponse)
    (result : Except BoxError EncodedResponse)
    : Prop where
  becomes : after.response = response.response.downgraded
  retains : after.Exact
  attempt
    : ∃ rest,
        trace = ⟨.release response.response.body.capacity, ()⟩ :: rest
        ∧ (((json.toWriter after.response).utf8ByteSize ≤ limit
            ∧ ∃ answer more,
                rest = ⟨.tryAcquire (json.toWriter after.response).utf8ByteSize, answer⟩ :: more
                ∧ ((answer = .ok () ∧ Serialized json origin after.response more result)
                  ∨ ∃ error, answer = .error error ∧ result = .error (.memoryBudget error)))
          ∨ (limit < (json.toWriter after.response).utf8ByteSize
            ∧ rest = []
            ∧ ∃ error, result = .error error))

/-- A text whose length is not computed is longer than a `usize`. -/
theorem SerdeJson.Documented.overflows {json : SerdeJson} (documented : json.Documented)
    {response : ResourceResponse} (uncomputed : responseJsonEncodedLen response = none)
    : usizeMax < (json.toWriter response).utf8ByteSize := by
  apply Nat.lt_of_not_le
  intro fits
  have computed := documented.length_eq_some.mpr ⟨rfl, fits⟩
  rw [← responseJsonEncodedLen, uncomputed] at computed
  cases computed

theorem SerdeJson.Documented.returns_encodeDowngraded {json : SerdeJson}
    (documented : json.Documented) {limit : Nat} {origin : Origin} {response : BudgetedResponse}
    {trace : List Step} {result : BudgetedResponse × Except BoxError EncodedResponse}
    (usize : limit ≤ usizeMax) (exactly : response.Exact)
    (returned : (encodeDowngraded limit json.encoder origin response).Returns trace result)
    : Downgraded json limit origin response trace result.1 result.2 := by
  have total : response.retained.bytes
      = response.response.uid.capacity + response.response.body.capacity := exactly
  rcases Program.returns_bind.mp returned with ⟨first, rest, after, rfl, downgrades, continued⟩
  obtain ⟨rfl, rfl⟩ := BudgetedResponse.returns_downgradeToError (by omega) downgrades
  have released : response.retained.bytes - response.response.uid.capacity
      = response.response.body.capacity := by
    omega
  rw [released]
  dsimp only at continued
  split at continued
  · next overflows =>
      obtain ⟨rfl, rfl⟩ := Program.returns_pure.mp continued
      have wide := documented.overflows overflows
      refine { becomes := rfl, retains := rfl, attempt := ⟨_, rfl, .inr ⟨?_, rfl, _, rfl⟩⟩ }
      exact Nat.lt_of_le_of_lt usize wide
  · next length computed =>
      obtain ⟨same, -⟩ := documented.length_eq_some.mp computed
      split at continued
      · next beyond =>
          obtain ⟨rfl, rfl⟩ := Program.returns_pure.mp continued
          refine { becomes := rfl, retains := rfl, attempt := ⟨_, rfl, .inr ⟨?_, rfl, _, rfl⟩⟩ }
          dsimp only
          omega
      · next within =>
          rcases Program.returns_bind.mp continued
            with ⟨first, rest, reserved, rfl, asked, encodes⟩
          have fits := Nat.le_of_not_lt within
          rcases returns_tryReserve asked with ⟨rfl, rfl⟩ | ⟨error, rfl, rfl⟩
          · rcases Program.returns_bind.mp encodes
              with ⟨first, rest, encoded, rfl, serializes, ends⟩
            obtain ⟨rfl, rfl⟩ := Program.returns_pure.mp ends
            have serialized := documented.returns_encodeReserved computed serializes
            obtain rfl := same
            refine { becomes := rfl, retains := rfl, attempt := ⟨_, rfl, .inl ⟨fits, ?_⟩⟩ }
            exact ⟨.ok (), _, rfl, .inl ⟨rfl, by simpa using serialized⟩⟩
          · obtain ⟨rfl, rfl⟩ := Program.returns_pure.mp encodes
            obtain rfl := same
            refine { becomes := rfl, retains := rfl, attempt := ⟨_, rfl, .inl ⟨fits, ?_⟩⟩ }
            exact ⟨.error error, _, rfl, .inr ⟨error, rfl, rfl⟩⟩

/-- The original's length is within the limit and was reserved. -/
def ReservedFirst (limit length : Nat) (trace : List Step) : Prop :=
  length ≤ limit ∧ trace.head? = some ⟨.tryAcquire length, .ok ()⟩

/-- What `bounded_response_json` has done when it returned. A length that is no `usize` at all is
an error before anything else; an original that was reserved is sent as it is; every other one
is downgraded, after at most one refused reservation.
-/
structure BoundedEnded (json : SerdeJson) (limit : Nat) (origin : Origin)
    (response : BudgetedResponse) (trace : List Step) (after : BudgetedResponse)
    (result : Except BoxError EncodedResponse)
    : Prop where
  overflows
    : usizeMax < (json.toWriter response.response).utf8ByteSize
      → trace = [] ∧ after = response ∧ ∃ error, result = .error error
  keeps
    : ReservedFirst limit (json.toWriter response.response).utf8ByteSize trace
      → after = response ∧ Serialized json origin response.response trace.tail result
  downgrades
    : (json.toWriter response.response).utf8ByteSize ≤ usizeMax
      → ¬ ReservedFirst limit (json.toWriter response.response).utf8ByteSize trace
      → ∃ refused rest,
          trace = refused ++ rest
          ∧ ((limit < (json.toWriter response.response).utf8ByteSize ∧ refused = [])
            ∨ ((json.toWriter response.response).utf8ByteSize ≤ limit
              ∧ ∃ error,
                  refused
                  = [⟨.tryAcquire (json.toWriter response.response).utf8ByteSize, .error error⟩]))
          ∧ Downgraded json limit origin response rest after result
  bounded
    : ∀ encoded,
        result = .ok encoded
        → encoded.json.len ≤ limit
          ∧ encoded.reservation.bytes = encoded.json.capacity
          ∧ encoded.source = after.response
          ∧ encoded.json.text = json.toWriter after.response

/-- A serialised text is that of its source, within the limit of the source. -/
theorem Serialized.bounded {json : SerdeJson} {origin : Origin} {source : ResourceResponse}
    {trace : List Step} {encoded : EncodedResponse}
    (serialized : Serialized json origin source trace (.ok encoded))
    : encoded.IsOf json origin source := by
  by_cases given : AllGranted trace
  · obtain ⟨_, same, isOf⟩ := serialized.given given
    obtain rfl := Except.ok.inj same
    exact isOf
  · obtain ⟨error, absent⟩ := serialized.refused given
    cases absent

/-- So an encoded text is within a limit that its source's text is within. -/
theorem EncodedResponse.IsOf.bounded {encoded : EncodedResponse} {json : SerdeJson}
    {origin : Origin} {source : ResourceResponse} {limit : Nat}
    (isOf : encoded.IsOf json origin source)
    (within : (json.toWriter source).utf8ByteSize ≤ limit)
    : encoded.json.len ≤ limit
      ∧ encoded.reservation.bytes = encoded.json.capacity
      ∧ encoded.source = source
      ∧ encoded.json.text = json.toWriter source := by
  refine ⟨?_, isOf.covered, isOf.source, isOf.text⟩
  rw [RustString.len, isOf.text]
  exact within

theorem Downgraded.bounded {json : SerdeJson} {limit : Nat} {origin : Origin}
    {response after : BudgetedResponse} {trace : List Step} {encoded : EncodedResponse}
    (downgraded : Downgraded json limit origin response trace after (.ok encoded))
    : encoded.json.len ≤ limit
      ∧ encoded.reservation.bytes = encoded.json.capacity
      ∧ encoded.source = after.response
      ∧ encoded.json.text = json.toWriter after.response := by
  obtain ⟨rest, -, attempted | ⟨-, -, absent⟩⟩ := downgraded.attempt
  · obtain ⟨within, answer, more, -, ⟨-, serialized⟩ | ⟨error, -, absent⟩⟩ := attempted
    · exact serialized.bounded.bounded within
    · cases absent
  · obtain ⟨error, absent⟩ := absent
    cases absent

/-- A downgrade, after at most one refused reservation, is an end. -/
theorem Downgraded.ended {json : SerdeJson} {limit : Nat} {origin : Origin}
    {response after : BudgetedResponse} {refused rest : List Step}
    {result : Except BoxError EncodedResponse}
    (downgraded : Downgraded json limit origin response rest after result)
    (fits : (json.toWriter response.response).utf8ByteSize ≤ usizeMax)
    (unreserved
      : ¬ ReservedFirst limit (json.toWriter response.response).utf8ByteSize (refused ++ rest))
    (attempted
      : (limit < (json.toWriter response.response).utf8ByteSize ∧ refused = [])
        ∨ ((json.toWriter response.response).utf8ByteSize ≤ limit
          ∧ ∃ error,
              refused
              = [⟨.tryAcquire (json.toWriter response.response).utf8ByteSize, .error error⟩]))
    : BoundedEnded json limit origin response (refused ++ rest) after result where
  overflows wide := absurd wide (Nat.not_lt.mpr fits)
  keeps reserved := absurd reserved unreserved
  downgrades _ _ := ⟨refused, rest, rfl, attempted, downgraded⟩
  bounded encoded same := by
    rw [same] at downgraded
    exact downgraded.bounded

/-- Every end of `bounded_response_json`, in the order of the code. -/
theorem SerdeJson.Documented.returns_boundedResponseJsonWith {json : SerdeJson}
    (documented : json.Documented) {limit : Nat} {origin : Origin} {response : BudgetedResponse}
    {trace : List Step} {result : BudgetedResponse × Except BoxError EncodedResponse}
    (usize : limit ≤ usizeMax) (exactly : response.Exact)
    (returned : (boundedResponseJsonWith limit json.encoder origin response).Returns trace result)
    : BoundedEnded json limit origin response trace result.1 result.2 := by
  unfold boundedResponseJsonWith at returned
  split at returned
  · next overflows =>
      obtain ⟨rfl, rfl⟩ := Program.returns_pure.mp returned
      have wide := documented.overflows overflows
      refine { overflows := ?_, keeps := ?_, downgrades := ?_, bounded := ?_ }
      · intro _
        exact ⟨rfl, rfl, _, rfl⟩
      · rintro ⟨-, absent⟩
        cases absent
      · intro fits
        exact absurd fits (Nat.not_le.mpr wide)
      · rintro encoded ⟨⟩
  · next length computed =>
      obtain ⟨rfl, fits⟩ := documented.length_eq_some.mp computed
      split at returned
      · next within =>
          rcases Program.returns_bind.mp returned
            with ⟨first, rest, reserved, rfl, asked, continued⟩
          rcases returns_tryReserve asked with ⟨rfl, rfl⟩ | ⟨error, rfl, rfl⟩
          · rcases Program.returns_bind.mp continued
              with ⟨first, rest, encoded, rfl, serializes, ends⟩
            obtain ⟨rfl, rfl⟩ := Program.returns_pure.mp ends
            have serialized := documented.returns_encodeReserved computed serializes
            refine { overflows := ?_, keeps := ?_, downgrades := ?_, bounded := ?_ }
            · intro wide
              exact absurd wide (Nat.not_lt.mpr fits)
            · intro _
              exact ⟨rfl, by simpa using serialized⟩
            · intro _ refused
              exact absurd ⟨within, rfl⟩ refused
            · rintro encoded rfl
              exact serialized.bounded.bounded within
          · have downgraded := documented.returns_encodeDowngraded usize exactly continued
            have unreserved
                : ¬ ReservedFirst limit (json.toWriter response.response).utf8ByteSize
                    ([⟨.tryAcquire (json.toWriter response.response).utf8ByteSize, .error error⟩]
                      ++ rest) := by
              rintro ⟨-, absent⟩
              cases absent
            exact downgraded.ended fits unreserved (.inr ⟨within, error, rfl⟩)
      · next beyond =>
          have downgraded := documented.returns_encodeDowngraded usize exactly returned
          have unreserved
              : ¬ ReservedFirst limit (json.toWriter response.response).utf8ByteSize
                  ([] ++ trace) := by
            rintro ⟨within, -⟩
            exact absurd within beyond
          exact downgraded.ended fits unreserved (.inl ⟨Nat.lt_of_not_le beyond, rfl⟩)

/-- The empty error in the place of a response is small. -/
theorem downgraded_small {response : ResourceResponse} (uid : response.uid.len ≤ maxUidSize)
    : (responseJson response.downgraded).utf8ByteSize ≤ 1000 := by
  have digits := decimalDigits_le response.downgraded.status
  have content : jsonBytes response.downgraded.uid.text ≤ response.uid.len * 6 :=
    jsonBytes_le response.uid.text
  have empty : jsonBytes response.downgraded.body.text = 0 := rfl
  rw [maxUidSize] at uid
  rw [responseJson_size, empty]
  omega

-----------------------------------------------------------------------------------------
-- On what the encoder is run
-----------------------------------------------------------------------------------------

/-- The response, if any, on which the encoder was run in a trace: one whose length is computed,
within the limit, and has been reserved. Any encoder that agrees on it goes the same way.
-/
structure Encodes (program : Encoder → Proc (BudgetedResponse × Except BoxError EncodedResponse))
    (limit : Nat) (encoder : Encoder) (trace : List Step)
    (result : BudgetedResponse × Except BoxError EncodedResponse)
    (asked : Option ResourceResponse)
    : Prop where
  reserved
    : ∀ source,
        asked = some source
        → ∃ length first rest,
            responseJsonEncodedLen source = some length
            ∧ length ≤ limit
            ∧ trace = first ++ ⟨.tryAcquire length, .ok ()⟩ :: rest
  only
    : ∀ other : Encoder,
        (∀ source, asked = some source → other source = encoder source)
        → (program other).Returns trace result

/-- A run that goes the same way with every encoder has not run it. -/
theorem Encodes.unasked
    {program : Encoder → Proc (BudgetedResponse × Except BoxError EncodedResponse)} {limit : Nat}
    {encoder : Encoder} {trace : List Step}
    {result : BudgetedResponse × Except BoxError EncodedResponse}
    (every : ∀ other, (program other).Returns trace result)
    : Encodes program limit encoder trace result none where
  reserved _ absent := nomatch absent
  only other _ := every other

/-- The second half runs the encoder on its response. -/
theorem encodeReserved_congr {encoder other : Encoder} {origin : Origin}
    {response : BudgetedResponse} {length : Nat} {reservation : MemoryReservation}
    (agree : other response.response = encoder response.response)
    : encodeReserved other origin response length reservation
      = encodeReserved encoder origin response length reservation := by
  unfold encodeReserved
  rw [agree]

/-- The second attempt runs the encoder on the downgraded response, if it is reserved. -/
theorem encodes_encodeDowngraded {limit : Nat} {encoder : Encoder} {origin : Origin}
    {response : BudgetedResponse} {trace : List Step}
    {result : BudgetedResponse × Except BoxError EncodedResponse}
    (returned : (encodeDowngraded limit encoder origin response).Returns trace result)
    : ∃ asked,
        Encodes (fun encoder => encodeDowngraded limit encoder origin response) limit encoder trace
          result asked := by
  rcases Program.returns_bind.mp returned with ⟨first, rest, after, rfl, downgrades, continued⟩
  cases computed : responseJsonEncodedLen after.response with
  | none =>
      refine ⟨none, .unasked ?_⟩
      intro other
      refine Program.Returns.bind downgrades ?_
      rw [computed] at continued ⊢
      exact continued
  | some length =>
      rw [computed] at continued
      dsimp only at continued
      split at continued
      · next beyond =>
          refine ⟨none, .unasked ?_⟩
          intro other
          refine Program.Returns.bind downgrades ?_
          rw [computed]
          dsimp only
          rw [if_pos beyond]
          exact continued
      · next within =>
          rcases Program.returns_bind.mp continued
            with ⟨asks, rest, reserved, rfl, asked, encodes⟩
          rcases returns_tryReserve asked with ⟨rfl, rfl⟩ | ⟨error, rfl, rfl⟩
          · refine ⟨some after.response, ?_, ?_⟩
            · rintro source ⟨⟩
              exact ⟨length, first, rest, computed, Nat.le_of_not_lt within, rfl⟩
            · intro other agree
              refine Program.Returns.bind downgrades ?_
              rw [computed]
              dsimp only
              rw [if_neg within]
              refine Program.Returns.bind asked ?_
              dsimp only
              rw [encodeReserved_congr (agree _ rfl)]
              exact encodes
          · refine ⟨none, .unasked ?_⟩
            intro other
            refine Program.Returns.bind downgrades ?_
            rw [computed]
            dsimp only
            rw [if_neg within]
            exact Program.Returns.bind asked encodes

/-- In every trace the encoder is run at most once, on a response that has been reserved. -/
theorem encodes_boundedResponseJsonWith {limit : Nat} {encoder : Encoder} {origin : Origin}
    {response : BudgetedResponse} {trace : List Step}
    {result : BudgetedResponse × Except BoxError EncodedResponse}
    (returned : (boundedResponseJsonWith limit encoder origin response).Returns trace result)
    : ∃ asked,
        Encodes (fun encoder => boundedResponseJsonWith limit encoder origin response) limit
          encoder trace result asked := by
  unfold boundedResponseJsonWith at returned ⊢
  cases computed : responseJsonEncodedLen response.response with
  | none =>
      rw [computed] at returned
      refine ⟨none, .unasked ?_⟩
      intro other
      exact returned
  | some length =>
      rw [computed] at returned
      dsimp only at returned ⊢
      split at returned
      · next within =>
          rcases Program.returns_bind.mp returned
            with ⟨first, rest, reserved, rfl, asks, continued⟩
          rcases returns_tryReserve asks with ⟨rfl, rfl⟩ | ⟨error, rfl, rfl⟩
          · refine ⟨some response.response, ?_, ?_⟩
            · rintro source ⟨⟩
              exact ⟨length, [], rest, computed, within, rfl⟩
            · intro other agree
              rw [if_pos within]
              refine Program.Returns.bind asks ?_
              dsimp only
              rw [encodeReserved_congr (agree _ rfl)]
              exact continued
          · obtain ⟨asked, reserved, only⟩ := encodes_encodeDowngraded continued
            refine ⟨asked, ?_, ?_⟩
            · intro source same
              obtain ⟨length, first, rest, computed, within, rfl⟩ := reserved source same
              exact ⟨length, _ :: first, rest, computed, within, rfl⟩
            · intro other agree
              rw [if_pos within]
              exact Program.Returns.bind asks (only other agree)
      · next beyond =>
          obtain ⟨asked, reserved, only⟩ := encodes_encodeDowngraded returned
          refine ⟨asked, reserved, ?_⟩
          intro other agree
          rw [if_neg beyond]
          exact only other agree

/-- What is true of `bounded_response_json` for every response that is covered, every limit, and
whatever becomes of the budget between its calls: every run ends as it should, and the encoder
is run at most once, on a reserved response; and no run fails an assertion or loses track of
what it holds.
-/
structure BoundsResponse (json : SerdeJson) (limit : Nat) (origin : Origin)
    (response : BudgetedResponse)
    : Prop where
  ends
    : ∀ trace result,
        (boundedResponseJsonWith limit json.encoder origin response).Returns trace result
        → BoundedEnded json limit origin response trace result.1 result.2
  encodes
    : ∀ encoder trace result,
        (boundedResponseJsonWith limit encoder origin response).Returns trace result
        → ∃ asked,
            Encodes (fun encoder => boundedResponseJsonWith limit encoder origin response) limit
              encoder trace result asked
  accounts
    : ∀ outside,
        (boundedResponseJsonWith limit json.encoder origin response).Meets (coverage outside)
          (Bounded json.encoder origin response.response) response.retained.bytes

/-- `bounded_response_json` meets its specification. -/
theorem boundedResponseJson_correct {json : SerdeJson} (documented : json.Documented)
    {limit : Nat} (usize : limit ≤ usizeMax) {origin : Origin} {response : BudgetedResponse}
    (exactly : response.Exact)
    : BoundsResponse json limit origin response where
  ends _ _ returned := documented.returns_boundedResponseJsonWith usize exactly returned
  encodes _ _ _ returned := encodes_boundedResponseJsonWith returned
  accounts _ := meets_boundedResponseJsonWith exactly

/-- A response whose uid and body both have a character to escape. -/
def quotedResponse : BudgetedResponse where
  response := .new firstQuoted 200 ⟨"up 1\n", 7, by decide, by decide⟩
  retained := ⟨10⟩

/-- Under a limit that only its downgraded form is within. -/
theorem boundedResponseJson_correct_quoted
    : BoundsResponse serdeJson 56 .scrape quotedResponse
      ∧ responseJsonEncodedLen quotedResponse.response = some 61
      ∧ responseJsonEncodedLen quotedResponse.response.downgraded = some 55 :=
  ⟨boundedResponseJson_correct serdeJson_documented (by decide) rfl, by decide, by decide⟩

-- The one input that is neither sent nor downgraded: a body so long that the length of its JSON
-- is no `usize`.

/-- A body of so many control characters. -/
def controlBody (length : Nat) (addressable : length ≤ isizeMax) : RustString where
  text := String.ofList (List.replicate length '\x01')
  capacity := length
  fits := by
    rw [utf8ByteSize_ascii (by simp), List.length_replicate]
  addressable := addressable

/-- A response with such a body. -/
def controlResponse (length : Nat) (addressable : length ≤ isizeMax) : BudgetedResponse where
  response := .new .new 200 (controlBody length addressable)
  retained := ⟨length⟩

theorem controlResponse_exact (length : Nat) (addressable : length ≤ isizeMax)
    : (controlResponse length addressable).Exact :=
  (Nat.zero_add length).symm

/-- Every control character takes six bytes. -/
theorem controlBody_size (length : Nat) (addressable : length ≤ isizeMax)
    : (serdeJson.content (controlBody length addressable).text).utf8ByteSize = length * 6 := by
  have escaped : ∀ char ∈ ((List.replicate length '\x01').flatMap serdeJson.escape),
      char.toNat ≤ 0x7f := by
    intro char listed
    obtain ⟨control, replicated, written⟩ := List.mem_flatMap.mp listed
    obtain rfl := List.eq_of_mem_replicate replicated
    have every : ∀ char ∈ serdeJson.escape '\x01', char.toNat ≤ 0x7f :=
      forall_mem_of_all (by decide)
    exact every char written
  rw [SerdeJson.content, controlBody, String.toList_ofList, utf8ByteSize_ascii escaped,
    List.length_flatMap, List.map_replicate, List.sum_replicate_nat]
  rfl

/-- So the text of such a response is longer than its content. -/
theorem controlResponse_size (length : Nat) (addressable : length ≤ isizeMax)
    : length * 6
      ≤ (serdeJson.toWriter (controlResponse length addressable).response).utf8ByteSize := by
  have body := controlBody_size length addressable
  simp only [SerdeJson.toWriter, String.utf8ByteSize_append, controlResponse,
    ResourceResponse.new, body]
  omega

/-- A response whose JSON length is no `usize` is not downgraded. -/
theorem controlResponse_kept {length : Nat} {addressable : length ≤ isizeMax} {limit : Nat}
    {origin : Origin} (wide : usizeMax < length * 6)
    : (boundedResponseJsonWith limit serdeJson.encoder origin
        (controlResponse length addressable)).Returns []
        (controlResponse length addressable,
          .error (.text "websocket response length calculation overflowed")) := by
  have uncomputed
      : responseJsonEncodedLen (controlResponse length addressable).response = none := by
    apply Option.eq_none_iff_forall_not_mem.mpr
    intro computed listed
    have ⟨same, fits⟩ := serdeJson_documented.length_eq_some.mp listed
    have size := controlResponse_size length addressable
    omega
  unfold boundedResponseJsonWith
  rw [uncomputed]
  exact .pure

/-- Such a response stays as it is, although its text is beyond the limit. -/
theorem not_downgraded_control
    : (controlResponse (2 ^ 62) (by decide)).Exact
      ∧ maxWsMessageSize
        < (serdeJson.toWriter (controlResponse (2 ^ 62) (by decide)).response).utf8ByteSize
      ∧ (boundedResponseJsonWith maxWsMessageSize serdeJson.encoder .scrape
          (controlResponse (2 ^ 62) (by decide))).Returns []
          (controlResponse (2 ^ 62) (by decide),
            .error (.text "websocket response length calculation overflowed"))
      ∧ (controlResponse (2 ^ 62) (by decide)).response.status = 200 := by
  have beyond : maxWsMessageSize < 2 ^ 62 * 6 := by decide
  have longer := Nat.lt_of_lt_of_le beyond (controlResponse_size (2 ^ 62) (by decide))
  exact ⟨controlResponse_exact _ _, longer, controlResponse_kept (by decide), rfl⟩

end ProxyClient
