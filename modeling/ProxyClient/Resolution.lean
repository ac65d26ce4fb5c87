import ProxyClient.Config
import ProxyClient.Foundations.Trace

/-! Which answers of the metadata server resolve an instance. `resolve_instance` sends at most one
`PUT`, one `GET` with a token and one without, so a server is what it answers to each request.
-/

namespace ProxyClient

open Foundations

/-- A metadata server, or whatever stands between it and the client. -/
abbrev MetadataServer : Type := HttpRequest → Except BoxError HttpResponse

-----------------------------------------------------------------------------------------
-- One server for every behaviour
-----------------------------------------------------------------------------------------

namespace Config

variable {crates : ConfigCrates} {config : Config}

/-- One request, of a program that repeats none. -/
theorem meets_send {request : HttpRequest} {sent : List HttpRequest}
    {post : List HttpRequest → Except BoxError HttpResponse → Prop}
    : (send request).Meets Program.once post sent
      ↔ request ∉ sent ∧ ∀ answered, post (request :: sent) answered :=
  Program.meets_call

theorem instanceRequest_ne_token (token : Option String)
    : config.instanceRequest token ≠ config.tokenRequest := by
  intro same
  cases congrArg HttpRequest.method same

theorem instanceRequest_ne (token : String)
    : config.instanceRequest none ≠ config.instanceRequest (some token) := by
  intro same
  cases congrArg HttpRequest.headers same

/-- No request is sent twice. -/
theorem resolveInstance_once
    : (resolveInstance crates config).Meets Program.once (fun _ _ => True) [] := by
  unfold resolveInstance
  split
  · trivial
  · simp only [Program.bind_eq, Program.meets_bind, meets_send]
    refine ⟨List.not_mem_nil, fun issued => ?_⟩
    split
    · trivial
    · simp only [Program.meets_bind, meets_send]
      refine ⟨by simp [instanceRequest_ne_token], fun answered => ?_⟩
      cases answered with
      | error error => trivial
      | ok response =>
          simp only
          split
          · next refused =>
              -- Only a `GET` with a token is repeated, and without it.
              obtain ⟨-, issued⟩ := (Bool.and_eq_true _ _).mp refused
              obtain ⟨token, same⟩ := Option.isSome_iff_exists.mp issued
              simp only [Program.meets_bind, meets_send, same]
              refine ⟨by simp [instanceRequest_ne, instanceRequest_ne_token], fun again => ?_⟩
              cases again <;> trivial
          · trivial

/-- What a run of `resolve_instance` has been answered is what some server answers. -/
theorem exists_server {trace : List (Answered HttpRequest _)}
    {result : Except BoxError Unit × Config}
    (returned : (resolveInstance crates config).Returns trace result)
    : ∃ server : MetadataServer,
        (∀ step ∈ trace, server step.op = step.answer)
        ∧ (resolveInstance crates config).eval server = result :=
  resolveInstance_once.exists_eval (fun _ => .error (.request true)) returned

end Config

-----------------------------------------------------------------------------------------
-- What is asked of the server
-----------------------------------------------------------------------------------------

namespace MetadataServer

/-- The token that the server issues. -/
def token? (server : MetadataServer) (config : Config) : Option String :=
  issuedToken (server config.tokenRequest)

/-- The answer from which the instance ID is taken: that of the `GET` with a token, unless there
is no token or the server refuses it.
-/
def answer (server : MetadataServer) (crates : ConfigCrates) (config : Config)
    : Except BoxError HttpResponse :=
  match server.token? config with
  | none => server (config.instanceRequest none)
  | some token =>
      if crates.isHeaderValue token then
        match server (config.instanceRequest (some token)) with
        | .error error => .error error
        | .ok response =>
            if isSuccess response.status then .ok response
            else server (config.instanceRequest none)
      else .error .header

end MetadataServer

namespace Config

variable {crates : ConfigCrates} {config : Config} {server : MetadataServer}

/-- The end of `resolve_instance`, also without a response. -/
def adoptAnswer (crates : ConfigCrates) (config : Config)
    : Except BoxError HttpResponse → Except BoxError Unit × Config
  | .error error => (.error error, config)
  | .ok response => config.adopt crates response

theorem eval_send {request : HttpRequest} : (send request).eval server = server request :=
  Program.eval_call

/-- Any other instance than `ec2` is kept. -/
theorem eval_resolveInstance_static (static : config.instanceName ≠ "ec2")
    : (resolveInstance crates config).eval server = (.ok (), config) := by
  rw [resolveInstance, if_pos static]
  rfl

/-- `resolve_instance` adopts one answer of the server. -/
theorem eval_resolveInstance (ec2 : config.instanceName = "ec2")
    : (resolveInstance crates config).eval server
      = config.adoptAnswer crates (server.answer crates config) := by
  have asks : ¬ config.instanceName ≠ "ec2" := fun static => static ec2
  rw [resolveInstance, if_neg asks]
  simp only [Program.bind_eq, Program.eval_bind, eval_send]
  unfold MetadataServer.answer MetadataServer.token?
  cases issuedToken (server config.tokenRequest) with
  | none =>
      cases answered : server (config.instanceRequest none) <;>
        simp [answered, eval_send, adoptAnswer]
  | some token =>
      by_cases valid : crates.isHeaderValue token = true
      · cases answered : server (config.instanceRequest (some token)) with
        | error error => simp [valid, answered, eval_send, adoptAnswer]
        | ok response =>
            by_cases success : isSuccess response.status = true
            · simp [valid, answered, success, eval_send, adoptAnswer]
            · cases again : server (config.instanceRequest none) <;>
                simp [valid, answered, success, again, eval_send, adoptAnswer]
      · simp [valid, adoptAnswer]

end Config

-----------------------------------------------------------------------------------------
-- Answers with an instance ID
-----------------------------------------------------------------------------------------

/-- An answer has a status of success and, trimmed, this text. -/
structure HttpResponse.Holds (response : HttpResponse) (name : String) : Prop where
  success : isSuccess response.status = true
  text : ∃ text, response.text = .ok text ∧ trim text = name

/-- An answer yields an instance ID: its text is not blank. -/
def Yields (answered : Except BoxError HttpResponse) (name : String) : Prop :=
  name ≠ "" ∧ ∃ response, answered = .ok response ∧ response.Holds name

/-- The `GET` without a token yields an instance ID. -/
def MetadataServer.YieldsWithoutToken (server : MetadataServer) (config : Config) : Prop :=
  ∃ name, Yields (server (config.instanceRequest none)) name

/-- The token does not stand in the way: when one is issued, it is a header value, and the `GET`
with it is answered, by a refusal or by an instance ID.
-/
def MetadataServer.TokenWorks (server : MetadataServer) (crates : ConfigCrates) (config : Config)
    : Prop :=
  ∀ token,
    server.token? config = some token
    → crates.isHeaderValue token = true
      ∧ ∃ response,
          server (config.instanceRequest (some token)) = .ok response
          ∧ (isSuccess response.status = true → ∃ name, Yields (.ok response) name)

/-- What an answer yields is trimmed. -/
theorem Yields.trimmed {answered : Except BoxError HttpResponse} {name : String}
    (yields : Yields answered name)
    : trim name = name := by
  obtain ⟨-, response, -, -, text, -, rfl⟩ := yields
  exact trim_trim text

/-- An error yields nothing. -/
theorem not_yields_error {error : BoxError} : ¬ ∃ name, Yields (.error error) name := by
  intro yields
  obtain ⟨name, -, response, absent, -⟩ := yields
  cases absent

/-- A server that yields without a token yields exactly when its token does not stand in the
way.
-/
theorem MetadataServer.answer_yields_iff {server : MetadataServer} {crates : ConfigCrates}
    {config : Config} (fallback : server.YieldsWithoutToken config)
    : (∃ name, Yields (server.answer crates config) name) ↔ server.TokenWorks crates config := by
  unfold answer TokenWorks
  cases server.token? config with
  | none => exact iff_of_true fallback fun _ absent => nomatch absent
  | some token =>
      simp only [Option.some.injEq, forall_eq']
      by_cases valid : crates.isHeaderValue token = true
      · rw [if_pos valid, and_iff_right valid]
        cases answered : server (config.instanceRequest (some token)) with
        | error error =>
            refine iff_of_false not_yields_error ?_
            intro works
            obtain ⟨response, absent, -⟩ := works
            cases absent
        | ok response =>
            simp only [Except.ok.injEq, exists_eq_left']
            by_cases success : isSuccess response.status = true
            · rw [if_pos success, imp_iff_right success]
            · rw [if_neg success]
              exact iff_of_true fallback fun accepted => absurd accepted success
      · rw [if_neg valid]
        refine iff_of_false not_yields_error ?_
        intro works
        exact valid works.1

namespace Config

variable {crates : ConfigCrates} {config after : Config} {server : MetadataServer}

/-- A response that is no success is not adopted. -/
theorem adopt_refused {response : HttpResponse} (refused : isSuccess response.status = false)
    : ∃ error, config.adopt crates response = (.error error, config) := by
  simp [adopt, refused]

/-- Nor is one whose text cannot be read or is blank. -/
theorem adopt_blank {response : HttpResponse}
    (blank : ∀ text, response.text = .ok text → trim text = "")
    : ∃ error, config.adopt crates response = (.error error, config) := by
  unfold adopt
  split
  · exact ⟨_, rfl⟩
  · cases same : response.text with
    | error error => exact ⟨error, rfl⟩
    | ok text => simp [blank text same]

/-- Every other one is. -/
theorem adopt_yields {response : HttpResponse} {name : String} (holds : response.Holds name)
    (some : name ≠ "")
    : config.adopt crates response = (.ok (), { config with instanceName := name }) := by
  obtain ⟨text, same, rfl⟩ := holds.text
  simp [adopt, holds.success, same, String.isEmpty_iff, some]

/-- An answer is adopted with what it yields, or it leaves the configuration as it was. -/
theorem adoptAnswer_cases (answered : Except BoxError HttpResponse)
    : (∃ name,
        Yields answered name
        ∧ config.adoptAnswer crates answered = (.ok (), { config with instanceName := name }))
      ∨ (¬ ∃ name, Yields answered name)
        ∧ ∃ error, config.adoptAnswer crates answered = (.error error, config) := by
  by_cases yields : ∃ name, Yields answered name
  · obtain ⟨name, some, response, rfl, holds⟩ := yields
    exact .inl ⟨name, ⟨some, response, rfl, holds⟩, adopt_yields holds some⟩
  · refine .inr ⟨yields, ?_⟩
    cases answered with
    | error error => exact ⟨error, rfl⟩
    | ok response =>
        cases success : isSuccess response.status with
        | false => exact adopt_refused success
        | true =>
            apply adopt_blank
            intro text same
            apply Classical.byContradiction
            intro some
            exact yields ⟨trim text, some, response, rfl, success, text, same, rfl⟩

/-- What `resolve_instance` adopts for the instance `ec2`. -/
theorem resolves_iff (ec2 : config.instanceName = "ec2")
    : (∃ name,
        (resolveInstance crates config).eval server
          = (.ok (), { config with instanceName := name })
        ∧ trim name = name
        ∧ name ≠ "")
      ↔ ∃ name, Yields (server.answer crates config) name := by
  rw [eval_resolveInstance ec2]
  rcases config.adoptAnswer_cases (server.answer crates config)
    with ⟨name, yields, adopted⟩ | ⟨nothing, error, failed⟩
  · exact iff_of_true ⟨name, adopted, yields.trimmed, yields.1⟩ ⟨name, yields⟩
  · refine iff_of_false ?_ nothing
    intro resolved
    obtain ⟨name, adopted, -⟩ := resolved
    rw [failed] at adopted
    cases adopted

/-- A failure leaves every field of the configuration as it was. -/
theorem resolveInstance_error {error : BoxError}
    (failed : (resolveInstance crates config).eval server = (.error error, after))
    : after = config := by
  by_cases ec2 : config.instanceName = "ec2"
  · rw [eval_resolveInstance ec2] at failed
    rcases config.adoptAnswer_cases (server.answer crates config)
      with ⟨name, yields, adopted⟩ | ⟨nothing, error, unchanged⟩
    · rw [adopted] at failed
      cases failed
    · rw [unchanged] at failed
      exact (Prod.mk.inj failed).2.symm
  · rw [eval_resolveInstance_static ec2] at failed
    cases failed

/-- So it does in every run. -/
theorem unchanged_of_returns {trace : List (Answered HttpRequest _)} {error : BoxError}
    (returned : (resolveInstance crates config).Returns trace (.error error, after))
    : after = config := by
  obtain ⟨server, -, failed⟩ := exists_server returned
  exact resolveInstance_error failed

-----------------------------------------------------------------------------------------
-- Loaded configurations
-----------------------------------------------------------------------------------------

/-- The instance and the resource names are within the limits of the protocol. -/
structure WithinLimits (config : Config) : Prop where
  instanceName : config.instanceName.utf8ByteSize ≤ maxInstanceSize
  resources : ∀ resource ∈ config.resources.keys, resource.utf8ByteSize ≤ maxResourceSize

theorem limited_eq_ok {checked : Except FieldLimitError Unit}
    : limited checked = .ok () ↔ checked = .ok () := by
  cases checked <;> simp [limited, Except.mapError]

/-- The limits are what is checked at the end. -/
theorem validateProtocolIdentifiers_eq_ok
    : config.validateProtocolIdentifiers = .ok () ↔ config.WithinLimits := by
  unfold validateProtocolIdentifiers validateInstance validateResource
  simp only [bind_eq_ok, forM_eq_ok, limited_eq_ok, validateField_eq_ok]
  constructor
  · intro valid
    exact ⟨valid.1, valid.2⟩
  · intro within
    exact ⟨within.instanceName, within.resources⟩

/-- A configuration is what the contents of a file resolve to, within the limits. -/
def LoadedFrom (crates : ConfigCrates) (server : MetadataServer) (contents : List UInt8)
    (loaded : Config) : Prop :=
  ∃ members,
    crates.fromSlice contents = .ok members
    ∧ ((deserialize members).resolveInstance crates).eval server = (.ok (), loaded)
    ∧ loaded.WithinLimits

/-- `from_json` succeeds with exactly that. -/
theorem eval_fromJson_eq_ok {contents : List UInt8} {loaded : Config}
    : (fromJson crates contents).eval server = .ok loaded
      ↔ LoadedFrom crates server contents loaded := by
  unfold fromJson LoadedFrom
  cases crates.fromSlice contents with
  | error error => simp
  | ok members =>
      simp only [Program.bind_eq, Program.eval_bind, Except.ok.injEq, exists_eq_left']
      generalize ((deserialize members).resolveInstance crates).eval server = resolved
      obtain ⟨result, config⟩ := resolved
      cases result with
      | error error => simp
      | ok =>
          cases valid : config.validateProtocolIdentifiers with
          | error error =>
              constructor
              · intro absent
                cases absent
              · intro loads
                obtain ⟨same, within⟩ := loads
                cases same
                rw [validateProtocolIdentifiers_eq_ok.mpr within] at valid
                cases valid
          | ok =>
              have within := validateProtocolIdentifiers_eq_ok.mp valid
              constructor
              · intro same
                cases same
                exact ⟨rfl, within⟩
              · intro loads
                cases loads.1
                rfl

/-- `load` does so for the contents of its file. -/
theorem eval_load_eq_ok {files : String → Except BoxError (List UInt8)} {path : String}
    {loaded : Config}
    : (load crates files path).eval server = .ok loaded
      ↔ ∃ contents, files path = .ok contents ∧ LoadedFrom crates server contents loaded := by
  unfold load
  cases files path with
  | error error => simp
  | ok contents => simp [eval_fromJson_eq_ok]

-----------------------------------------------------------------------------------------
-- The fallback
-----------------------------------------------------------------------------------------

/-- What is promised of the resolution of an instance. -/
structure ResolvesInstance (crates : ConfigCrates) (server : MetadataServer) (config : Config)
    : Prop where
  fallsBack
    : config.instanceName = "ec2"
      → server.YieldsWithoutToken config
      → ∃ name,
          (resolveInstance crates config).eval server
            = (.ok (), { config with instanceName := name })
          ∧ trim name = name
          ∧ name ≠ ""
  unchanged
    : ∀ error after,
        (resolveInstance crates config).eval server = (.error error, after) → after = config
  fromJson
    : ∀ contents loaded,
        (fromJson crates contents).eval server = .ok loaded
        → LoadedFrom crates server contents loaded
  load
    : ∀ files path loaded,
        (load crates files path).eval server = .ok loaded
        → ∃ contents, files path = .ok contents ∧ LoadedFrom crates server contents loaded

/-- The promise is kept exactly when no token stands between the client and a server that would
yield without one.
-/
theorem resolvesInstance_iff (crates : ConfigCrates) (server : MetadataServer) (config : Config)
    : config.ResolvesInstance crates server
      ↔ (config.instanceName = "ec2"
          → server.YieldsWithoutToken config
          → server.TokenWorks crates config) := by
  constructor
  · intro resolves ec2 fallback
    have resolved := resolves.fallsBack ec2 fallback
    exact (server.answer_yields_iff fallback).mp ((resolves_iff ec2).mp resolved)
  · intro works
    refine ⟨?_, ?_, ?_, ?_⟩
    · intro ec2 fallback
      exact (resolves_iff ec2).mpr ((server.answer_yields_iff fallback).mpr (works ec2 fallback))
    · intro error after failed
      exact resolveInstance_error failed
    · intro contents loaded succeeded
      exact eval_fromJson_eq_ok.mp succeeded
    · intro files path loaded succeeded
      exact eval_load_eq_ok.mp succeeded

/-- A server whose tokens end with a line break. -/
def newlineServer (request : HttpRequest) : Except BoxError HttpResponse :=
  match request.method with
  | .put => .ok ⟨200, .ok "token\n"⟩
  | .get => if request.headers = [] then .ok ⟨200, .ok "i-v1"⟩ else .error (.request false)

/-- Bytes of a header value as in the `http` crate; no file holds a configuration here. -/
def headerCrates : ConfigCrates where
  fromSlice _ := .error (.text "expected value")
  isHeaderValue value :=
    value.toByteArray.data.toList.all fun byte => (32 ≤ byte && byte != 127) || byte == 9
  displayStatus status := toString status.toNat

/-- A configuration of an EC2 instance. -/
def ec2Config : Config :=
  deserialize ⟨"ec2", "https://example.test", ⟨[], List.nodup_nil⟩, none, none, none, none⟩

/-- The token is no header value, and nothing is asked without it. -/
theorem not_resolvesInstance_newline : ¬ ec2Config.ResolvesInstance headerCrates newlineServer := by
  have fallback : MetadataServer.YieldsWithoutToken newlineServer ec2Config :=
    ⟨"i-v1", by decide, ⟨200, .ok "i-v1"⟩, rfl, by decide, "i-v1", rfl, by decide⟩
  have refused : MetadataServer.answer newlineServer headerCrates ec2Config = .error .header := by
    have issued : MetadataServer.token? newlineServer ec2Config = some "token\n" := by decide
    have invalid : headerCrates.isHeaderValue "token\n" = false := by decide
    simp [MetadataServer.answer, issued, invalid]
  intro resolves
  have yields := (resolves_iff rfl).mp (resolves.fallsBack rfl fallback)
  rw [refused] at yields
  exact not_yields_error yields

end Config

end ProxyClient
