import ProxyClient.Encoding.Received
import ProxyClient.Worker.Provenance

/-! What the server reads of everything that a connection sends.
A frame or a POST tells the server a uid, a status and a body. Whatever order the tasks run in,
these are the ones of a request that it has sent: the status and body that the exporter of the
configured resource gave to the task of that request, the text for an unknown resource, or an
empty error.
-/

namespace ProxyClient

open Foundations Memory

namespace Connection

/-- What a history lets the server be told. -/
inductive Tells (context : WorkerContext)
    (history : List (Transition Connection ConnectionAction Event))
    : Delivered → Prop
  /-- A request too many was rejected. -/
  | rejected {uid : RustString} (rejected : Rejected history uid)
    : Tells context history { uid := uid.text, status := 503, body := "" }
  /-- The resource is not configured. -/
  | unknown {task uid resource} (asked : Asked history task uid resource)
    (unknown : context.resources resource.text = none)
    : Tells context history { uid := uid.text, status := 404, body := "No such resource" }
  /-- The exporter has answered the task of the request. -/
  | exported {task uid resource url exporter bytes body} (asked : Asked history task uid resource)
    (known : context.resources resource.text = some url)
    (answered : ⟨.get url, .ok exporter⟩ ∈ callOf task history)
    (yields : exporter.Yields bytes) (same : bytesOf body = bytes)
    : Tells context history { uid := uid.text, status := exporter.status.toNat, body }
  /-- The exporter's answer or its delivery as a whole was out of reach. -/
  | failed {uid : RustString}
    (read : Rejected history uid ∨ ∃ task resource, Asked history task uid resource)
    : Tells context history { uid := uid.text, status := 500, body := "" }

section Tells

variable {context : WorkerContext} {origin : Origin} {response : ResourceResponse}
  {history : List (Transition Connection ConnectionAction Event)}

/-- An answer tells the server what its request was answered with. -/
theorem Answers.tells (answers : Answers context history origin response)
    : Tells context history response.delivered := by
  cases origin with
  | busy =>
      cases answers with
      | busy rejected => exact .rejected rejected
  | scrape =>
      obtain ⟨task, uid, resource, asked, request⟩ := answers.asked
      cases known : context.resources resource.text with
      | none =>
          obtain ⟨-, answer, rest, -, ⟨-, rfl⟩ | ⟨-, rfl⟩⟩ := request.unknown known
          · exact .unknown asked known
          · exact .failed (.inr ⟨task, resource, asked⟩)
      | some url =>
          obtain ⟨answer, rest, trace, given | ⟨-, rfl⟩⟩ := request.configured url known
          · obtain ⟨exporter, bytes, body, rfl, yields, -, same, rfl⟩ := given
            have answered : ⟨.get url, .ok exporter⟩ ∈ callOf task history := by
              rw [trace]
              simp
            exact .exported asked known answered yields same
          · exact .failed (.inr ⟨task, resource, asked⟩)

/-- So does an answer whose body was given up. -/
theorem Answers.tells_downgraded (answers : Answers context history origin response)
    : Tells context history response.downgraded.delivered := by
  cases origin with
  | busy =>
      cases answers with
      | busy rejected => exact .failed (.inl rejected)
  | scrape =>
      obtain ⟨task, uid, resource, asked, request⟩ := answers.asked
      rw [← request.named] at asked
      exact .failed (.inr ⟨task, resource, asked⟩)

end Tells

/-- What the server reads of what a connection sends: the frame of a response tells it what the
history lets it be told, no control message is taken for a response, and a POST tells it the same
up to the uid that its path names.
-/
structure Understood (crate : UrlCrate) (target : Target) (context : WorkerContext)
    (history : List (Transition Connection ConnectionAction Event)) (c : Connection)
    : Prop where
  frames
    : ∀ encoded,
        .handed (.bulk encoded) ∈ Machine.eventsOf history
        → ∃ delivered,
            readFrame encoded.json.text = some delivered ∧ Tells context history delivered
  controls
    : ∀ content,
        .handed (.control (.text content)) ∈ Machine.eventsOf history
        → readFrame content.json = none
  posts
    : ∀ prepared,
        .post prepared ∈ c.performs
        → ∃ delivered url,
            prepared.url = crate.asStr url
            ∧ Tells context history delivered
            ∧ readPost target.responseBase.path url.path prepared.form.text
              = if target.responseBase.path = "//" then none
                else (namedUid? delivered.uid).map fun uid => { delivered with uid }

/-- In every run of a connection the server reads answers to what it has asked, whatever the
identifiers and bodies contain: never a status or a body of another request, and over a POST the
uid of its request unless its path cannot name it.
-/
theorem understood_of_run {crate : UrlCrate} (documented : crate.Documented)
    (pushes : crate.PushDocumented) {value : String} {target : Target}
    (parsed : Target.parse crate value = .ok target)
    {context : WorkerContext} {name : String}
    (locates
      : ∀ uid, context.responseUrl uid = (target.responseUrl crate uid).map crate.asStr)
    {history : List (Transition Connection ConnectionAction Event)} {c : Connection}
    (run : (connectionMachine context).Run (new context name) history c)
    : Understood crate target context history c where
  frames encoded listed := by
    obtain ⟨response, answers, source, text⟩ := handed_of_run run listed
    have read : readFrame encoded.json.text = some encoded.source.delivered := by
      rw [text, ← serdeJson_toWriter]
      exact serdeJson_documented.readFrame_toWriter serdeJson_grammatical encoded.source
    refine ⟨encoded.source.delivered, read, ?_⟩
    rcases source with same | same
    · rw [same]
      exact answers.tells
    · rw [same]
      exact answers.tells_downgraded
  controls content _ := content.readFrame_json
  posts prepared performed := by
    obtain ⟨origin, response, answers, form⟩ := posts_of_run run performed
    obtain ⟨special, stem, closes⟩ := documented.responseBase_closed parsed
    have located := form.url
    rw [locates] at located
    cases built : target.responseUrl crate response.uid.text with
    | error error =>
        rw [built] at located
        cases located
    | ok url =>
        rw [built] at located
        refine ⟨response.delivered, url, (Except.ok.inj located).symm, answers.tells, ?_⟩
        rw [form.form, ← formUrlencoded_formOf, formUrlencoded_documented.readPost_formOf,
          pushes.path_of_responseUrl special built, readUid_responsePath pushes.encodes_slash
            pushes.encodes_percent pushes.copies_alphanumeric closes]
        split <;> rfl

/-- The URL and the form of a POST. -/
def postedForm? : Op → Option (String × String)
  | .post prepared => some (prepared.url, prepared.form.text)
  | _ => none

/-- A worker without resources whose answers go to the example target. -/
def locatedContext : WorkerContext :=
  { WorkerContext.bare 3 with
    responseUrl := fun uid =>
      ((exampleUrl.target true).responseUrl plainUrls uid).map plainUrls.asStr }

theorem understood_of_run_postedScrape
    : ∃ history c,
        Connection.exec locatedContext (postedScrape.take 8) = some (history, c)
        ∧ Understood plainUrls (exampleUrl.target true) locatedContext history c
        ∧ c.performs.filterMap postedForm?
          = [("https://example.test/a/response/first/", "status=404&body=No+such+resource")] := by
  have parsed
      : Target.parse plainUrls "https://example.test/a/" = .ok (exampleUrl.target true) := by
    decide
  have passed
      : (Connection.exec locatedContext (postedScrape.take 8)).any (fun (_, c) =>
          c.performs.filterMap postedForm?
            == [("https://example.test/a/response/first/", "status=404&body=No+such+resource")])
        = true := by
    decide
  obtain ⟨history, c, executed, checked⟩ := Machine.exec_checked passed
  exact ⟨history, c, executed,
    understood_of_run plainUrls_documented plainUrls_pushDocumented parsed (fun _ => rfl)
      (Machine.exec_run executed),
    by simpa using checked⟩

end Connection

end ProxyClient
