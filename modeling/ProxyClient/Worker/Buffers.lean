import ProxyClient.Worker.Accounts

/-! The buffers of a connection and the reservations behind them.
A task may be suspended in the middle of a call, so the buffers are listed for every state:
finished responses, texts for the writer, forms of POSTs, and bodies that are being read.
-/

namespace ProxyClient

open Foundations Memory

-----------------------------------------------------------------------------------------
-- Buffers and what backs them
-----------------------------------------------------------------------------------------

/-- Memory that lives across an await. -/
inductive Buffer
  | response (budgeted : BudgetedResponse)
  | encoded (text : EncodedResponse)
  /-- The form of a POST under way. -/
  | form (prepared : PreparedFormRequest)
  /-- The uid of an exporter call and what it has read so far, while it holds so many bytes. -/
  | call (uid : RustString) (body held : Nat)

namespace Buffer

def capacity : Buffer → Nat
  | .response budgeted => budgeted.capacity
  | .encoded text => text.json.capacity
  | .form prepared => prepared.form.capacity
  | .call uid body _ => uid.capacity + body

/-- The buffer's reservation covers it, and that of a response exactly. -/
def Covered : Buffer → Prop
  | .response budgeted => budgeted.Exact
  | .encoded text => text.json.capacity ≤ text.reservation.bytes
  | .form prepared => prepared.form.capacity ≤ prepared.reservation.bytes
  | .call uid body held => uid.capacity + body ≤ held

/-- The capacity of all buffers together. -/
def total (buffers : List Buffer) : Nat := (buffers.map capacity).sum

@[simp] theorem total_nil : total [] = 0 := rfl

@[simp] theorem total_cons (buffer : Buffer) (buffers : List Buffer)
    : total (buffer :: buffers) = buffer.capacity + total buffers := by
  simp [total]

@[simp] theorem total_append (left right : List Buffer)
    : total (left ++ right) = total left + total right := by
  simp [total]

end Buffer

/-- Every buffer is covered, and all of them fit into what the pieces hold. -/
structure Backed (buffers : List Buffer) (pieces : List Piece) : Prop where
  covered : ∀ buffer ∈ buffers, buffer.Covered
  fits : Buffer.total buffers ≤ reservedBytes.total pieces

namespace Backed

variable {buffers more : List Buffer} {pieces others : List Piece}

theorem none (pieces : List Piece) : Backed [] pieces where
  covered _ absent := absurd absent List.not_mem_nil
  fits := Nat.zero_le _

theorem single {buffer : Buffer} {piece : Piece} (covered : buffer.Covered)
    (fits : buffer.capacity ≤ piece.bytes)
    : Backed [buffer] [piece] where
  covered _ listed := List.mem_singleton.mp listed ▸ covered
  fits := by simpa using fits

theorem append (first : Backed buffers pieces) (second : Backed more others)
    : Backed (buffers ++ more) (pieces ++ others) where
  covered buffer listed :=
    (List.mem_append.mp listed).elim (first.covered buffer) (second.covered buffer)
  fits := by
    rw [Buffer.total_append, Ledger.total_append]
    exact Nat.add_le_add first.fits second.fits

/-- What holds of each holder holds of all of them, by induction over them. -/
theorem flatMap {Holder : Type} {holders : List Holder} {buffers : Holder → List Buffer}
    {pieces : Holder → List Piece}
    (each : ∀ holder ∈ holders, Backed (buffers holder) (pieces holder))
    : Backed (holders.flatMap buffers) (holders.flatMap pieces) := by
  induction holders with
  | nil => exact none []
  | cons holder rest ih =>
      have first := each holder List.mem_cons_self
      exact first.append (ih fun other listed => each other (List.mem_cons_of_mem _ listed))

/-- Holders of one piece each. -/
theorem map {Holder : Type} {holders : List Holder} {buffers : Holder → List Buffer}
    {piece : Holder → Piece} (each : ∀ holder ∈ holders, Backed (buffers holder) [piece holder])
    : Backed (holders.flatMap buffers) (holders.map piece) := by
  rw [List.map_eq_flatMap]
  exact flatMap each

end Backed

-----------------------------------------------------------------------------------------
-- The buffers of the tasks
-----------------------------------------------------------------------------------------

/-- The form of the POST that a program awaits. -/
def Execution.forms {α : Type} (execution : Execution α) : List Buffer :=
  match execution.pending? with
  | some (.post prepared) => [.form prepared]
  | _ => []

def Post.buffers (post : Post) : List Buffer := .response post.response :: post.execution.forms

def Queueing.buffers : Queueing → List Buffer
  | .encoding .. => []
  | .sending response | .suspended response => [.encoded response]

/-- The buffers of an optional response. -/
def responseBuffers (response : Option BudgetedResponse) : List Buffer :=
  response.toList.flatMap fun response => [.response response]

/-- The buffers of an exporter call that is suspended: its uid, and the body between two
chunks.
-/
def callBuffers {α : Type} (uid : RustString) (execution : Execution α) : List Buffer :=
  match execution.pending? with
  | some (.get _) => [.call uid 0 execution.ghost]
  | some (.nextChunk capacity) => [.call uid capacity execution.ghost]
  | _ => []

def ScrapePc.buffers : ScrapePc → List Buffer
  | .calling uid execution => callBuffers uid execution
  | .posting post => post.buffers
  | .completing response => responseBuffers response
  | .spawned .. | .returning | .ended _ => []

def Completions.buffers (completions : Completions) : List Buffer :=
  completions.queue.flatMap fun (_, response) => responseBuffers response

def BusyActorPc.buffers : BusyActorPc → List Buffer
  | .queueing call => call.buffers
  | .top | .ended => []

def Wire.buffers (wire : Wire) : List Buffer :=
  (wire.writer.inHand ++ wire.bulk).flatMap fun response => [.encoded response]

def BusySide.buffers (side : BusySide) : List Buffer :=
  (side.actor.pc.buffers ++ side.actor.posts.flatMap Post.buffers)
    ++ side.busy.queue.flatMap (fun response => [.response response]) ++ side.wire.buffers

def SessionPc.buffers : SessionPc → List Buffer
  | .answering response => [.response response]
  | .queueing call => call.buffers
  | .joining _ response => responseBuffers response
  | .select | .pinging | .reserving .. | .exited _ | .cancelling .. | .droppingBulk _
  | .droppingBusy _ | .farewelling _ | .droppingControl .. | .flushing _ | .abortingWriter _
  | .awaitingWriter _ | .droppingSelf _ | .abortingActor _ | .awaitingActor _
  | .returned _ => []

/-- Every buffer of a connection that lives across an await. -/
def Connection.buffers (c : Connection) : List Buffer :=
  c.session.buffers ++ c.tasks.flatMap (fun task => task.pc.buffers) ++ c.channel.buffers
    ++ c.side.buffers

theorem BudgetedResponse.Sound.backed {origin : Origin} {response : BudgetedResponse}
    (sound : response.Sound origin)
    : Backed [.response response] [response.piece origin] :=
  .single sound.exactly (Nat.le_of_eq sound.exactly.symm)

theorem EncodedResponse.Sound.backed {response : EncodedResponse} (sound : response.Sound)
    : Backed [.encoded response] [response.piece] :=
  .single sound.covered sound.covered

theorem backed_responseBuffers {origin : Origin} {response : Option BudgetedResponse}
    (sound : ∀ kept ∈ response, kept.Sound origin)
    : Backed (responseBuffers response)
        (response.toList.map (BudgetedResponse.piece origin)) :=
  .map fun kept listed => (sound kept (Option.mem_toList.mp listed)).backed

theorem Queueing.Sound.backed {call : Queueing} (sound : call.Sound)
    : Backed call.buffers [call.piece] := by
  cases call with
  | encoding => exact .none _
  | sending response | suspended response => exact EncodedResponse.Sound.backed sound

/-- A POST covers its form beside its response. -/
theorem Post.Sound.backed {origin : Origin} {post : Post} (sound : post.Sound origin)
    : Backed post.buffers [post.piece origin] := by
  have exactly : post.response.retained.bytes = post.response.capacity := sound.response.exactly
  unfold Post.buffers Execution.forms
  split
  · next prepared pending =>
      obtain ⟨covered, held⟩ := sound.execution.pending pending
      refine { covered := ?_, fits := ?_ }
      · intro buffer listed
        rcases List.mem_cons.mp listed with rfl | form
        · exact sound.response.exactly
        · exact List.mem_singleton.mp form ▸ covered
      · simp only [Buffer.total_cons, Buffer.total_nil, Buffer.capacity, Ledger.total_cons,
          Ledger.total_nil, reservedBytes_worth, Post.piece]
        omega
  · exact .single sound.response.exactly
      (Nat.le_trans (Nat.le_of_eq exactly.symm) (Nat.le_add_right _ _))

/-- An exporter call covers its uid while it waits for the exporter, and the body it reads. -/
theorem backed_callBuffers {uid : RustString} {execution : Execution (Option BudgetedResponse)}
    (sound : Running.Sound (coverage uid.capacity) (Called uid) execution)
    : Backed (callBuffers uid execution) [⟨.scrape, uid.text, execution.ghost⟩] := by
  unfold callBuffers
  split
  · next url pending =>
      have covered : uid.capacity ≤ execution.ghost := sound.pending pending
      exact .single covered covered
  · next capacity pending =>
      have covered : uid.capacity + capacity ≤ execution.ghost := sound.pending pending
      exact .single covered covered
  · exact .none _

theorem ScrapePc.Sound.backed {pc : ScrapePc} (sound : pc.Sound)
    : Backed pc.buffers pc.pieces := by
  cases pc with
  | spawned => exact .none _
  | calling uid execution => exact backed_callBuffers sound
  | posting post => exact Post.Sound.backed sound
  | completing response => exact backed_responseBuffers sound
  | returning | ended => exact .none _

theorem Completions.Sound.backed {completions : Completions} (sound : completions.Sound)
    : Backed completions.buffers completions.pieces :=
  .flatMap fun completion listed => backed_responseBuffers (sound completion listed)

theorem Wire.Sound.backed {wire : Wire} (sound : wire.Sound) : Backed wire.buffers wire.pieces :=
  .map fun response listed => (sound response listed).backed

theorem BusySide.Sound.backed {side : BusySide} (sound : side.Sound)
    : Backed side.buffers side.pieces := by
  have call : Backed side.actor.pc.buffers side.actor.pc.pieces := by
    cases here : side.actor.pc with
    | queueing call => exact (sound.call call here).backed
    | top | ended => exact .none _
  have posts
      : Backed (side.actor.posts.flatMap Post.buffers)
          (side.actor.posts.map (Post.piece .busy)) :=
    .map fun post listed => (sound.posts post listed).backed
  have queued
      : Backed (side.busy.queue.flatMap fun response => [.response response])
          side.busy.pieces :=
    .map fun response listed => (sound.queued response listed).backed
  exact ((call.append posts).append queued).append sound.wire.backed

theorem SessionPc.Sound.backed {session : SessionPc} (sound : session.Sound)
    : Backed session.buffers session.pieces := by
  cases session with
  | answering response => exact BudgetedResponse.Sound.backed sound
  | queueing call => exact Queueing.Sound.backed sound
  | joining task response => exact backed_responseBuffers sound
  | select | pinging | reserving | exited | cancelling | droppingBulk | droppingBusy
  | farewelling | droppingControl | flushing | abortingWriter | awaitingWriter | droppingSelf
  | abortingActor | awaitingActor | returned => exact .none _

/-- Every buffer of a connection is covered, and together they fit into its reservations. -/
theorem Connection.Sound.backed {c : Connection} (sound : c.Sound)
    : Backed c.buffers c.pieces := by
  have tasks
      : Backed (c.tasks.flatMap fun task => task.pc.buffers)
          (c.tasks.flatMap fun task => task.pc.pieces) :=
    .flatMap fun task listed => (sound.tasks task listed).backed
  exact ((sound.session.backed.append tasks).append sound.completions.backed).append
    sound.side.backed

-----------------------------------------------------------------------------------------
-- No assertion fails
-----------------------------------------------------------------------------------------

/-- The operations that the tasks of a connection perform next. -/
def Connection.performs (c : Connection) : List Op :=
  c.session.computes.toList ++ c.tasks.flatMap (fun task => task.pc.computes.toList)
    ++ c.actor.pc.computes.toList
    ++ c.actor.posts.flatMap (fun post => post.execution.pending?.toList)

/-- A sound program never fails an assertion. -/
theorem faultless_of_sound {α : Type} {outside : Nat} {post : Nat → α → Prop}
    {execution : Execution α} (sound : Running.Sound (coverage outside) post execution)
    {message : String}
    : execution.pending? ≠ some (.fault message) :=
  fun pending => sound.pending pending

theorem Queueing.Sound.faultless {call : Queueing} (sound : call.Sound) {message : String}
    : call.computes ≠ some (.fault message) := by
  cases call with
  | encoding origin uid execution =>
      obtain ⟨response, -, -, running⟩ := sound
      exact faultless_of_sound running
  | sending | suspended => exact fun pending => nomatch pending

theorem ScrapePc.Sound.faultless {pc : ScrapePc} (sound : pc.Sound) {message : String}
    : pc.computes ≠ some (.fault message) := by
  cases pc with
  | calling uid execution => exact faultless_of_sound sound
  | posting post => exact faultless_of_sound sound.execution
  | spawned | completing | returning | ended => exact fun pending => nomatch pending

theorem SessionPc.Sound.faultless {session : SessionPc} (sound : session.Sound)
    {message : String}
    : session.computes ≠ some (.fault message) := by
  cases session with
  | reserving uid execution => exact faultless_of_sound sound
  | queueing call => exact Queueing.Sound.faultless sound
  | select | pinging | answering | joining | exited | cancelling | droppingBulk | droppingBusy
  | farewelling | droppingControl | flushing | abortingWriter | awaitingWriter | droppingSelf
  | abortingActor | awaitingActor | returned => exact fun pending => nomatch pending

/-- No task of a sound connection is about to fail an assertion. -/
theorem Connection.Sound.faultless {c : Connection} (sound : c.Sound) {message : String}
    : .fault message ∉ c.performs := by
  intro listed
  simp only [performs, List.mem_append, List.mem_flatMap, Option.mem_toList] at listed
  rcases listed with ((session | ⟨task, found, scrape⟩) | actor) | ⟨post, found, pending⟩
  · exact sound.session.faultless session
  · exact (sound.tasks task found).faultless scrape
  · cases here : c.actor.pc with
    | queueing call =>
        rw [here] at actor
        exact (sound.side.call call here).faultless actor
    | top | ended => simp [here, BusyActorPc.computes] at actor
  · exact faultless_of_sound (sound.side.posts post found).execution pending

end ProxyClient
