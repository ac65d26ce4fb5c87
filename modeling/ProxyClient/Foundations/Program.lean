/-! Programs that perform operations and a Hoare-style judgement about them.
A program is a tree: it either returns or performs one operation and continues with the
answer. Who answers, and what happens between two operations, is left to the machine that
runs the program, so one definition serves every interleaving and every outcome.
-/

namespace ProxyClient.Foundations

/-- A program over the operations `Op`, whose answers depend on the operation. -/
inductive Program (Op : Type) (Answer : Op → Type) (α : Type) : Type
  | pure (value : α)
  | perform (op : Op) (next : Answer op → Program Op Answer α)

namespace Program

variable {Op : Type} {Answer : Op → Type} {α β σ : Type}

/-- Run a program, then the program its value selects. -/
def bind : Program Op Answer α → (α → Program Op Answer β) → Program Op Answer β
  | .pure value, f => f value
  | .perform op next, f => .perform op (fun answer => (next answer).bind f)

instance : Monad (Program Op Answer) where
  pure := .pure
  bind := .bind

/-- Perform one operation and return its answer. -/
def call (op : Op) : Program Op Answer (Answer op) := .perform op .pure

@[simp] theorem pure_eq (value : α) : (Pure.pure value : Program Op Answer α) = .pure value := rfl

@[simp] theorem bind_eq (program : Program Op Answer α) (f : α → Program Op Answer β)
    : program >>= f = program.bind f := rfl

end Program

/-- What a performer of operations must respect, over a ghost state `σ`: which operations
are allowed, and how an answered operation changes the ghost state.
-/
structure Contract (Op : Type) (Answer : Op → Type) (σ : Type) where
  allowed : σ → Op → Prop
  after : σ → (op : Op) → Answer op → σ

namespace Program

variable {Op : Type} {Answer : Op → Type} {α β σ : Type} {contract : Contract Op Answer σ}

/-- Started in a ghost state, the program performs only allowed operations, whatever the
answers are, and returns only values that satisfy `post` in the ghost state then reached.
-/
def Meets (contract : Contract Op Answer σ) (post : σ → α → Prop)
    : Program Op Answer α → σ → Prop
  | .pure value, ghost => post ghost value
  | .perform op next, ghost =>
      contract.allowed ghost op
      ∧ ∀ answer, (next answer).Meets contract post (contract.after ghost op answer)

@[simp] theorem meets_pure {post : σ → α → Prop} {value : α} {ghost : σ}
    : (Program.pure value : Program Op Answer α).Meets contract post ghost ↔ post ghost value :=
  Iff.rfl

@[simp] theorem meets_perform {post : σ → α → Prop} {op : Op}
    {next : Answer op → Program Op Answer α} {ghost : σ}
    : (Program.perform op next).Meets contract post ghost
      ↔ contract.allowed ghost op
        ∧ ∀ answer, (next answer).Meets contract post (contract.after ghost op answer) :=
  Iff.rfl

/-- One operation meets a contract when it is allowed and every answer satisfies `post`. -/
@[simp] theorem meets_call {op : Op} {post : σ → Answer op → Prop} {ghost : σ}
    : (Program.call op : Program Op Answer (Answer op)).Meets contract post ghost
      ↔ contract.allowed ghost op
        ∧ ∀ answer, post (contract.after ghost op answer) answer :=
  Iff.rfl

/-- A weaker postcondition is met. Witness: induction over the program. -/
theorem Meets.mono {program : Program Op Answer α} {post weaker : σ → α → Prop} {ghost : σ}
    (met : program.Meets contract post ghost)
    (weaken : ∀ ghost value, post ghost value → weaker ghost value)
    : program.Meets contract weaker ghost := by
  induction program generalizing ghost with
  | pure value => exact weaken ghost value met
  | perform op next ih => exact ⟨met.1, fun answer => ih answer (met.2 answer)⟩

/-- The sequencing rule: a bind meets `post` when its first part meets the condition that
the rest meets `post`. Witness: induction over the first part.
-/
@[simp] theorem meets_bind {program : Program Op Answer α} {f : α → Program Op Answer β}
    {post : σ → β → Prop} {ghost : σ}
    : (program.bind f).Meets contract post ghost
      ↔ program.Meets contract (fun ghost value => (f value).Meets contract post ghost)
          ghost := by
  induction program generalizing ghost with
  | pure value => rfl
  | perform op next ih =>
      constructor
      · rintro ⟨allowed, rest⟩
        exact ⟨allowed, fun answer => (ih answer).mp (rest answer)⟩
      · rintro ⟨allowed, rest⟩
        exact ⟨allowed, fun answer => (ih answer).mpr (rest answer)⟩

/-- Use a specification of the first part of a bind: it suffices that the rest meets `post`
from every state and value the specification allows.
-/
theorem Meets.bind {program : Program Op Answer α} {f : α → Program Op Answer β}
    {middle : σ → α → Prop} {post : σ → β → Prop} {ghost : σ}
    (first : program.Meets contract middle ghost)
    (rest : ∀ ghost value, middle ghost value → (f value).Meets contract post ghost)
    : (program.bind f).Meets contract post ghost :=
  meets_bind.mpr (first.mono rest)

/-- Two continuations that agree on every value the first part may return make the same program.
Witness: induction over the first part.
-/
theorem Meets.bind_congr {program : Program Op Answer α} {f g : α → Program Op Answer β}
    {ghost : σ} (agree : program.Meets contract (fun _ value => f value = g value) ghost)
    : program.bind f = program.bind g := by
  induction program generalizing ghost with
  | pure value => exact agree
  | perform op next ih =>
      have rest : (fun answer => (next answer).bind f) = fun answer => (next answer).bind g := by
        funext answer
        exact ih answer (agree.2 answer)
      exact congrArg (Program.perform op) rest

-- Some answers instead of all.

/-- Some of the offered answers lead the program to a value that satisfies `post`. -/
def May (offered : (op : Op) → Answer op → Prop) (post : α → Prop) : Program Op Answer α → Prop
  | .pure value => post value
  | .perform op next => ∃ answer, offered op answer ∧ (next answer).May offered post

section

variable {offered : (op : Op) → Answer op → Prop}

@[simp] theorem may_pure {post : α → Prop} {value : α}
    : (Program.pure value : Program Op Answer α).May offered post ↔ post value :=
  Iff.rfl

@[simp] theorem may_perform {post : α → Prop} {op : Op} {next : Answer op → Program Op Answer α}
    : (Program.perform op next).May offered post
      ↔ ∃ answer, offered op answer ∧ (next answer).May offered post :=
  Iff.rfl

@[simp] theorem may_call {op : Op} {post : Answer op → Prop}
    : (Program.call op : Program Op Answer (Answer op)).May offered post
      ↔ ∃ answer, offered op answer ∧ post answer :=
  Iff.rfl

/-- A bind may reach `post` when its first part may reach a value from which the rest may.
Witness: induction over the first part.
-/
@[simp] theorem may_bind {program : Program Op Answer α} {f : α → Program Op Answer β}
    {post : β → Prop}
    : (program.bind f).May offered post
      ↔ program.May offered fun value => (f value).May offered post := by
  induction program with
  | pure value => rfl
  | perform op next ih =>
      constructor
      · intro ⟨answer, here, later⟩
        exact ⟨answer, here, (ih answer).mp later⟩
      · intro ⟨answer, here, later⟩
        exact ⟨answer, here, (ih answer).mpr later⟩

end

-- A deterministic performer.

/-- Run a program against a handler of its operations, which may refuse to answer. -/
def run (handle : σ → (op : Op) → Option (Answer op × σ)) : Program Op Answer α → σ → Option (α × σ)
  | .pure value, state => some (value, state)
  | .perform op next, state =>
      (handle state op).bind fun answered => (next answered.1).run handle answered.2

section

variable {handle : σ → (op : Op) → Option (Answer op × σ)}

@[simp] theorem run_pure {value : α} {state : σ}
    : (Program.pure value : Program Op Answer α).run handle state = some (value, state) :=
  rfl

@[simp] theorem run_call {op : Op} {state : σ}
    : (Program.call op : Program Op Answer (Answer op)).run handle state = handle state op := by
  cases answered : handle state op with
  | none => simp [call, run, answered]
  | some answered' => simp [call, run, answered]

/-- A bind runs its first part and then the rest. Witness: induction over the first part. -/
theorem run_bind {program : Program Op Answer α} {f : α → Program Op Answer β} {state : σ}
    : (program.bind f).run handle state
      = (program.run handle state).bind fun ran => (f ran.1).run handle ran.2 := by
  induction program generalizing state with
  | pure value => rfl
  | perform op next ih =>
      cases answered : handle state op with
      | none => simp [bind, run, answered]
      | some answered' => simp [bind, run, answered, ih]

/-- A bind whose first part has run. -/
theorem run_bind_of {program : Program Op Answer α} {f : α → Program Op Answer β} {state after : σ}
    {value : α} (ran : program.run handle state = some (value, after))
    : (program.bind f).run handle state = (f value).run handle after := by
  rw [run_bind, ran, Option.bind_some]

end

-- An oracle: every operation has one answer.

/-- The value of a program whose operations an oracle answers. -/
def eval (answer : (op : Op) → Answer op) : Program Op Answer α → α
  | .pure value => value
  | .perform op next => (next (answer op)).eval answer

section

variable {answer : (op : Op) → Answer op}

@[simp] theorem eval_pure {value : α}
    : (Program.pure value : Program Op Answer α).eval answer = value :=
  rfl

@[simp] theorem eval_call {op : Op}
    : (Program.call op : Program Op Answer (Answer op)).eval answer = answer op :=
  rfl

/-- A bind evaluates its first part and then the rest. Witness: induction over the first part. -/
@[simp] theorem eval_bind {program : Program Op Answer α} {f : α → Program Op Answer β}
    : (program.bind f).eval answer = (f (program.eval answer)).eval answer := by
  induction program with
  | pure value => rfl
  | perform op next ih => exact ih (answer op)

end

end Program

/-- A program under execution: the rest of it and the ghost state its past has built up. -/
structure Running (Op : Type) (Answer : Op → Type) (σ α : Type) where
  ghost : σ
  rest : Program Op Answer α

namespace Running

variable {Op : Type} {Answer : Op → Type} {α σ Reply Event : Type}

/-- The value of a program that has returned. -/
def result? (running : Running Op Answer σ α) : Option α :=
  match running.rest with
  | .pure value => some value
  | .perform _ _ => none

/-- The operation a program waits for, if it has not returned. -/
def pending? (running : Running Op Answer σ α) : Option Op :=
  match running.rest with
  | .pure _ => none
  | .perform op _ => some op

/-- Answer the pending operation. `read` decides whether a reply from outside is an answer
to it; `report` names the events the answer makes visible.
-/
def advance (after : σ → (op : Op) → Answer op → σ) (read : (op : Op) → Reply → Option (Answer op))
    (report : (op : Op) → Answer op → List Event) (running : Running Op Answer σ α)
    (reply : Reply)
    : Option (Running Op Answer σ α × List Event) :=
  match running.rest with
  | .pure _ => none
  | .perform op next =>
      (read op reply).map fun answer =>
        (⟨after running.ghost op answer, next answer⟩, report op answer)

/-- What one answered operation does. -/
theorem advance_eq_some {after : σ → (op : Op) → Answer op → σ}
    {read : (op : Op) → Reply → Option (Answer op)}
    {report : (op : Op) → Answer op → List Event} {running next : Running Op Answer σ α}
    {reply : Reply} {events : List Event}
    (advanced : running.advance after read report reply = some (next, events))
    : ∃ op continue' answer,
        running.rest = .perform op continue'
        ∧ read op reply = some answer
        ∧ next = ⟨after running.ghost op answer, continue' answer⟩
        ∧ events = report op answer := by
  unfold advance at advanced
  split at advanced
  · exact absurd advanced (by simp)
  · next op continue' rest =>
      obtain ⟨answer, answered, same⟩ := Option.map_eq_some_iff.mp advanced
      obtain ⟨rfl, rfl⟩ := Prod.mk.injEq .. ▸ same
      exact ⟨op, continue', answer, rest, answered, rfl, rfl⟩

/-- The rest of a running program meets its postcondition from its ghost state. -/
def Sound (contract : Contract Op Answer σ) (post : σ → α → Prop)
    (running : Running Op Answer σ α)
    : Prop :=
  running.rest.Meets contract post running.ghost

section

variable {contract : Contract Op Answer σ} {post : σ → α → Prop}
  {read : (op : Op) → Reply → Option (Answer op)}
  {report : (op : Op) → Answer op → List Event} {running next : Running Op Answer σ α}
  {reply : Reply} {events : List Event}

/-- Soundness survives every answered operation. -/
theorem Sound.advance (sound : running.Sound contract post)
    (advanced : running.advance contract.after read report reply = some (next, events))
    : next.Sound contract post := by
  obtain ⟨op, continue', answer, rest, -, rfl, -⟩ := advance_eq_some advanced
  rw [Sound, rest] at sound
  exact sound.2 answer

/-- A sound program that has returned satisfies its postcondition. -/
theorem Sound.result (sound : running.Sound contract post) {value : α}
    (returned : running.result? = some value)
    : post running.ghost value := by
  unfold result? at returned
  split at returned
  · next rest =>
      rw [Sound, rest] at sound
      exact Option.some.inj returned ▸ sound
  · exact absurd returned (by simp)

/-- A sound program waits only for allowed operations. -/
theorem Sound.pending (sound : running.Sound contract post) {op : Op}
    (pending : running.pending? = some op)
    : contract.allowed running.ghost op := by
  unfold pending? at pending
  split at pending
  · exact absurd pending (by simp)
  · next rest =>
      rw [Sound, rest] at sound
      exact Option.some.inj pending ▸ sound.1

end

end Running

end ProxyClient.Foundations
