import Mathlib.Logic.Function.Basic
import ProxyClient.Foundations.Program

/-! The traces of a program: the operations it has performed, each with its answer.
`Meets` speaks of what a program may do next; a trace records what it has done when it
returned, so that a result can be compared with the answers that led to it.
-/

namespace ProxyClient.Foundations

/-- An operation and the answer to it. -/
structure Answered (Op : Type) (Answer : Op → Type) where
  op : Op
  answer : Answer op

/-- The ghost state after a trace. -/
def Contract.afterAll {Op : Type} {Answer : Op → Type} {σ : Type}
    (contract : Contract Op Answer σ) (ghost : σ) (trace : List (Answered Op Answer))
    : σ :=
  trace.foldl (fun ghost step => contract.after ghost step.op step.answer) ghost

namespace Program

variable {Op : Type} {Answer : Op → Type} {α β σ : Type}

/-- The program returns the value after exactly these answered operations. -/
inductive Returns : Program Op Answer α → List (Answered Op Answer) → α → Prop
  | pure {value} : Returns (.pure value) [] value
  | perform {op next answer trace value} (rest : Returns (next answer) trace value)
    : Returns (.perform op next) (⟨op, answer⟩ :: trace) value

@[simp] theorem returns_pure {value result : α} {trace : List (Answered Op Answer)}
    : (Program.pure value : Program Op Answer α).Returns trace result
      ↔ trace = [] ∧ result = value := by
  constructor
  · intro returned
    cases returned
    exact ⟨rfl, rfl⟩
  · rintro ⟨rfl, rfl⟩
    exact .pure

@[simp] theorem returns_perform {op : Op} {next : Answer op → Program Op Answer α} {result : α}
    {trace : List (Answered Op Answer)}
    : (Program.perform op next).Returns trace result
      ↔ ∃ answer rest, trace = ⟨op, answer⟩ :: rest ∧ (next answer).Returns rest result := by
  constructor
  · intro returned
    cases returned with
    | perform rest => exact ⟨_, _, rfl, rest⟩
  · rintro ⟨answer, rest, rfl, returned⟩
    exact .perform returned

@[simp] theorem returns_call {op : Op} {result : Answer op} {trace : List (Answered Op Answer)}
    : (Program.call op : Program Op Answer (Answer op)).Returns trace result
      ↔ trace = [⟨op, result⟩] := by
  simp only [call, returns_perform, returns_pure]
  constructor
  · rintro ⟨answer, rest, rfl, rfl, rfl⟩
    rfl
  · rintro rfl
    exact ⟨result, [], rfl, rfl, rfl⟩

/-- A bind returns when its first part and then the rest do. Witness: induction over the first
part.
-/
theorem returns_bind {program : Program Op Answer α} {f : α → Program Op Answer β} {result : β}
    {trace : List (Answered Op Answer)}
    : (program.bind f).Returns trace result
      ↔ ∃ first rest value,
          trace = first ++ rest ∧ program.Returns first value ∧ (f value).Returns rest result := by
  induction program generalizing trace with
  | pure value =>
      constructor
      · intro returned
        exact ⟨[], trace, value, rfl, .pure, returned⟩
      · rintro ⟨first, rest, value, rfl, returned, later⟩
        cases returned
        exact later
  | perform op next ih =>
      constructor
      · intro returned
        cases returned with
        | perform returned =>
            obtain ⟨first, rest, value, rfl, earlier, later⟩ := (ih _).mp returned
            exact ⟨_ :: first, rest, value, rfl, .perform earlier, later⟩
      · rintro ⟨first, rest, value, rfl, returned, later⟩
        cases returned with
        | perform returned => exact .perform ((ih _).mpr ⟨_, rest, value, rfl, returned, later⟩)

/-- Sequencing of returns. -/
theorem Returns.bind {program : Program Op Answer α} {f : α → Program Op Answer β} {value : α}
    {result : β} {first rest : List (Answered Op Answer)} (earlier : program.Returns first value)
    (later : (f value).Returns rest result)
    : (program.bind f).Returns (first ++ rest) result :=
  returns_bind.mpr ⟨first, rest, value, rfl, earlier, later⟩

/-- A program that meets a contract satisfies its postcondition wherever it returns. Witness:
induction over the trace.
-/
theorem Meets.returns {contract : Contract Op Answer σ} {post : σ → α → Prop}
    {program : Program Op Answer α} {ghost : σ} {trace : List (Answered Op Answer)} {value : α}
    (met : program.Meets contract post ghost) (returned : program.Returns trace value)
    : post (contract.afterAll ghost trace) value := by
  induction returned generalizing ghost with
  | pure => exact met
  | perform rest ih => exact ih (met.2 _)

-----------------------------------------------------------------------------------------
-- Programs under execution
-----------------------------------------------------------------------------------------

/-- `rest` is what a program has left to do after exactly these answered operations. -/
inductive Leaves (program : Program Op Answer α)
    : List (Answered Op Answer) → Program Op Answer α → Prop
  | nothing : Leaves program [] program
  | answered {trace op next} (earlier : Leaves program trace (.perform op next))
    (answer : Answer op)
    : Leaves program (trace ++ [⟨op, answer⟩]) (next answer)

/-- What is left, continued to its end, is a return of the whole program. Witness: induction
over the operations answered before.
-/
theorem Leaves.returns_append {program rest : Program Op Answer α} {value : α}
    {trace more : List (Answered Op Answer)} (left : program.Leaves trace rest)
    (returned : rest.Returns more value)
    : program.Returns (trace ++ more) value := by
  induction left generalizing more with
  | nothing => exact returned
  | answered earlier answer ih =>
      have whole := ih (.perform returned)
      simpa only [List.append_assoc, List.singleton_append] using whole

/-- A program that has nothing left but its value has returned it. -/
theorem Leaves.returns {program : Program Op Answer α} {value : α}
    {trace : List (Answered Op Answer)} (left : program.Leaves trace (.pure value))
    : program.Returns trace value := by
  simpa only [List.append_nil] using left.returns_append .pure

-----------------------------------------------------------------------------------------
-- Programs that perform no operation twice
-----------------------------------------------------------------------------------------

/-- An oracle that agrees with every answer of a trace evaluates to what was returned. Witness:
induction over the trace.
-/
theorem Returns.eval_eq {program : Program Op Answer α} {trace : List (Answered Op Answer)}
    {value : α} {answer : (op : Op) → Answer op} (returned : program.Returns trace value)
    (agrees : ∀ step ∈ trace, answer step.op = step.answer)
    : program.eval answer = value := by
  induction returned with
  | pure => rfl
  | @perform op next given trace value rest ih =>
      obtain ⟨first, later⟩ := List.forall_mem_cons.mp agrees
      rw [eval, first]
      exact ih later

/-- No operation is performed twice. The ghost state is what has been performed. -/
def once : Contract Op Answer (List Op) where
  allowed performed op := op ∉ performed
  after performed op _ := op :: performed

/-- The operations of a trace are different from each other and from those before. Witness:
induction over the trace.
-/
theorem Meets.nodup {post : List Op → α → Prop} {program : Program Op Answer α}
    {performed : List Op} {trace : List (Answered Op Answer)} {value : α}
    (met : program.Meets once post performed) (returned : program.Returns trace value)
    : (trace.map Answered.op).Nodup ∧ ∀ op ∈ trace.map Answered.op, op ∉ performed := by
  induction returned generalizing performed with
  | pure => exact ⟨List.nodup_nil, fun _ absent => absurd absent List.not_mem_nil⟩
  | @perform op next given trace value rest ih =>
      obtain ⟨distinct, apart⟩ := ih (met.2 given)
      have first : op ∉ trace.map Answered.op := fun again => apart op again List.mem_cons_self
      refine ⟨List.nodup_cons.mpr ⟨first, distinct⟩, List.forall_mem_cons.mpr ⟨met.1, ?_⟩⟩
      intro later listed earlier
      exact apart later listed (List.mem_cons_of_mem _ earlier)

/-- Such operations are answered by one oracle, by induction over the trace. -/
theorem exists_oracle [DecidableEq Op] {trace : List (Answered Op Answer)}
    (otherwise : (op : Op) → Answer op) (distinct : (trace.map Answered.op).Nodup)
    : ∃ answer : (op : Op) → Answer op, ∀ step ∈ trace, answer step.op = step.answer := by
  induction trace with
  | nil => exact ⟨otherwise, fun _ absent => absurd absent List.not_mem_nil⟩
  | cons first rest ih =>
      obtain ⟨apart, distinct⟩ := List.nodup_cons.mp distinct
      obtain ⟨answer, agrees⟩ := ih distinct
      refine ⟨Function.update answer first.op first.answer, List.forall_mem_cons.mpr ⟨?_, ?_⟩⟩
      · exact Function.update_self _ _ _
      · intro step listed
        have other : step.op ≠ first.op := by
          intro same
          exact apart (same ▸ List.mem_map_of_mem listed)
        rw [Function.update_of_ne other]
        exact agrees step listed

/-- So every return of a program that performs nothing twice is an evaluation. -/
theorem Meets.exists_eval [DecidableEq Op] {post : List Op → α → Prop}
    {program : Program Op Answer α} {trace : List (Answered Op Answer)} {value : α}
    (otherwise : (op : Op) → Answer op) (met : program.Meets once post [])
    (returned : program.Returns trace value)
    : ∃ answer : (op : Op) → Answer op,
        (∀ step ∈ trace, answer step.op = step.answer) ∧ program.eval answer = value := by
  obtain ⟨answer, agrees⟩ := exists_oracle otherwise (met.nodup returned).1
  exact ⟨answer, agrees, returned.eval_eq agrees⟩

end Program

namespace Running

variable {Op : Type} {Answer : Op → Type} {α σ Reply Event : Type}

/-- The operation that a reply answers, with that answer. -/
def answered (read : (op : Op) → Reply → Option (Answer op)) (running : Running Op Answer σ α)
    (reply : Reply)
    : List (Answered Op Answer) :=
  match running.rest with
  | .pure _ => []
  | .perform op _ => ((read op reply).map (Answered.mk op)).toList

/-- A reply adds its answer to what has been answered. -/
theorem leaves_advance {program : Program Op Answer α}
    {after : σ → (op : Op) → Answer op → σ} {read : (op : Op) → Reply → Option (Answer op)}
    {report : (op : Op) → Answer op → List Event} {running next : Running Op Answer σ α}
    {reply : Reply} {events : List Event} {trace : List (Answered Op Answer)}
    (left : program.Leaves trace running.rest)
    (advanced : running.advance after read report reply = some (next, events))
    : program.Leaves (trace ++ running.answered read reply) next.rest := by
  obtain ⟨op, rest, answer, pending, taken, rfl, -⟩ := advance_eq_some advanced
  rw [pending] at left
  simp only [answered, pending, taken, Option.map_some, Option.toList_some]
  exact left.answered answer

/-- A running program that has returned leaves nothing but its value. -/
theorem rest_of_result {running : Running Op Answer σ α} {value : α}
    (returned : running.result? = some value)
    : running.rest = .pure value := by
  unfold result? at returned
  split at returned
  · next rest =>
      obtain rfl := Option.some.inj returned
      exact rest
  · exact absurd returned (by simp)

end Running

end ProxyClient.Foundations
