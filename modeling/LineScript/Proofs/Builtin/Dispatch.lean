import LineScript.Builtin.Catalog
import LineScript.Proofs.Table

/-! Calls of the standard builtins by name. The name decides the operation, the operation the number
of arguments, and with that number every argument that the operation reads is there. -/
namespace LineScript

/-- The number of leading arguments without which an operation cannot run. -/
def Operation.reads (operation : Operation) : Nat :=
  match operation, operation.arity with
  | .add, _ | _, .anyNumber => 0
  | _, .exactly count => count

theorem Operation.isSome_action?_iff (operation : Operation) (arguments : List Value) :
    (operation.action? arguments).isSome ↔ operation.reads ≤ arguments.length := by
  cases operation <;> rcases arguments with _ | ⟨_, _ | ⟨_, _ | ⟨_, _⟩⟩⟩ <;>
    simp [action?, reads, arity]

theorem Operation.reads_le {operation : Operation} {count : Nat}
    (accepted : operation.arity.accepts count = true) : operation.reads ≤ count := by
  unfold reads
  split
  · exact Nat.zero_le _
  · exact Nat.zero_le _
  next exact =>
    rw [exact] at accepted
    exact Nat.le_of_eq (beq_iff_eq.1 accepted)

namespace Catalog

theorem function?_standard {name : String} {arity : Arity} {operation : Operation} :
    standard.function? name = some (arity, operation) ↔
      operation.name = name ∧ operation.arity = arity := by
  constructor
  · intro found
    rw [function?] at found
    split at found
    next listed =>
      cases found
      have member := Table.mem_of_get? listed
      rw [standard, List.mem_append] at member
      rcases member with function | constant
      · obtain ⟨_, _, same⟩ := List.mem_map.1 function
        cases same
        exact ⟨rfl, rfl⟩
      · simp at constant
    next => cases found
  · rintro ⟨rfl, rfl⟩
    cases operation <;> rfl

section

variable {name : String} {arguments : List Value}

theorem invoke_unknown (unknown : ∀ operation : Operation, operation.name ≠ name) :
    standard.invoke name arguments = .fail (.unknownCommand name) := by
  have missing : standard.function? name = none := by
    cases found : standard.function? name with
    | none => rfl
    | some entry => exact absurd (function?_standard.1 found).1 (unknown entry.2)
  rw [invoke, missing]

variable {operation : Operation} (named : operation.name = name)

include named

theorem invoke_miscounted (wrong : operation.arity.accepts arguments.length = false) :
    standard.invoke name arguments = .fail (.arity name operation.arity arguments.length) := by
  rw [invoke, function?_standard.2 ⟨named, rfl⟩]
  simp [wrong]

theorem invoke_accepted (accepted : operation.arity.accepts arguments.length = true) :
    operation.action? arguments = some (standard.invoke name arguments) := by
  have enough := (operation.isSome_action?_iff arguments).2 (Operation.reads_le accepted)
  obtain ⟨action, runs⟩ := Option.isSome_iff_exists.1 enough
  rw [invoke, function?_standard.2 ⟨named, rfl⟩]
  simp [accepted, runs]

end

inductive Dispatches (name : String) (arguments : List Value) : Action Fault Value → Prop where
  | unknown : (∀ operation : Operation, operation.name ≠ name) →
      Dispatches name arguments (.fail (.unknownCommand name))
  | miscounted (operation : Operation) : operation.name = name →
      operation.arity.accepts arguments.length = false →
        Dispatches name arguments (.fail (.arity name operation.arity arguments.length))
  | called (operation : Operation) {action : Action Fault Value} : operation.name = name →
      operation.arity.accepts arguments.length = true → operation.reads ≤ arguments.length →
        operation.action? arguments = some action → Dispatches name arguments action

theorem dispatches_standard (name : String) (arguments : List Value) :
    Dispatches name arguments (standard.invoke name arguments) := by
  by_cases known : ∃ operation : Operation, operation.name = name
  · obtain ⟨operation, named⟩ := known
    cases accepted : operation.arity.accepts arguments.length with
    | true =>
      exact .called operation named accepted (Operation.reads_le accepted)
        (invoke_accepted named accepted)
    | false => exact invoke_miscounted named accepted ▸ .miscounted operation named accepted
  · have unknown (operation : Operation) : operation.name ≠ name := fun named =>
      known ⟨operation, named⟩
    exact invoke_unknown unknown ▸ .unknown unknown

end Catalog

end LineScript
