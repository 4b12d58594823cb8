import LineScript.Proofs.Conduct
import LineScript.Proofs.Console
import LineScript.Proofs.Expression.Forms

/-! Sessions: calls on one interpreter, one after the other, whether they fail or not. Names that
are bound stay bound, constants keep their values, and what a call in the text means is decided
by the catalog alone. -/
namespace LineScript

theorem Table.contains_insert {α : Type} (name other : String) (value : α) (table : Table α) :
    (table.insert name value).contains other = (name == other || table.contains other) := by
  rw [Table.contains, Table.get?_insert]
  by_cases same : name = other
  · simp [same]
  · simp [same, Table.contains]

namespace Bindings

/-- No name is both a variable and a constant, and every name is an identifier. -/
structure Sound (bindings : Bindings) : Prop where
  apart (name : String) :
    ¬(bindings.mutable.contains name = true ∧ bindings.immutable.contains name = true)
  named (name : String) :
    bindings.mutable.contains name = true ∨ bindings.immutable.contains name = true →
      Scan.isIdentifier name.toList = true

structure Keeps (before after : Bindings) : Prop where
  bound (name : String) : (before.get? name).isSome → (after.get? name).isSome
  constant (name : String) (value : Value) :
    before.immutable.get? name = some value → after.immutable.get? name = some value

theorem isSome_get? (bindings : Bindings) (name : String) :
    (bindings.get? name).isSome =
      (bindings.mutable.contains name || bindings.immutable.contains name) := by
  rw [get?, Option.isSome_or]
  rfl

theorem sound_empty : Sound {} where
  apart := by simp [Table.contains, Table.get?]
  named := by simp [Table.contains, Table.get?]

theorem Keeps.refl (bindings : Bindings) : bindings.Keeps bindings :=
  ⟨fun _ bound => bound, fun _ _ found => found⟩

theorem Keeps.trans {first second third : Bindings} (before : first.Keeps second)
    (after : second.Keeps third) : first.Keeps third :=
  ⟨fun name bound => after.bound name (before.bound name bound),
    fun name value found => after.constant name value (before.constant name value found)⟩

section

variable {bindings changed : Bindings} {name : String} {value : Value}

theorem Sound.setVariable (sound : bindings.Sound) (valid : Scan.isIdentifier name.toList = true)
    (set : bindings.setVariable name value = .ok changed) :
    changed.Sound ∧ bindings.Keeps changed := by
  rw [Bindings.setVariable] at set
  split at set
  next => cases set
  next free =>
    cases set
    refine ⟨⟨fun other both => ?_, fun other bound => ?_⟩, fun other bound => ?_,
      fun other value found => found⟩
    · rw [Table.contains_insert, Bool.or_eq_true, beq_iff_eq] at both
      rcases both with ⟨rfl | old, constant⟩
      · exact free constant
      · exact sound.apart other ⟨old, constant⟩
    · rw [Table.contains_insert, Bool.or_eq_true, beq_iff_eq, or_assoc] at bound
      rcases bound with rfl | old
      · exact valid
      · exact sound.named other old
    · rw [isSome_get?] at bound ⊢
      rw [Table.contains_insert, Bool.or_assoc, bound, Bool.or_true]

theorem Sound.setConstant (sound : bindings.Sound) (valid : Scan.isIdentifier name.toList = true)
    (set : bindings.setConstant name value = .ok changed) :
    changed.Sound ∧ bindings.Keeps changed := by
  rw [Bindings.setConstant] at set
  split at set
  next => cases set
  next free =>
    rw [Bool.or_eq_true, not_or] at free
    cases set
    refine ⟨⟨fun other both => ?_, fun other bound => ?_⟩, fun other bound => ?_,
      fun other kept found => ?_⟩
    · rw [Table.contains_insert, Bool.or_eq_true, beq_iff_eq] at both
      rcases both with ⟨assigned, rfl | old⟩
      · exact free.1 assigned
      · exact sound.apart other ⟨assigned, old⟩
    · rw [Table.contains_insert, Bool.or_eq_true, beq_iff_eq, or_left_comm] at bound
      rcases bound with rfl | old
      · exact valid
      · exact sound.named other old
    · rw [isSome_get?] at bound ⊢
      rw [Table.contains_insert, Bool.or_left_comm, bound, Bool.or_true]
    · have other : name ≠ other := by
        rintro rfl
        exact free.2 (by rw [Table.contains, found]; rfl)
      rw [Table.get?_insert, if_neg other, found]

theorem Sound.get?_constant (sound : bindings.Sound)
    (found : bindings.immutable.get? name = some value) : bindings.get? name = some value := by
  have free : bindings.mutable.get? name = none := by
    have apart := sound.apart name
    simpa [Table.contains, found] using apart
  rw [get?, free, found]
  rfl

end

end Bindings

namespace World

variable {σ : Type}

theorem answer_keeps {world : World σ} (sound : world.bindings.Sound) (console : Console σ)
    {request : Request} (named : request.Named) :
    (world.answer console request).2.bindings.Sound ∧
      world.bindings.Keeps (world.answer console request).2.bindings := by
  cases request with
  | setVariable name value =>
    rw [answer]
    cases set : world.bindings.setVariable name value with
    | ok changed => exact sound.setVariable named set
    | error fault => exact ⟨sound, .refl _⟩
  | setConstant name value =>
    rw [answer]
    cases set : world.bindings.setConstant name value with
    | ok changed => exact sound.setConstant named set
    | error fault => exact ⟨sound, .refl _⟩
  | _ => exact ⟨sound, .refl _⟩

end World

theorem Action.Orderly.run_keeps {ε α σ : Type} {final : ε → Prop} {action : Action ε α}
    (orderly : action.Orderly final) (console : Console σ) {world : World σ}
    (sound : world.bindings.Sound) :
    (action.run console world).2.bindings.Sound ∧
      world.bindings.Keeps (action.run console world).2.bindings := by
  induction orderly generalizing world with
  | done value | fail error => exact ⟨sound, .refl _⟩
  | @ask request next named _ _ ih =>
    have first := World.answer_keeps sound console named
    have later := ih (world.answer console request).1 first.1
    exact ⟨later.1, first.2.trans later.2⟩

inductive Call where
  | run (source : Text)
  | evaluate (fragment : Text)
  | execute (line : Text)

namespace Interpreter

variable {σ : Type} (interpreter : Interpreter σ)

def perform (world : World σ) : Call → World σ
  | .run source => (interpreter.run source world).2
  | .evaluate fragment => (interpreter.evaluate fragment world).2
  | .execute line => (interpreter.execute line world).2

def session (calls : List Call) (world : World σ) : World σ :=
  calls.foldl interpreter.perform world

theorem perform_keeps (call : Call) {world : World σ} (sound : world.bindings.Sound) :
    (interpreter.perform world call).bindings.Sound ∧
      world.bindings.Keeps (interpreter.perform world call).bindings := by
  cases call with
  | run source => exact (Script.orderly_run _ _ source).run_keeps _ sound
  | evaluate fragment => exact (Expression.orderly_evaluate _ _ fragment).run_keeps _ sound
  | execute line => exact (Statement.orderly_execute _ _ line).run_keeps _ sound

theorem session_keeps (calls : List Call) {world : World σ} (sound : world.bindings.Sound) :
    (interpreter.session calls world).bindings.Sound ∧
      world.bindings.Keeps (interpreter.session calls world).bindings := by
  induction calls generalizing world with
  | nil => exact ⟨sound, .refl _⟩
  | cons call rest ih =>
    have first := interpreter.perform_keeps call sound
    have later := ih first.1
    exact ⟨later.1, first.2.trans later.2⟩

end Interpreter

def Operation.called (operation : Operation) (arity : Arity) (name : String)
    (arguments : List Value) : Action Fault Value :=
  if arity.accepts arguments.length then
    (operation.action? arguments).getD (.fail (.arity name operation.arity arguments.length))
  else .fail (.arity name arity arguments.length)

theorem Catalog.invoke_eq {catalog : Catalog} {name : String} {arity : Arity}
    {operation : Operation} (found : catalog.function? name = some (arity, operation))
    (arguments : List Value) :
    catalog.invoke name arguments = operation.called arity name arguments := by
  rw [Catalog.invoke, found]
  rfl

namespace Interpreter

variable {σ : Type} (interpreter : Interpreter σ)

/-- A call in the text runs the operation that the catalog has under the name, on the values of
the arguments and in whatever world. A name that the catalog does not have as a function is not
called at all. -/
structure CallsByName : Prop where
  evaluate (text : Text) (name : String) (list : Text) (arity : Arity) (operation : Operation)
    (limit : Nat) (world : World σ) : Expression.call? (Text.trim text) = some (name, list) →
      interpreter.catalog.function? name = some (arity, operation) →
        interpreter.limit = limit + 1 →
          interpreter.evaluate text world =
            (do let fragments ← Action.ofExcept (Expression.arguments list)
                let values ← fragments.mapM (Expression.evaluate interpreter.catalog limit)
                operation.called arity name values).run interpreter.console world
  undefined (text : Text) (name : String) (list : Text) (limit : Nat) (world : World σ) :
    Expression.call? (Text.trim text) = some (name, list) →
      interpreter.catalog.function? name = none → interpreter.limit = limit + 1 →
        interpreter.evaluate text world = (.error (.undefinedFunction name), world)
  execute (line : Text) (statement : Statement) (arity : Arity) (operation : Operation)
    (world : World σ) : Statement.parse line = .ok statement →
      interpreter.catalog.function? statement.command = some (arity, operation) →
        interpreter.execute line world =
          (do let values ← statement.arguments.mapM
                (Expression.evaluate interpreter.catalog interpreter.limit)
              operation.called arity statement.command values).run interpreter.console world

theorem callsByName : interpreter.CallsByName where
  evaluate text name list arity operation limit world read found room := by
    have function : interpreter.catalog.isFunction name = true := by
      rw [Catalog.isFunction, found]
      rfl
    rw [Interpreter.evaluate, room, Expression.evaluate_call _ _ read, Expression.Form.evaluate,
      if_pos function]
    simp only [Catalog.invoke_eq found]
  undefined text name list limit world read missing room := by
    have other : ¬interpreter.catalog.isFunction name = true := by
      rw [Catalog.isFunction, missing]
      exact Bool.false_ne_true
    rw [Interpreter.evaluate, room, Expression.evaluate_call _ _ read, Expression.Form.evaluate,
      if_neg other]
    rfl
  execute line statement arity operation world read found := by
    have executes : Statement.execute interpreter.catalog interpreter.limit line =
        (do let values ← statement.arguments.mapM
              (Expression.evaluate interpreter.catalog interpreter.limit)
            interpreter.catalog.invoke statement.command values) := by
      rw [Statement.execute, read]
      rfl
    rw [Interpreter.execute, executes]
    simp only [Catalog.invoke_eq found]

end Interpreter

/-- In every state that a session can reach no name is both a variable and a constant, and every
name is an identifier. From there on, whatever is called and whether it fails or not, bound names
stay bound and constants stay constants with the same value; and a call in the text runs the
builtin of that name, even if the name is bound. -/
theorem session_disciplined {σ : Type} (interpreter : Interpreter σ) (heap : Heap) (state : σ)
    (earlier later : List Call) :
    let before := (interpreter.session earlier ⟨{}, heap, state⟩).bindings
    let after := (interpreter.session (earlier ++ later) ⟨{}, heap, state⟩).bindings
    before.Sound ∧ (∀ name, (before.get? name).isSome → (after.get? name).isSome) ∧
      (∀ name value, before.isConstant name → before.get? name = some value →
        after.isConstant name ∧ after.get? name = some value) ∧
      interpreter.CallsByName := by
  intro before after
  have fresh : (⟨{}, heap, state⟩ : World σ).bindings.Sound := Bindings.sound_empty
  have start := interpreter.session_keeps earlier fresh
  have onward := interpreter.session_keeps later start.1
  have joined : after = (interpreter.session later
      (interpreter.session earlier ⟨{}, heap, state⟩)).bindings := by
    simp only [after, Interpreter.session, List.foldl_append]
  rw [← joined] at onward
  refine ⟨start.1, onward.2.bound, fun name value constant found => ?_, interpreter.callsByName⟩
  have kept : before.immutable.get? name = some value := by
    obtain ⟨other, known⟩ := Option.isSome_iff_exists.1 constant
    rwa [start.1.get?_constant known, ← known] at found
  have still := onward.2.constant name value kept
  refine ⟨?_, onward.1.get?_constant still⟩
  rw [Bindings.isConstant, Table.contains, still]
  rfl

/-- A constant under the name of a builtin. It cannot be changed, and the builtin still prints. -/
theorem session_disciplined_shadowed :
    let first : List Call := [.execute "sadai_rakha(\"bhanai\", \"x\")".toList]
    let rest : List Call :=
      [.execute "rakha(\"bhanai\", \"y\")".toList, .run "bhanai(bhanai)".toList]
    let after := (Interpreter.inMemory .standard 256).session (first ++ rest) ⟨{}, {}, {}⟩
    after.bindings.isConstant "bhanai" ∧ after.bindings.get? "bhanai" = some (.text "x") ∧
      after.console.output = #["x"] := by
  intro first rest after
  have constant : ((Interpreter.inMemory .standard 256).session first
      ⟨{}, {}, {}⟩).bindings.isConstant "bhanai" = true := by decide +kernel
  have value : ((Interpreter.inMemory .standard 256).session first
      ⟨{}, {}, {}⟩).bindings.get? "bhanai" = some (.text "x") := by rfl
  have kept := (session_disciplined (Interpreter.inMemory .standard 256) {} {} first rest).2.2.1
    "bhanai" (.text "x") constant value
  exact ⟨kept.1, kept.2, by decide +kernel⟩

end LineScript
