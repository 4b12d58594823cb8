import LineScript.Proofs.Builtin.Dispatch
import LineScript.Proofs.Console

/-! Builtin calls that fail. An operation makes all its checks before it changes anything: what
comes after a change never fails, a binding that is refused is not made, and the only trace that a
failed call can leave is the one prompt of an operation that asks for input. -/
namespace LineScript

namespace Request

def IsReading : Request → Prop
  | .readBindings | .readHeap => True
  | _ => False

/-- The store refused a binding, or the console a line. -/
def Refused : (request : Request) → request.Answer → Prop
  | .setVariable .., answer | .setConstant .., answer => ∃ fault, answer = .error fault
  | .write _, answer => ∃ message, answer = .error message
  | _, _ => False

end Request

namespace Action

variable {ε α β : Type}

def Settled : Action ε α → Prop
  | done _ | fail _ => True
  | ask .. => False

inductive Sure : Action ε α → Prop where
  | done (value : α) : Sure (done value)
  | ask {request : Request} {next : request.Answer → Action ε α} :
      (∀ answer, Sure (next answer)) → Sure (ask request next)

inductive Looks : Action ε α → Prop where
  | done (value : α) : Looks (done value)
  | fail (error : ε) : Looks (fail error)
  | ask {request : Request} {next : request.Answer → Action ε α} : request.IsReading →
      (∀ answer, Looks (next answer)) → Looks (ask request next)

/-- An action that looks at the store before it does anything else. Then it makes one change after
which it does not fail, unless the change itself is refused; or, where prompts are allowed, it
asks for input once and does no more than read the answer. -/
inductive Cautious (prompts : Prop) : Action ε α → Prop where
  | settled {action : Action ε α} : action.Settled → Cautious prompts action
  | look {request : Request} {next : request.Answer → Action ε α} : request.IsReading →
      (∀ answer, Cautious prompts (next answer)) → Cautious prompts (ask request next)
  | change {request : Request} {next : request.Answer → Action ε α} :
      (∀ answer, request.Refused answer → (next answer).Settled) →
      (∀ answer, ¬request.Refused answer → (next answer).Sure) → Cautious prompts (ask request next)
  | prompt {message : String} {next : (Request.prompt message).Answer → Action ε α} : prompts →
      (∀ answer, (next answer).Settled) → Cautious prompts (ask (.prompt message) next)

section

variable {prompts : Prop}

theorem Looks.bind {action : Action ε α} {next : α → Action ε β} (looks : action.Looks)
    (later : ∀ value, (next value).Cautious prompts) : (action >>= next).Cautious prompts := by
  induction looks with
  | done value => exact later value
  | fail error => exact .settled trivial
  | ask reading _ ih => exact .look reading ih

theorem looks_heap : (heap : Action ε Heap).Looks := .ask trivial .done

theorem looks_textOf (value : Value) : (textOf value : Action ε Text).Looks :=
  .ask trivial fun _ => .done _

theorem settled_ofExcept (outcome : Except ε α) : (ofExcept outcome).Settled := by
  cases outcome <;> trivial

theorem looks_ofExcept (outcome : Except ε α) : (ofExcept outcome).Looks := by
  cases outcome with
  | ok value => exact .done value
  | error error => exact .fail error

end

end Action

/-- What is left of a world after a failure: the store is as it was, and the console was asked
nothing, refused a line, or was asked for input once where that is allowed. -/
inductive World.Spared {σ : Type} (console : Console σ) (world : World σ) (prompts : Prop) :
    World σ → Prop where
  | still : Spared console world prompts world
  | refused {line message : String} : (console.write line world.console).1 = .error message →
      Spared console world prompts { world with console := (console.write line world.console).2 }
  | asked (message : String) : prompts →
      Spared console world prompts
        { world with console := (console.prompt message world.console).2 }

section

variable {σ : Type} {console : Console σ} {world later : World σ}

theorem World.answer_reading {request : Request} (reading : request.IsReading) :
    (world.answer console request).2 = world := by
  cases request with
  | readBindings | readHeap => rfl
  | _ => cases reading

theorem World.spared_rebind {prompts : Prop} {outcome : Except Fault Bindings}
    (refused : ∃ fault, (world.rebind outcome).1 = .error fault) :
    world.Spared console prompts (world.rebind outcome).2 := by
  cases outcome with
  | ok changed => cases refused.choose_spec
  | error fault => exact .still

theorem World.spared_of_refused {prompts : Prop} {request : Request}
    (refused : request.Refused (world.answer console request).1) :
    world.Spared console prompts (world.answer console request).2 := by
  cases request with
  | setVariable name value | setConstant name value => exact spared_rebind refused
  | write line =>
    obtain ⟨message, refused⟩ := refused
    exact .refused refused
  | _ => cases refused

namespace Action

variable {ε α : Type} {action : Action ε α} {outcome : Except ε α}

theorem run_ask (request : Request) (next : request.Answer → Action ε α) :
    (ask request next).run console world =
      (next (world.answer console request).1).run console (world.answer console request).2 :=
  rfl

theorem Settled.run (settled : action.Settled)
    (ends : action.run console world = (outcome, later)) : later = world := by
  cases action with
  | done | fail => exact (congrArg Prod.snd ends).symm
  | ask => cases settled

theorem Sure.run (sure : action.Sure) (console : Console σ) (world : World σ) (error : ε) :
    (action.run console world).1 ≠ .error error := by
  induction sure generalizing world with
  | done value => exact nofun
  | ask _ ih => exact ih _ _

/-- A cautious action that fails has changed nothing. -/
theorem Cautious.run {prompts : Prop} {error : ε} (cautious : action.Cautious prompts)
    (fails : action.run console world = (.error error, later)) :
    world.Spared console prompts later := by
  induction cautious with
  | settled settled => exact settled.run fails ▸ .still
  | @look request next reading _ ih =>
    refine ih (world.answer console request).1 ?_
    rwa [run_ask, World.answer_reading reading] at fails
  | @change request next stops goes =>
    rw [run_ask] at fails
    by_cases refused : request.Refused (world.answer console request).1
    · exact (stops _ refused).run fails ▸ World.spared_of_refused refused
    · exact absurd (congrArg Prod.fst fails) ((goes _ refused).run console _ error)
  | @prompt message next allowed settled =>
    rw [run_ask] at fails
    exact (settled _).run fails ▸ .asked message allowed

end Action

end

theorem cautious_sumOrJoin {prompts : Prop} (values : List Value) :
    (sumOrJoin values : Action Fault Value).Cautious prompts := by
  rw [sumOrJoin]
  split
  · exact .settled trivial
  · exact Action.looks_heap.bind fun _ => .settled trivial

namespace Operation

open LineScript.Action (Cautious Looks Settled looks_heap looks_textOf looks_ofExcept
  settled_ofExcept)

variable {prompts : Prop}

theorem cautious_named {operation : Operation} {value : Value} {next : String → Action Fault Value}
    (later : ∀ name, (next name).Cautious prompts) :
    (operation.bindingName value >>= next).Cautious prompts := by
  rw [bindingName, bind_assoc]
  refine (looks_textOf value).bind fun name => ?_
  split
  · exact later _
  · exact .settled trivial

/-- A request that may be refused, as the last thing that is done. -/
theorem cautious_change {α : Type} (request : Request) (outcome : request.Answer → Except Fault α)
    (refused : ∀ answer fault, outcome answer = .error fault → request.Refused answer)
    (result : α → Value) :
    (Action.ask request fun answer => Action.ofExcept (outcome answer) >>= fun value =>
      .done (result value)).Cautious prompts := by
  refine .change (fun answer _ => ?_) fun answer made => ?_
  · cases outcome answer <;> trivial
  · cases ends : outcome answer with
    | ok value => exact .done _
    | error fault => exact absurd (refused answer fault ends) made

theorem ofConsole_eq {α : Type} (answer : Except String α) :
    ofConsole answer = .ofExcept (answer.mapError .console) := by
  cases answer <;> rfl

theorem cautious_printLine (values : List Value) : (printLine values).Cautious prompts := by
  refine looks_heap.bind fun heap => ?_
  simp only [ofConsole_eq]
  refine cautious_change (.write _) (Except.mapError .console) (fun answer fault fails => ?_) _
  cases answer with
  | ok => cases fails
  | error message => exact ⟨message, rfl⟩

theorem cautious_asking (allowed : prompts) (message : Value) {next : Text → Action Fault Value}
    (settled : ∀ answer, (next answer).Settled) : (askLine message >>= next).Cautious prompts := by
  rw [askLine, bind_assoc]
  refine (looks_textOf message).bind fun text => .prompt allowed fun answer => ?_
  match answer with
  | .ok (some line) => exact settled _
  | .ok none | .error _ => trivial

theorem cautious_askForNumber (allowed : prompts) (message : Value) :
    (askForNumber message).Cautious prompts := by
  refine cautious_asking allowed message fun answer => ?_
  split <;> trivial

theorem cautious_lengthOf (value : Value) : (lengthOf value).Cautious prompts := by
  cases value with
  | array cell => exact looks_heap.bind fun _ => .settled trivial
  | _ => exact (looks_ofExcept _).bind fun _ => .settled trivial

theorem cautious_last (request : Request) (result : request.Answer → Value) :
    (Action.ask request fun answer => .done (result answer) :
      Action Fault Value).Cautious prompts :=
  .change (fun _ _ => trivial) fun _ _ => .done _

theorem cautious_action? : ∀ {operation : Operation} {values : List Value}
    {action : Action Fault Value}, operation.action? values = some action →
      action.Cautious (operation ∈ [askText, askNumber])
  | .bind, _ :: value :: _, _, rfl =>
    cautious_named fun name =>
      cautious_change (.setVariable name value) id (fun _ => Exists.intro) fun _ => .undefined
  | .bindConstant, _ :: value :: _, _, rfl =>
    cautious_named fun name =>
      cautious_change (.setConstant name value) id (fun _ => Exists.intro) fun _ => .undefined
  | .print, values, _, rfl => cautious_printLine values
  | .askText, message :: _, _, rfl => cautious_asking (by simp) message fun _ => trivial
  | .askNumber, message :: _, _, rfl => cautious_askForNumber (by simp) message
  | .add, values, _, rfl => cautious_sumOrJoin values
  | .subtract, _ :: _ :: _, _, rfl | .multiply, _ :: _ :: _, _, rfl | .divide, _ :: _ :: _, _, rfl
  | .modulo, _ :: _ :: _, _, rfl => .settled (settled_ofExcept _)
  | .both, _ :: _ :: _, _, rfl | .either, _ :: _ :: _, _, rfl
  | .negate, _ :: _, _, rfl => .settled trivial
  | .concat, _ :: _ :: _, _, rfl => looks_heap.bind fun _ => .settled trivial
  | .length, value :: _, _, rfl => cautious_lengthOf value
  | .slice, _ :: _ :: _ :: _, _, rfl | .replace, _ :: _ :: _ :: _, _, rfl | .upper, _ :: _, _, rfl
  | .lower, _ :: _, _, rfl | .contains, _ :: _ :: _, _, rfl | .trim, _ :: _, _, rfl
  | .position, _ :: _ :: _, _, rfl | .reverse, _ :: _, _, rfl
  | .padRight, _ :: _ :: _ :: _, _, rfl | .padLeft, _ :: _ :: _ :: _, _, rfl
  | .wordCount, _ :: _, _, rfl => .settled (settled_ofExcept _)
  | .split, _ :: _ :: _, _, rfl =>
    (looks_ofExcept _).bind fun items => cautious_last (.newArray items) id
  | .listLength, list :: _, _, rfl =>
    (looks_ofExcept _).bind fun _ => looks_heap.bind fun _ => .settled trivial
  | .listAppend, list :: item :: _, _, rfl =>
    (looks_ofExcept _).bind fun cell => cautious_last (.append cell item) fun _ => list
  | .listRemoveLast, list :: _, _, rfl =>
    (looks_ofExcept _).bind fun cell =>
      cautious_last (.removeLast cell) (Option.getD · .undefined)
  | .objectKeys, object :: _, _, rfl | .objectValues, object :: _, _, rfl =>
    (looks_ofExcept _).bind fun _ => looks_heap.bind fun _ => cautious_last (.newArray _) id

end Operation

/-- What a console keeps of its dialogue: the lines written, the prompts shown and the input that
is left. A refused line leaves no trace. A prompt writes no line, and at most it shows its message
and takes the next line of input. -/
structure Console.Record {σ : Type} (console : Console σ) where
  output : σ → List String
  prompts : σ → List String
  input : σ → List String
  refused {line message : String} {state : σ} : (console.write line state).1 = .error message →
    output (console.write line state).2 = output state ∧
      prompts (console.write line state).2 = prompts state ∧
        input (console.write line state).2 = input state
  prompted (message : String) (state : σ) :
    output (console.prompt message state).2 = output state ∧
      (prompts (console.prompt message state).2 = prompts state ∨
        prompts (console.prompt message state).2 = prompts state ++ [message]) ∧
      (input (console.prompt message state).2 = input state ∨
        ∃ line, input state = line :: input (console.prompt message state).2)

/-- A call of a builtin that asks for input, with the one argument that it takes. -/
def Catalog.Asks (name : String) (arguments : List Value) : Prop :=
  name ∈ ["sodhString", "sodhNumber"] ∧ arguments.length = 1

theorem Catalog.asks_of_called {operation : Operation} {arguments : List Value}
    (prompts : operation ∈ [.askText, .askNumber])
    (accepted : operation.arity.accepts arguments.length = true) :
    Asks operation.name arguments := by
  simp only [List.mem_cons, List.not_mem_nil, or_false] at prompts
  rcases prompts with rfl | rfl
  · exact ⟨by decide, (beq_iff_eq.1 accepted).symm⟩
  · exact ⟨by decide, (beq_iff_eq.1 accepted).symm⟩

structure World.Keeps {σ : Type} {console : Console σ} (record : console.Record) (name : String)
    (arguments : List Value) (world later : World σ) : Prop where
  bindings : later.bindings = world.bindings
  heap : later.heap = world.heap
  output : record.output later.console = record.output world.console
  unasked : ¬Catalog.Asks name arguments →
    record.prompts later.console = record.prompts world.console ∧
      record.input later.console = record.input world.console
  /-- At most one prompt was shown, and at most one line of input is gone. -/
  asked : Catalog.Asks name arguments →
    (record.prompts later.console = record.prompts world.console ∨
      ∃ message, record.prompts later.console = record.prompts world.console ++ [message]) ∧
    (record.input later.console = record.input world.console ∨
      ∃ line, record.input world.console = line :: record.input later.console)

theorem World.Spared.mono {σ : Type} {console : Console σ} {world later : World σ}
    {prompts more : Prop} (spared : world.Spared console prompts later) (allowed : prompts → more) :
    world.Spared console more later := by
  cases spared with
  | still => exact .still
  | refused refused => exact .refused refused
  | asked message asks => exact .asked message (allowed asks)

theorem World.Spared.keeps {σ : Type} {console : Console σ} {world later : World σ} {name : String}
    {arguments : List Value} (spared : world.Spared console (Catalog.Asks name arguments) later)
    (record : console.Record) : Keeps record name arguments world later := by
  cases spared with
  | still => exact ⟨rfl, rfl, rfl, fun _ => ⟨rfl, rfl⟩, fun _ => ⟨.inl rfl, .inl rfl⟩⟩
  | refused refused =>
    obtain ⟨output, shown, left⟩ := record.refused refused
    exact ⟨rfl, rfl, output, fun _ => ⟨shown, left⟩, fun _ => ⟨.inl shown, .inl left⟩⟩
  | asked message asks =>
    obtain ⟨output, shown, left⟩ := record.prompted message world.console
    exact ⟨rfl, rfl, output, fun other => absurd asks other,
      fun _ => ⟨shown.imp_right fun more => ⟨message, more⟩, left⟩⟩

/-- A builtin call that fails leaves the store as it was. On any console it has done nothing, had a
line refused, or asked once for input if it is a call that asks; so it leaves the record of a
console as it was, unless it asked. A name that no builtin has or a wrong number of arguments is
the end of the call: it makes no request at all. The text of an argument that is reached from
itself never ends; a call that writes it out is taken to go on with what is left of it
(`Heap.tree`). -/
theorem failed_call_keeps {σ : Type} (console : Console σ) (limit : Nat) (name : String)
    (arguments : List Value) {world later : World σ} {fault : Fault}
    (fails : (⟨console, .standard, limit⟩ : Interpreter σ).invoke name arguments world =
      (.error fault, later)) :
    world.Spared console (Catalog.Asks name arguments) later ∧
      (∀ record : console.Record, World.Keeps record name arguments world later) ∧
      ((∀ operation : Operation, operation.name ≠ name) →
        Catalog.standard.invoke name arguments = .fail (.unknownCommand name)) ∧
      ∀ operation : Operation, operation.name = name →
        operation.arity.accepts arguments.length = false →
          Catalog.standard.invoke name arguments =
            .fail (.arity name operation.arity arguments.length) := by
  have spared : world.Spared console (Catalog.Asks name arguments) later := by
    rw [Interpreter.invoke] at fails
    have dispatched := Catalog.dispatches_standard name arguments
    generalize Catalog.standard.invoke name arguments = action at fails dispatched
    cases dispatched with
    | unknown | miscounted => cases fails; exact .still
    | called operation named accepted _ found =>
      have spared := (Operation.cautious_action? found).run fails
      exact spared.mono fun prompts => named ▸ Catalog.asks_of_called prompts accepted
  exact ⟨spared, spared.keeps, Catalog.invoke_unknown, fun operation => Catalog.invoke_miscounted⟩

def Transcript.record : Transcript.console.Record where
  output state := state.output.toList
  prompts state := state.prompts.toList
  input := Transcript.input
  refused {line message state} refused := by
    simp only [console, write] at refused ⊢
    split at refused
    next full => rw [if_pos full]; exact ⟨rfl, rfl, rfl⟩
    next => cases refused
  prompted message state := by
    simp only [console, prompt]
    split
    · exact ⟨rfl, .inl rfl, .inl rfl⟩
    · refine ⟨rfl, .inr (by simp), ?_⟩
      cases state.input with
      | nil => exact .inl rfl
      | cons line rest => exact .inr ⟨line, rfl⟩

theorem failed_call_keeps_prompted :
    let world : World Transcript := ⟨{ mutable := [("xs", .array 0)] }, ⟨[[.text "a"]], []⟩,
      { input := ["abc", "7"], output := #["a"] }⟩
    let ended := (Interpreter.inMemory .standard 256).invoke "sodhNumber" [.text "n?"] world
    ended.1 = .error (.notANumber "abc".toList) ∧
      World.Keeps Transcript.record "sodhNumber" [.text "n?"] world ended.2 ∧
      ended.2.console.prompts = #["n?"] ∧ ended.2.console.input = ["7"] := by
  intro world ended
  have fails : ended = (.error (.notANumber "abc".toList), ended.2) := by rfl
  have keeps := (failed_call_keeps Transcript.console 256 _ _ fails).2.1 Transcript.record
  exact ⟨by rfl, keeps, by rfl, by rfl⟩

end LineScript
