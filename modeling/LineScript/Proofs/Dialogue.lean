import LineScript.Proofs.Conduct
import LineScript.Proofs.Console

/-! The dialogue of a script with its console. The next request depends on the answers before it
and on nothing else of the console, and the first refusal is the end of the dialogue. -/
namespace LineScript

def Exchange.request : Exchange → Request
  | .write line _ => .write line
  | .prompt message _ => .prompt message

/-- A console that keeps a record of all exchanges and otherwise behaves as it did. -/
def Console.recorded {σ : Type} (console : Console σ) : Console (σ × List Exchange) where
  write line state :=
    let (answer, next) := console.write line state.1
    (answer, next, state.2 ++ [.write line answer])
  prompt message state :=
    let (answer, next) := console.prompt message state.1
    (answer, next, state.2 ++ [.prompt message answer])

def World.on {σ τ : Type} (world : World σ) (state : τ) : World τ :=
  ⟨world.bindings, world.heap, state⟩

namespace Interpreter

variable {σ τ : Type}

def on (interpreter : Interpreter σ) (console : Console τ) : Interpreter τ :=
  ⟨console, interpreter.catalog, interpreter.limit⟩

/-- The exchanges of a run with the console, in their order. -/
def dialogue (interpreter : Interpreter σ) (source : Text) (world : World σ) : List Exchange :=
  ((interpreter.on interpreter.console.recorded).run source
    (world.on (world.console, []))).2.console.2

end Interpreter

/-- Two dialogues with a common beginning, then the same request and different answers. -/
def Diverges (first second : List Exchange) : Prop :=
  ∃ common one other restFirst restSecond,
    first = common ++ one :: restFirst ∧ second = common ++ other :: restSecond ∧
      one.request = other.request ∧ one ≠ other

theorem Diverges.prepend {first second : List Exchange} (diverges : Diverges first second)
    (exchanges : List Exchange) : Diverges (exchanges ++ first) (exchanges ++ second) := by
  obtain ⟨common, one, other, restFirst, restSecond, rfl, rfl, same, differ⟩ := diverges
  refine ⟨exchanges ++ common, one, other, restFirst, restSecond, ?_, ?_, same, differ⟩
  · rw [List.append_assoc]
  · rw [List.append_assoc]

def Request.Silent (request : Request) : Prop := ∀ answer, request.exchange? answer = none

theorem Request.silent_or (request : Request) :
    request.Silent ∨ (∃ line, request = .write line) ∨ ∃ message, request = .prompt message := by
  cases request with
  | write line => exact .inr (.inl ⟨line, rfl⟩)
  | prompt message => exact .inr (.inr ⟨message, rfl⟩)
  | _ => exact .inl fun _ => rfl

namespace World

variable {σ τ : Type}

theorem rebind_on (world : World σ) (state : τ) (outcome : Except Fault Bindings) :
    (world.on state).rebind outcome =
      ((world.rebind outcome).1, (world.rebind outcome).2.on state) := by
  cases outcome <;> rfl

theorem answer_on {request : Request} (silent : request.Silent) (first : Console σ)
    (second : Console τ) (world : World σ) (state : τ) :
    (world.on state).answer second request =
      ((world.answer first request).1, (world.answer first request).2.on state) := by
  cases request with
  | setVariable name value => exact rebind_on world state _
  | setConstant name value => exact rebind_on world state _
  | write line => cases silent (.ok ())
  | prompt message => cases silent (.ok none)
  | _ => rfl

theorem console_answer {request : Request} (silent : request.Silent) (console : Console σ)
    (world : World σ) : (world.answer console request).2.console = world.console := by
  have kept := answer_on silent console console world world.console
  have same := congrArg (fun result => result.2.console) kept
  exact same

/-- Two consoles give a request the same answer and effect, or they answer it in different
ways. -/
theorem answer_on_or (request : Request) (first : Console σ) (second : Console τ)
    (world : World σ) (state : τ) :
    (∃ later, (world.on state).answer second request =
        ((world.answer first request).1, (world.answer first request).2.on later)) ∨
      ∃ one other, request.exchange? (world.answer first request).1 = some one ∧
        request.exchange? ((world.on state).answer second request).1 = some other ∧
          one.request = other.request ∧ one ≠ other := by
  rcases request.silent_or with silent | ⟨line, rfl⟩ | ⟨message, rfl⟩
  · exact .inl ⟨state, answer_on silent first second world state⟩
  · by_cases same : (second.write line state).1 = (first.write line world.console).1
    · exact .inl ⟨(second.write line state).2, Prod.ext same rfl⟩
    · refine .inr ⟨.write line _, .write line _, rfl, rfl, rfl, fun equal => ?_⟩
      exact same (Exchange.write.inj equal).2.symm
  · by_cases same : (second.prompt message state).1 = (first.prompt message world.console).1
    · exact .inl ⟨(second.prompt message state).2, Prod.ext same rfl⟩
    · refine .inr ⟨.prompt message _, .prompt message _, rfl, rfl, rfl, fun equal => ?_⟩
      exact same (Exchange.prompt.inj equal).2.symm

end World

namespace Action

variable {ε α σ τ : Type}

def exchanges (console : Console σ) : Action ε α → World σ → List Exchange
  | done _, _ | fail _, _ => []
  | ask request next, world =>
    let (answer, later) := world.answer console request
    (request.exchange? answer).toList ++ (next answer).exchanges console later

theorem answer_recorded (console : Console σ) (world : World σ) (past : List Exchange)
    (request : Request) :
    (world.on (world.console, past)).answer console.recorded request =
      ((world.answer console request).1, (world.answer console request).2.on
        ((world.answer console request).2.console,
          past ++ (request.exchange? (world.answer console request).1).toList)) := by
  rcases request.silent_or with silent | ⟨line, rfl⟩ | ⟨message, rfl⟩
  · rw [World.answer_on silent console, silent, World.console_answer silent, Option.toList_none,
      List.append_nil]
  · rfl
  · rfl

theorem run_recorded (console : Console σ) (action : Action ε α) (world : World σ)
    (past : List Exchange) :
    action.run console.recorded (world.on (world.console, past)) =
      ((action.run console world).1, (action.run console world).2.on
        ((action.run console world).2.console, past ++ action.exchanges console world)) := by
  induction action generalizing world past with
  | done value | fail error => simp [run, exchanges]
  | ask request next ih =>
    simp only [run, exchanges, answer_recorded, ih, List.append_assoc]

/-- On two consoles an action has the same exchanges, result and effects, or the consoles
answer one and the same request in different ways. -/
theorem exchanges_on (action : Action ε α) (first : Console σ) (second : Console τ)
    (world : World σ) (state : τ) :
    (action.exchanges second (world.on state) = action.exchanges first world ∧
        ∃ final, action.run second (world.on state) =
          ((action.run first world).1, (action.run first world).2.on final)) ∨
      Diverges (action.exchanges first world) (action.exchanges second (world.on state)) := by
  -- as long as the answers agree, the two worlds differ in the console's state only
  induction action generalizing world state with
  | done value | fail error => exact .inl ⟨rfl, state, rfl⟩
  | ask request next ih =>
    rcases World.answer_on_or request first second world state with
      ⟨later, same⟩ | ⟨one, other, here, there, asked, differ⟩
    · simp only [exchanges, run, same]
      rcases ih _ (world.answer first request).2 later with ⟨equal, final, ends⟩ | diverges
      · exact .inl ⟨by rw [equal], final, ends⟩
      · exact .inr (diverges.prepend _)
    · simp only [exchanges, here, there]
      exact .inr ⟨[], one, other, _, _, rfl, rfl, asked, differ⟩

/-- After a refusal an orderly action makes no more requests, and its error is final. -/
theorem Orderly.eq_nil_of_refused {final : ε → Prop} {action : Action ε α}
    (orderly : action.Orderly final) {console : Console σ} {world : World σ}
    {before after : List Exchange} {exchange : Exchange}
    (split : action.exchanges console world = before ++ exchange :: after)
    (refused : exchange.isRefused) :
    after = [] ∧ ∃ error, (action.run console world).1 = .error error ∧ final error := by
  induction orderly generalizing world before with
  | done value | fail error => simp [exchanges] at split
  | @ask request next _ _ stops ih =>
    simp only [exchanges] at split
    cases talk : request.exchange? (world.answer console request).1 with
    | none =>
      rw [talk] at split
      exact ih _ split
    | some first =>
      rw [talk] at split
      cases before with
      | nil =>
        obtain ⟨rfl, rest⟩ := List.cons.inj split
        obtain ⟨error, fails, isFinal⟩ := stops (world.answer console request).1 (by simpa [talk])
        rw [fails] at rest
        refine ⟨rest.symm, error, ?_, isFinal⟩
        simp only [run, fails]
      | cons earlier before => exact ih _ (List.cons.inj split).2

end Action

namespace Transcript

/-- A console with more input after what it has. -/
def followed (record : Transcript) (more : List String) : Transcript :=
  { record with input := record.input ++ more }

theorem write_followed (more : List String) (line : String) (record : Transcript) :
    write line (record.followed more) =
      ((write line record).1, (write line record).2.followed more) := by
  by_cases spent : record.writesLeft = some 0
  · simp [write, followed, spent]
  · simp [write, followed, spent]

theorem prompt_followed (more : List String) (message : String) {record : Transcript}
    (answered : (prompt message record).1 ≠ .ok none) :
    prompt message (record.followed more) =
      ((prompt message record).1, (prompt message record).2.followed more) := by
  by_cases spent : record.promptsLeft = some 0
  · simp [prompt, followed, spent]
  · cases input : record.input with
    | nil => simp [prompt, spent, input] at answered
    | cons first rest => simp [prompt, followed, spent, input]

theorem answer_followed (more : List String) (world : World Transcript) {request : Request}
    (answered : ∀ message,
      request.exchange? (world.answer console request).1 ≠ some (.prompt message (.ok none))) :
    (world.on (world.console.followed more)).answer console request =
      ((world.answer console request).1, (world.answer console request).2.on
        ((world.answer console request).2.console.followed more)) := by
  rcases request.silent_or with silent | ⟨line, rfl⟩ | ⟨message, rfl⟩
  · rw [World.answer_on silent console, World.console_answer silent]
  · have same := write_followed more line world.console
    simp only [World.answer, World.on, console, same]
  · have given : (prompt message world.console).1 ≠ .ok none := fun ended =>
      answered message (congrArg (fun answer => some (Exchange.prompt message answer)) ended)
    have same := prompt_followed more message given
    simp only [World.answer, World.on, console, same]

/-- An action that never meets the end of input does the same when more input follows, and
leaves that input as it is. -/
theorem run_followed {ε α : Type} (more : List String) (action : Action ε α)
    (world : World Transcript)
    (answered : ∀ message, .prompt message (.ok none) ∉ action.exchanges console world) :
    action.exchanges console (world.on (world.console.followed more)) =
        action.exchanges console world ∧
      action.run console (world.on (world.console.followed more)) =
        ((action.run console world).1, (action.run console world).2.on
          ((action.run console world).2.console.followed more)) := by
  induction action generalizing world with
  | done value | fail error => exact ⟨rfl, rfl⟩
  | ask request next ih =>
    simp only [Action.exchanges, List.mem_append, not_or, Option.mem_toList] at answered
    have first := answer_followed more world fun message => (answered message).1
    have later := ih _ (world.answer console request).2 fun message => (answered message).2
    simp only [Action.exchanges, Action.run, first]
    exact ⟨by rw [later.1], later.2⟩

end Transcript

theorem Interpreter.dialogue_eq {σ : Type} (interpreter : Interpreter σ) (source : Text)
    (world : World σ) :
    interpreter.dialogue source world =
      (Script.run interpreter.catalog interpreter.limit source).exchanges interpreter.console
        world := by
  have recorded := Action.run_recorded interpreter.console
    (Script.run interpreter.catalog interpreter.limit source) world []
  have record := congrArg (fun result => result.2.console.2) recorded
  exact record

/-- A run depends on its console through the answers that it has received and on nothing else.

On two consoles, and from the same bindings and heap, the dialogues are the same and so are the
result and the bindings and heap in the end, or the first difference between the dialogues is
that one and the same request was answered in different ways. A refusal, be it an error of the
console or the end of input, is the last exchange, and the run fails with a console error. On a
console in memory a run that does not meet the end of input is the same with more input, which
it leaves unread.

The text of a value that is reached from itself never ends; a run that writes it out is taken to
go on with what is left of it (`Heap.tree`). -/
theorem run_depends_on_answers {σ τ : Type} (interpreter : Interpreter σ) (console : Console τ)
    (source : Text) (world : World σ) (state : τ) (record : Transcript) (more : List String) :
    ((interpreter.dialogue source world =
            (interpreter.on console).dialogue source (world.on state) ∧
          (interpreter.run source world).1 =
            ((interpreter.on console).run source (world.on state)).1 ∧
          (interpreter.run source world).2.bindings =
            ((interpreter.on console).run source (world.on state)).2.bindings ∧
          (interpreter.run source world).2.heap =
            ((interpreter.on console).run source (world.on state)).2.heap) ∨
        Diverges (interpreter.dialogue source world)
          ((interpreter.on console).dialogue source (world.on state))) ∧
      (∀ before exchange after,
        interpreter.dialogue source world = before ++ exchange :: after → exchange.isRefused →
          after = [] ∧
            ∃ error, (interpreter.run source world).1 = .error error ∧ error.code = .console) ∧
      ((∀ message, .prompt message (.ok none) ∉
            (interpreter.on Transcript.console).dialogue source (world.on record)) →
          (interpreter.on Transcript.console).dialogue source (world.on (record.followed more)) =
              (interpreter.on Transcript.console).dialogue source (world.on record) ∧
            ∃ result later,
              (interpreter.on Transcript.console).run source (world.on record) = (result, later) ∧
                (interpreter.on Transcript.console).run source (world.on (record.followed more)) =
                  (result, later.on (later.console.followed more))) := by
  refine ⟨?_, ?_, ?_⟩
  · rw [Interpreter.dialogue_eq, Interpreter.dialogue_eq]
    rcases Action.exchanges_on (Script.run interpreter.catalog interpreter.limit source)
      interpreter.console console world state with ⟨same, final, ends⟩ | diverges
    · have reached : (interpreter.on console).run source (world.on state) =
          ((interpreter.run source world).1, (interpreter.run source world).2.on final) := ends
      rw [reached]
      exact .inl ⟨same.symm, rfl, rfl, rfl⟩
    · exact .inr diverges
  · intro before exchange after split refused
    rw [Interpreter.dialogue_eq] at split
    exact (Script.orderly_run interpreter.catalog interpreter.limit source).eq_nil_of_refused split
      refused
  · intro answered
    rw [Interpreter.dialogue_eq] at answered
    have same := Transcript.run_followed more _ (world.on record) answered
    rw [Interpreter.dialogue_eq, Interpreter.dialogue_eq]
    exact ⟨same.1, _, _, rfl, same.2⟩

def repeatingScript : Text :=
  "bhanai(sodhString(\"Name?\"))\nbhanai(sodhString(\"More?\"))".toList

theorem run_depends_on_answers_repeating :
    Diverges
        ((Interpreter.inMemory .standard 256).dialogue repeatingScript
          ⟨{}, {}, { input := ["A"] }⟩)
        ((Interpreter.inMemory .standard 256).dialogue repeatingScript ⟨{}, {}, {}⟩) ∧
      (∃ error, ((Interpreter.inMemory .standard 256).run repeatingScript
          ⟨{}, {}, { input := ["A"] }⟩).1 = .error error ∧ error.code = .console) ∧
      ∃ result later,
        (Interpreter.inMemory .standard 256).run repeatingScript
            ⟨{}, {}, { input := ["A", "B"] }⟩ = (result, later) ∧
          (Interpreter.inMemory .standard 256).run repeatingScript
            ⟨{}, {}, { input := ["A", "B", "C"] }⟩ =
              (result, later.on (later.console.followed ["C"])) := by
  have ended : (Interpreter.inMemory .standard 256).dialogue repeatingScript ⟨{}, {}, {}⟩ =
      [.prompt "Name?" (.ok none)] := by decide +kernel
  have once : (Interpreter.inMemory .standard 256).dialogue repeatingScript
      ⟨{}, {}, { input := ["A"] }⟩ =
      [.prompt "Name?" (.ok (some "A")), .write "A" (.ok ())] ++
        [.prompt "More?" (.ok none)] := by decide +kernel
  have twice : (Interpreter.inMemory .standard 256).dialogue repeatingScript
      ⟨{}, {}, { input := ["A", "B"] }⟩ =
      [.prompt "Name?" (.ok (some "A")), .write "A" (.ok ()), .prompt "More?" (.ok (some "B")),
        .write "B" (.ok ())] := by decide +kernel
  obtain ⟨parts, refused, followed⟩ := run_depends_on_answers (Interpreter.inMemory .standard 256)
    Transcript.console repeatingScript ⟨{}, {}, { input := ["A"] }⟩ {}
    { input := ["A", "B"] } ["C"]
  refine ⟨parts.resolve_left fun same => ?_, (refused _ _ _ once rfl).2, (followed ?_).2⟩
  · have equal := once.symm.trans (same.1.trans ended)
    simp at equal
  · intro message member
    have listed := twice ▸ member
    simp at listed

end LineScript
