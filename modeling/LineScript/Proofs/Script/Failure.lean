import LineScript.Proofs.Console
import LineScript.Proofs.Script.Layout
import LineScript.Proofs.Script.Truncation

/-! Failures of scripts. An error belongs to the line on which it was found, and whatever the
script did before that line is what the lines before it do by themselves. -/
namespace LineScript

namespace Assembly

open Layout (itemsFrom_cons resume)

def modeAfter (number : Nat) (mode : Mode) : List Text → Mode
  | [] => mode
  | raw :: rest => modeAfter (number + 1) (step number mode raw).1 rest

theorem itemsFrom_append {number : Nat} {mode : Mode} {front : List Text}
    (complete : modeAfter number mode front = .between) (back : List Text) :
    itemsFrom number mode (front ++ back) =
      itemsFrom number mode front ++ itemsFrom (number + front.length) .between back := by
  induction front generalizing number mode with
  | nil =>
    obtain rfl : mode = .between := complete
    rfl
  | cons raw rest ih =>
    have counted : number + (raw :: rest).length = number + 1 + rest.length := by
      rw [List.length_cons]
      omega
    rw [List.cons_append, itemsFrom_cons, itemsFrom_cons, resume, resume, ih complete, counted,
      List.append_assoc]

/-- The physical line with a given number, counted from `first` on, begins a logical line: no
comment or bracket is open before it, and it has content. -/
def Starts (first : Nat) (mode : Mode) (lines : List Text) (number : Nat) : Prop :=
  ∃ before raw after, lines = before ++ raw :: after ∧ number = first + before.length ∧
    modeAfter first mode before = .between ∧ isBlockMarker raw = false ∧ Scan.content raw ≠ []

theorem Starts.later {first number : Nat} {mode : Mode} {raw : Text} {lines : List Text}
    (starts : Starts (first + 1) (step first mode raw).1 lines number) :
    Starts first mode (raw :: lines) number := by
  obtain ⟨before, begun, after, split, counted, complete, unmarked, solid⟩ := starts
  refine ⟨raw :: before, begun, after, by rw [split, List.cons_append], ?_, complete, unmarked,
    solid⟩
  rw [counted, List.length_cons]
  omega

theorem Starts.le {first number : Nat} {mode : Mode} {lines : List Text}
    (starts : Starts first mode lines number) : first ≤ number := by
  obtain ⟨before, raw, after, _, rfl, _⟩ := starts
  exact Nat.le_add_right first before.length

theorem Starts.lt {first number : Nat} {mode : Mode} {lines : List Text}
    (starts : Starts first mode lines number) : number < first + lines.length := by
  obtain ⟨before, raw, after, rfl, rfl, _⟩ := starts
  simp only [List.length_append, List.length_cons]
  omega

inductive Opens (first : Nat) (raw : Text) (number : Nat) : Mode → Prop where
  | pending (line : Line) : line.number = number → Opens first raw number (.pending line)
  | between : number = first → isBlockMarker raw = false → Scan.content raw ≠ [] →
      Opens first raw number .between

theorem number_extend (line : Line) (raw : Text) : (extend line raw).number = line.number := by
  rw [extend]
  split <;> rfl

theorem opens_of_step {number : Nat} {mode : Mode} {raw : Text} {line : Line}
    (reached : (step number mode raw).1 = .pending line ∨ (step number mode raw).2 = some line) :
    Opens number raw line.number mode := by
  have settled {other : Line}
      (reached : (settle other).1 = .pending line ∨ (settle other).2 = some line) :
      other = line := by
    rw [settle] at reached
    split at reached <;> simpa using reached
  cases mode with
  | pending before =>
    have same := settled reached
    exact .pending before (by rw [← same, number_extend])
  | comment =>
    rw [step] at reached
    split at reached <;> simp at reached
  | between =>
    rw [step] at reached
    split at reached
    next => simp at reached
    next unmarked =>
      rw [Bool.not_eq_true] at unmarked
      split at reached
      next => simp at reached
      next solid =>
        have same := settled reached
        exact .between (by rw [← same]) unmarked solid

inductive Stems (first : Nat) (mode : Mode) (lines : List Text) (number : Nat) : Prop where
  | pending (line : Line) : mode = .pending line → line.number = number →
      Stems first mode lines number
  | starts : Starts first mode lines number → Stems first mode lines number

theorem Opens.stems {first number : Nat} {raw : Text} {mode : Mode}
    (opens : Opens first raw number mode) (lines : List Text) :
    Stems first mode (raw :: lines) number := by
  cases opens with
  | pending line same => exact .pending line rfl same
  | between here unmarked solid => exact .starts ⟨[], raw, lines, rfl, here, rfl, unmarked, solid⟩

theorem Stems.later {first number : Nat} {mode : Mode} {raw : Text} {lines : List Text}
    (stems : Stems (first + 1) (step first mode raw).1 lines number) :
    Stems first mode (raw :: lines) number := by
  cases stems with
  | pending line reached same => exact same ▸ (opens_of_step (.inl reached)).stems lines
  | starts starts => exact .starts starts.later

inductive Concerns (line : Line) : Item → Prop where
  | complete : Concerns line (.ok line)
  | unclosed : Concerns line (.error (unclosed line))

theorem exists_concerns {number : Nat} {mode : Mode} {lines : List Text} {item : Item}
    (member : item ∈ itemsFrom number mode lines) :
    ∃ line, Concerns line item ∧ Stems number mode lines line.number := by
  induction lines generalizing number mode with
  | nil =>
    cases mode with
    | pending line =>
      obtain rfl := List.mem_singleton.1 member
      exact ⟨line, .unclosed, .pending line rfl rfl⟩
    | between | comment => cases member
  | cons raw rest ih =>
    rw [itemsFrom_cons, resume, List.mem_append] at member
    rcases member with completed | member
    · rw [Option.mem_toList, Option.map_eq_some_iff] at completed
      obtain ⟨line, reached, rfl⟩ := completed
      exact ⟨line, .complete, (opens_of_step (.inr reached)).stems rest⟩
    · obtain ⟨line, concerns, stems⟩ := ih member
      exact ⟨line, concerns, stems.later⟩

theorem exists_starts {number : Nat} {lines : List Text} {item : Item}
    (member : item ∈ itemsFrom number .between lines) :
    ∃ line, Concerns line item ∧ Starts number .between lines line.number := by
  obtain ⟨line, concerns, stems⟩ := exists_concerns member
  cases stems with
  | pending _ reached => cases reached
  | starts starts => exact ⟨line, concerns, starts⟩

end Assembly

def Branch.lines (branch : Branch) : List Line := branch.line :: branch.body

namespace Script

open Assembly (Item Concerns Starts)

theorem branches_lines (indent : Nat) (line : Line) (clause : Clause) (items : List Item) :
    ((branches indent line clause items).1.flatMap Branch.lines).map .ok ++
      (branches indent line clause items).2 = .ok line :: items := by
  fun_induction branches indent line clause items with
  | case1 line items block branch | case2 line clause items block branch =>
    have whole := Assembly.takeBlock_append line.indent items
    simp [Branch.lines, branch, block, whole]
  | case3 line clause items block branch going next nextClause rest found others ih =>
    have whole := Assembly.takeBlock_append line.indent items
    rw [List.flatMap_cons, List.map_append, List.append_assoc, ih, ← eq_of_nextClause? found]
    simp [Branch.lines, branch, block, whole]

section

variable {catalog : Catalog} {limit : Nat}

theorem blames_of_located {α : Type} {line : Line} {action : Action Fault α} {error : ScriptError}
    (fails : (located line action).Fails error) : Blames error (.ok line) := by
  obtain ⟨fault, rfl⟩ := Action.fails_mapError fails
  exact .line rfl

theorem blames_of_isTaken {branch : Branch} {error : ScriptError}
    (fails : (isTaken catalog limit branch).Fails error) : Blames error (.ok branch.line) := by
  rw [isTaken] at fails
  split at fails
  · exact blames_of_located fails
  · exact blames_of_located fails
  · cases fails

def Blaming (body : BodyRunner) : Prop :=
  ∀ {line : Line} {lines : List Line} {error : ScriptError}, (body line lines).Fails error →
    ∃ item ∈ (line :: lines).map .ok, Blames error item

theorem blames_of_runBranches {body : BodyRunner} (blaming : Blaming body) {chain : List Branch}
    {error : ScriptError} (fails : (runBranches catalog limit body chain).Fails error) :
    ∃ item ∈ (chain.flatMap Branch.lines).map .ok, Blames error item := by
  induction chain with
  | nil => cases fails
  | cons branch rest ih =>
    rw [List.flatMap_cons, List.map_append]
    rcases Action.fails_bind fails with condition | ⟨taken, later⟩
    · exact ⟨.ok branch.line, by simp [Branch.lines], blames_of_isTaken condition⟩
    · cases taken with
      | true =>
        obtain ⟨item, member, blames⟩ := blaming later
        exact ⟨item, List.mem_append_left _ member, blames⟩
      | false =>
        obtain ⟨item, member, blames⟩ := ih later
        exact ⟨item, List.mem_append_right _ member, blames⟩

/-- Every error of a run belongs to one of its items. -/
theorem blames_of_runItems {body : BodyRunner} (blaming : Blaming body) {items : List Item}
    {error : ScriptError} (fails : (runItems catalog limit body items).Fails error) :
    ∃ item ∈ items, Blames error item := by
  induction size : items.length using Nat.strong_induction_on generalizing items with
  | _ size ih =>
    cases items with
    | nil =>
      rw [runItems_nil] at fails
      cases fails
    | cons item rest =>
      rw [List.length_cons] at size
      rcases runItems_cons body item with
        ⟨cause, blames, stops⟩ | ⟨line, rfl, runs⟩ | ⟨line, clause, rfl, runs⟩
      · rw [stops] at fails
        obtain rfl : cause = error := fails
        exact ⟨item, List.mem_cons_self, blames⟩
      · rw [runs] at fails
        rcases Action.fails_bind fails with here | ⟨_, later⟩
        · exact ⟨.ok line, List.mem_cons_self, blames_of_located here⟩
        · obtain ⟨item, member, blames⟩ := ih rest.length (by omega) later rfl
          exact ⟨item, List.mem_cons_of_mem _ member, blames⟩
      · have shorter := branches_length_le line.indent line clause rest
        rw [runs] at fails
        -- the items are the lines of the conditional and what comes after it
        rw [← branches_lines line.indent line clause rest]
        rcases Action.fails_bind fails with here | ⟨_, later⟩
        · obtain ⟨item, member, blames⟩ := blames_of_runBranches blaming here
          exact ⟨item, List.mem_append_left _ member, blames⟩
        · obtain ⟨item, member, blames⟩ := ih _ (by omega) later rfl
          exact ⟨item, List.mem_append_right _ member, blames⟩

theorem blaming_runBody (room : Nat) : Blaming (runBody catalog limit room) := by
  induction room with
  | zero =>
    intro line lines error fails
    cases fails
    exact ⟨_, List.mem_cons_self, .line rfl⟩
  | succ room ih =>
    intro line lines error fails
    obtain ⟨item, member, blames⟩ := blames_of_runItems ih fails
    exact ⟨item, List.mem_cons_of_mem _ member, blames⟩

end

theorem Blames.line_eq {error : ScriptError} {item : Item} {line : Line}
    (blames : Blames error item) (concerns : Concerns line item) :
    error.line = some line.number := by
  cases concerns with
  | complete =>
    cases blames with
    | line same => exact same
  | unclosed =>
    cases blames
    rfl

theorem items_firstLines {source : Text} {number : Nat}
    (starts : Starts 1 .between (physicalLines source) number) :
    ∃ back, Assembly.items source = Assembly.items (firstLines (number - 1) source) ++ back := by
  obtain ⟨before, raw, after, split, rfl, complete, _⟩ := starts
  have first : physicalLines (firstLines (1 + before.length - 1) source) = before := by
    rw [physicalLines_firstLines, split, Nat.add_sub_cancel_left, List.take_left]
  rw [Assembly.items, Assembly.items, first, split, Assembly.itemsFrom_append complete]
  exact ⟨_, rfl⟩

theorem exists_line_of_fails {catalog : Catalog} {limit : Nat} {source : Text}
    {error : ScriptError} (fails : (run catalog limit source).Fails error) :
    ∃ line, error.line = some line.number ∧
      (.ok line ∈ Assembly.items source ∨
        .error error ∈ Assembly.items source ∧ error = Assembly.unclosed line) ∧
      Starts 1 .between (physicalLines source) line.number := by
  obtain ⟨item, member, blames⟩ := blames_of_runItems (blaming_runBody limit) fails
  obtain ⟨line, concerns, starts⟩ := Assembly.exists_starts member
  refine ⟨line, blames.line_eq concerns, ?_, starts⟩
  cases concerns with
  | complete => exact .inl member
  | unclosed =>
    cases blames
    exact .inr ⟨member, rfl⟩

end Script

/-- A run that fails does so at the first physical line of a logical line. The lines before it,
run by themselves from the same start, end well, and what they write and ask is the beginning
of what the failing run wrote and asked. The text of a value that is reached from itself never
ends; a run that writes it out is taken to go on with what is left of it (`Heap.tree`). -/
theorem error_located (catalog : Catalog) (limit : Nat) (source : Text) (world : World Transcript)
    {error : ScriptError}
    (fails : ((Interpreter.inMemory catalog limit).run source world).1 = .error error) :
    ∃ line, error.line = some line.number ∧
      (.ok line ∈ Assembly.items source ∨
        .error error ∈ Assembly.items source ∧ error = Assembly.unclosed line) ∧
      Assembly.Starts 1 .between (physicalLines source) line.number ∧
      ∃ earlier,
        (Interpreter.inMemory catalog limit).run (firstLines (line.number - 1) source) world =
          (.ok (), earlier) ∧
        earlier.console.output.toList <+:
          ((Interpreter.inMemory catalog limit).run source world).2.console.output.toList ∧
        earlier.console.prompts.toList <+:
          ((Interpreter.inMemory catalog limit).run source world).2.console.prompts.toList := by
  obtain ⟨line, located, item, starts⟩ := Script.exists_line_of_fails (Action.fails_of_run fails)
  refine ⟨line, located, item, starts, ?_⟩
  obtain ⟨back, split⟩ := Script.items_firstLines starts
  have begins : (Script.run catalog limit (firstLines (line.number - 1) source)).Begins
      (Script.run catalog limit source) := by
    rw [Script.run, Script.run, split]
    exact Script.begins_runItems (Script.prolongable_runBody limit) _ back
  rcases begins.run (Prod.ext fails rfl) with same | ⟨_, earlier, rest, ends, onward⟩
  · -- An error of the first lines belongs to one of them, and none of them has this number.
    obtain ⟨other, elsewhere, _, before⟩ := Script.exists_line_of_fails (Action.fails_of_run same)
    have positive := starts.le
    have bound := before.lt
    rw [physicalLines_firstLines, List.length_take] at bound
    rw [located] at elsewhere
    have numbers := Option.some.inj elsewhere
    omega
  · have grows := Transcript.grows_run rest earlier
    have reached : rest.run Transcript.console earlier = _ := onward
    rw [reached] at grows
    exact ⟨earlier, ends, grows.output, grows.prompts⟩

def failingScript : Text :=
  "bhanai(\"a\")\nyadi 1:\n  bhanai(\"b\")\n  bhanai(x)\naru:\n  bhanai(1)\n".toList

theorem error_located_clause :
    ((Interpreter.inMemory .standard 256).run failingScript ⟨{}, {}, {}⟩).1 =
        .error ((Fault.undefinedVariable "x").located 4) ∧
      Assembly.Starts 1 .between (physicalLines failingScript) 4 ∧
      ∃ earlier,
        (Interpreter.inMemory .standard 256).run (firstLines 3 failingScript) ⟨{}, {}, {}⟩ =
          (.ok (), earlier) ∧
        earlier.console.output.toList <+: ((Interpreter.inMemory .standard 256).run failingScript
          ⟨{}, {}, {}⟩).2.console.output.toList := by
  have fails : ((Interpreter.inMemory .standard 256).run failingScript ⟨{}, {}, {}⟩).1 =
      .error ((Fault.undefinedVariable "x").located 4) := by decide +kernel
  obtain ⟨line, located, _, starts, earlier, ends, output, _⟩ :=
    error_located .standard 256 failingScript ⟨{}, {}, {}⟩ fails
  have fourth : line.number = 4 := (Option.some.inj located).symm
  rw [fourth] at starts ends
  exact ⟨fails, starts, earlier, ends, output⟩

end LineScript
