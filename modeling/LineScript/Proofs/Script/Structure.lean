import LineScript.Interpreter
import LineScript.Proofs.Action
import LineScript.Proofs.Script.Lines

/-! Structured scripts. A block is a sequence of statements and conditionals, and each clause of
a conditional has a block of its own. The meaning of a block is made from the meanings of
its parts; written down line by line, with the blocks of clauses indented, it runs just
so. -/
namespace LineScript.Structure

open Assembly (Item itemsFrom takeBlock)
open Script (branches nextClause? runBody runBranches runItems runStep steps)
open Text (isAllBlank Tight)

structure Sentence (kind : LineKind) where
  text : Text
  tight : Tight text
  bare : Scan.stripComment text = text
  complete : literalDepth text ≤ 0
  unmarked : Text.startsWith blockMarker text = false
  reads : LineKind.of text = .ok kind

mutual

inductive Block where
  | nil
  | statement (line : Sentence .statement) (rest : Block)
  | conditional (condition : Text) (line : Sentence (.clause (.when condition))) (body : Block)
      (others : Chain) (rest : Block)

inductive Chain where
  | done
  | orWhen (condition : Text) (line : Sentence (.clause (.orWhen condition))) (body : Block)
      (others : Chain)
  | otherwise (line : Sentence (.clause .otherwise)) (body : Block)

end

mutual

def Block.size : Block → Nat
  | .nil => 0
  | .statement _ rest => rest.size + 1
  | .conditional _ _ body others rest => body.size + others.size + rest.size + 1

def Chain.size : Chain → Nat
  | .done => 0
  | .orWhen _ _ body others => body.size + others.size + 1
  | .otherwise _ body => body.size + 1

end

mutual

/-- How deep conditionals stand in one another. -/
def Block.nesting : Block → Nat
  | .nil => 0
  | .statement _ rest => rest.nesting
  | .conditional _ _ body others rest =>
    max (body.nesting + 1) (max others.nesting rest.nesting)

def Chain.nesting : Chain → Nat
  | .done => 0
  | .orWhen _ _ body others => max (body.nesting + 1) others.nesting
  | .otherwise _ body => body.nesting + 1

end

section

variable (catalog : Catalog) (limit : Nat)

/-- Takes the first of two ways if the condition on a line holds, and else the second. -/
def choose (number : Nat) (condition : Text) (first second : Action ScriptError Unit) :
    Action ScriptError Unit := do
  let value ← (Expression.evaluate catalog limit condition).mapError (·.located number)
  if value.isTruthy then first else second

mutual

/-- Runs a block whose first line has the given number. -/
def Block.meaning (number : Nat) : Block → Action ScriptError Unit
  | .nil => return
  | .statement line rest => do
    let _ ← (Statement.execute catalog limit line.text).mapError (·.located number)
    rest.meaning (number + 1)
  | .conditional condition _ body others rest => do
    choose catalog limit number condition (body.meaning (number + 1))
      (others.meaning (number + 1 + body.size))
    rest.meaning (number + 1 + body.size + others.size)

/-- Runs the first of the clauses whose condition holds, if any. -/
def Chain.meaning (number : Nat) : Chain → Action ScriptError Unit
  | .done => return
  | .orWhen condition _ body others =>
    choose catalog limit number condition (body.meaning (number + 1))
      (others.meaning (number + 1 + body.size))
  | .otherwise _ body => body.meaning (number + 1)

end

end

structure Row where
  indent : Text
  text : Text

def Row.raw (row : Row) : Text := row.indent ++ row.text

/-- An indentation of blanks up to a column. -/
def Reaches (column : Nat) (indent : Text) : Prop := isAllBlank indent ∧ indent.length = column

mutual

/-- The lines of a block. Its statements and conditionals begin at one column, and the
blocks of clauses at any columns further in. -/
inductive Block.Rendered : Nat → Block → List Row → Prop where
  | nil {column : Nat} : Block.Rendered column .nil []
  | statement {column : Nat} {indent : Text} {line : Sentence .statement} {rest : Block}
      {rows : List Row} : Reaches column indent → rest.Rendered column rows →
        Block.Rendered column (.statement line rest) (⟨indent, line.text⟩ :: rows)
  | conditional {column inner : Nat} {indent condition : Text}
      {line : Sentence (.clause (.when condition))} {body : Block} {others : Chain} {rest : Block}
      {inside chain rows : List Row} : Reaches column indent → column < inner →
        body.Rendered inner inside → others.Rendered column chain → rest.Rendered column rows →
          Block.Rendered column (.conditional condition line body others rest)
            (⟨indent, line.text⟩ :: (inside ++ (chain ++ rows)))

inductive Chain.Rendered : Nat → Chain → List Row → Prop where
  | done {column : Nat} : Chain.Rendered column .done []
  | orWhen {column inner : Nat} {indent condition : Text}
      {line : Sentence (.clause (.orWhen condition))} {body : Block} {others : Chain}
      {inside chain : List Row} : Reaches column indent → column < inner →
        body.Rendered inner inside → others.Rendered column chain →
          Chain.Rendered column (.orWhen condition line body others)
            (⟨indent, line.text⟩ :: (inside ++ chain))
  | otherwise {column inner : Nat} {indent : Text} {line : Sentence (.clause .otherwise)}
      {body : Block} {inside : List Row} : Reaches column indent → column < inner →
        body.Rendered inner inside →
          Chain.Rendered column (.otherwise line body) (⟨indent, line.text⟩ :: inside)

end

def numbered (number : Nat) : List Row → List Line
  | [] => []
  | row :: rows => ⟨number, row.indent.length, row.text⟩ :: numbered (number + 1) rows

theorem numbered_append (number : Nat) (first second : List Row) :
    numbered number (first ++ second) =
      numbered number first ++ numbered (number + first.length) second := by
  induction first generalizing number with
  | nil => rfl
  | cons row rows ih =>
    rw [List.cons_append, numbered, ih, numbered, List.length_cons, Nat.add_right_comm]
    rfl

mutual

theorem Block.Rendered.length_eq {column : Nat} {block : Block} {rows : List Row} :
    block.Rendered column rows → rows.length = block.size
  | .nil => rfl
  | .statement _ rest => by rw [List.length_cons, rest.length_eq, Block.size]
  | .conditional _ _ body others rest => by
    simp only [List.length_cons, List.length_append, body.length_eq, others.length_eq,
      rest.length_eq, Block.size]
    omega

theorem Chain.Rendered.length_eq {column : Nat} {chain : Chain} {rows : List Row} :
    chain.Rendered column rows → rows.length = chain.size
  | .done => rfl
  | .orWhen _ _ body others => by
    simp only [List.length_cons, List.length_append, body.length_eq, others.length_eq, Chain.size]
  | .otherwise _ _ body => by rw [List.length_cons, body.length_eq, Chain.size]

end

structure Row.Stands (column : Nat) (row : Row) : Prop where
  column_le : column ≤ row.indent.length
  step_eq (number : Nat) : Assembly.step number .between row.raw =
    (.between, some ⟨number, row.indent.length, row.text⟩)

theorem Row.Stands.mono {column inner : Nat} {row : Row} (stands : row.Stands inner)
    (further : column < inner) : row.Stands column :=
  ⟨Nat.le_trans further.le stands.column_le, stands.step_eq⟩

theorem Sentence.stands {kind : LineKind} (line : Sentence kind) {column : Nat} {indent : Text}
    (reaches : Reaches column indent) : Row.Stands column ⟨indent, line.text⟩ := by
  refine ⟨reaches.2.ge, fun number => ?_⟩
  have content : Scan.content (indent ++ (line.text ++ [])) = line.text := by
    rw [List.append_nil, Scan.content_gap reaches.1, Scan.content_text line.tight line.bare]
  have stepped :=
    step_between_of_content reaches.1 line.tight (by simp) line.unmarked content number
  rw [List.append_nil] at stepped
  rw [Row.raw, stepped, Assembly.settle, Assembly.isOpen,
    decide_eq_false (Int.not_lt.2 line.complete)]
  rfl

mutual

theorem Block.Rendered.stands {column : Nat} {block : Block} {rows : List Row} :
    block.Rendered column rows → ∀ row ∈ rows, row.Stands column
  | .nil => by simp
  | @Block.Rendered.statement _ _ line _ _ reaches rest => by
    rw [List.forall_mem_cons]
    exact ⟨line.stands reaches, rest.stands⟩
  | @Block.Rendered.conditional _ _ _ _ line _ _ _ _ _ _ reaches further body others rest => by
    rw [List.forall_mem_cons, List.forall_mem_append, List.forall_mem_append]
    exact ⟨line.stands reaches, fun row member => (body.stands row member).mono further,
      others.stands, rest.stands⟩

theorem Chain.Rendered.stands {column : Nat} {chain : Chain} {rows : List Row} :
    chain.Rendered column rows → ∀ row ∈ rows, row.Stands column
  | .done => by simp
  | @Chain.Rendered.orWhen _ _ _ _ line _ _ _ _ reaches further body others => by
    rw [List.forall_mem_cons, List.forall_mem_append]
    exact ⟨line.stands reaches, fun row member => (body.stands row member).mono further,
      others.stands⟩
  | @Chain.Rendered.otherwise _ _ _ line _ _ reaches further body => by
    rw [List.forall_mem_cons]
    exact ⟨line.stands reaches, fun row member => (body.stands row member).mono further⟩

end

theorem numbered_deeper {column inner : Nat} (further : column < inner) {rows : List Row}
    (stands : ∀ row ∈ rows, row.Stands inner) (number : Nat) :
    ∀ line ∈ numbered number rows, column < line.indent := by
  induction rows generalizing number with
  | nil => simp [numbered]
  | cons row rows ih =>
    rw [List.forall_mem_cons] at stands
    rw [numbered, List.forall_mem_cons]
    exact ⟨Nat.lt_of_lt_of_le further stands.1.column_le, ih stands.2 (number + 1)⟩

theorem Block.Rendered.deeper {column inner : Nat} (further : column < inner) {block : Block}
    {rows : List Row} (rendered : block.Rendered inner rows) (number : Nat) :
    ∀ line ∈ numbered number rows, column < line.indent :=
  numbered_deeper further rendered.stands number

theorem itemsFrom_rows {column : Nat} {rows : List Row} (stands : ∀ row ∈ rows, row.Stands column)
    (number : Nat) :
    itemsFrom number .between (rows.map Row.raw) = (numbered number rows).map .ok := by
  induction rows generalizing number with
  | nil => rfl
  | cons row rows ih =>
    rw [List.forall_mem_cons] at stands
    rw [List.map_cons, itemsFrom, stands.1.step_eq, numbered, List.map_cons, ← ih stands.2]

structure Ends (column : Nat) (items : List Item) : Prop where
  block : takeBlock column items = ([], items)
  clause : nextClause? column items = none

theorem takeBlock_at {column : Nat} {line : Line} (here : line.indent = column)
    (items : List Item) : takeBlock column (.ok line :: items) = ([], .ok line :: items) := by
  rw [takeBlock, if_neg (by omega)]

theorem takeBlock_deeper {column : Nat} {lines : List Line}
    (deeper : ∀ line ∈ lines, column < line.indent) {rest : List Item}
    (stops : takeBlock column rest = ([], rest)) :
    takeBlock column (lines.map .ok ++ rest) = (lines, rest) := by
  induction lines with
  | nil => exact stops
  | cons line lines ih =>
    rw [List.forall_mem_cons] at deeper
    rw [List.map_cons, List.cons_append, takeBlock, if_pos deeper.1, ih deeper.2]

theorem ends_nil (column : Nat) : Ends column [] := ⟨rfl, rfl⟩

theorem Block.Rendered.ends {column : Nat} {block : Block} {rows : List Row}
    (rendered : block.Rendered column rows) (number : Nat) :
    Ends column ((numbered number rows).map .ok) := by
  cases rendered with
  | nil => exact ends_nil column
  | @statement _ _ line _ _ reaches _ =>
    rw [numbered, List.map_cons]
    refine ⟨takeBlock_at reaches.2 _, ?_⟩
    simp only [nextClause?, line.reads]
    split <;> rfl
  | @conditional _ _ _ _ line _ _ _ _ _ _ reaches =>
    rw [numbered, List.map_cons]
    refine ⟨takeBlock_at reaches.2 _, ?_⟩
    simp only [nextClause?, line.reads]
    split <;> rfl

section

variable {column : Nat} {line : Line} {clause : Clause} {items rest : List Item} {body : List Line}
  (block : takeBlock line.indent items = (body, rest))

include block

theorem branches_otherwise :
    branches column line .otherwise items = ([⟨line, .otherwise, body⟩], rest) := by
  rw [branches, block]
  rfl

theorem branches_none (going : clause ≠ .otherwise) (last : nextClause? column rest = none) :
    branches column line clause items = ([⟨line, clause, body⟩], rest) := by
  rw [branches, block]
  simp only [going, if_false]
  split
  next => rfl
  next found => rw [last] at found; cases found

theorem branches_some (going : clause ≠ .otherwise) {next : Line} {nextClause : Clause}
    {later : List Item} (found : nextClause? column rest = some (next, nextClause, later)) :
    branches column line clause items =
      (⟨line, clause, body⟩ :: (branches column next nextClause later).1,
        (branches column next nextClause later).2) := by
  rw [branches, block]
  simp only [going, if_false]
  split
  next missing => rw [found] at missing; cases missing
  next here => rw [found] at here; cases here; rfl

end

theorem nextClause?_eq {column : Nat} {line : Line} {clause : Clause} (here : line.indent = column)
    (reads : LineKind.of line.text = .ok (.clause clause))
    (further : ∀ condition, clause ≠ .when condition) (items : List Item) :
    nextClause? column (.ok line :: items) = some (line, clause, items) := by
  rw [nextClause?, if_pos here, reads]
  cases clause with
  | when condition => exact absurd rfl (further condition)
  | orWhen | otherwise => rfl

theorem map_numbered_append (number : Nat) (first second : List Row) :
    (numbered number (first ++ second)).map (.ok : Line → Item) =
      (numbered number first).map .ok ++ (numbered (number + first.length) second).map .ok := by
  rw [numbered_append, List.map_append]

section

variable (catalog : Catalog) (limit : Nat)

theorem runBranches_cons {room number indent : Nat} {text condition : Text} {clause : Clause}
    (conditional : clause = .when condition ∨ clause = .orWhen condition) (body : List Line)
    (others : List Branch) :
    runBranches catalog limit (runBody catalog limit (room + 1))
        (⟨⟨number, indent, text⟩, clause, body⟩ :: others) =
      choose catalog limit number condition
        (runItems catalog limit (runBody catalog limit room) (body.map .ok))
        (runBranches catalog limit (runBody catalog limit (room + 1)) others) := by
  rcases conditional with rfl | rfl <;>
    simp only [Script.runBranches, Script.isTaken, Script.located, Action.mapError_bind,
      bind_assoc] <;>
    rfl

theorem runBranches_otherwise {room : Nat} (line : Line) (body : List Line)
    (others : List Branch) :
    runBranches catalog limit (runBody catalog limit (room + 1))
        (⟨line, .otherwise, body⟩ :: others) =
      runItems catalog limit (runBody catalog limit room) (body.map .ok) := rfl

section

variable {catalog limit} {body : Script.BodyRunner} {line : Line}

theorem runItems_statement (reads : LineKind.of line.text = .ok .statement) (items : List Item) :
    runItems catalog limit body (.ok line :: items) =
      (do let _ ← Script.located line (Statement.execute catalog limit line.text)
          runItems catalog limit body items) := by
  rw [runItems, steps, reads, List.forM, runStep, bind_assoc]
  rfl

theorem runItems_conditional {condition : Text}
    (reads : LineKind.of line.text = .ok (.clause (.when condition))) {items rest : List Item}
    {chain : List Branch}
    (cut : branches line.indent line (.when condition) items = (chain, rest)) :
    runItems catalog limit body (.ok line :: items) =
      (do runBranches catalog limit body chain
          runItems catalog limit body rest) := by
  rw [runItems, steps, reads]
  simp only [cut]
  rfl

end

mutual

theorem Block.Rendered.runItems {column : Nat} {block : Block} {rows : List Row} {room : Nat}
    (number : Nat) (deep : block.nesting ≤ room) : block.Rendered column rows →
      runItems catalog limit (runBody catalog limit room) ((numbered number rows).map .ok) =
        block.meaning catalog limit number
  | .nil => by
    rw [numbered, Block.meaning, Script.runItems, List.map_nil, steps]
    rfl
  | @Block.Rendered.statement _ indent line rest rows reaches rendered => by
    have within : rest.nesting ≤ room := by simpa only [Block.nesting] using deep
    have later := rendered.runItems (number + 1) within
    rw [numbered, Block.meaning, List.map_cons, runItems_statement line.reads, later]
    rfl
  | @Block.Rendered.conditional _ _ indent condition line body others rest inside chain rows
      reaches further bodyRendered othersRendered rendered => by
    simp only [Block.nesting, Nat.max_le] at deep
    obtain ⟨room, rfl⟩ : ∃ inner, room = inner + 1 := ⟨room - 1, by omega⟩
    obtain ⟨_, rfl⟩ := reaches
    have nested := bodyRendered.runItems (number + 1) (Nat.le_of_succ_le_succ deep.1)
    have later := rendered.runItems (number + 1 + body.size + others.size) deep.2.2
    have going : Clause.when condition ≠ .otherwise := by simp
    obtain ⟨branches, cut, runs⟩ := othersRendered.runBranches (number + 1 + body.size) deep.2.1
      (rendered.ends (number + 1 + body.size + others.size))
      (rfl : (⟨number, indent.length, line.text⟩ : Line).indent = _) going
      (bodyRendered.deeper further (number + 1))
    rw [numbered, Block.meaning, List.map_cons, map_numbered_append, map_numbered_append,
      bodyRendered.length_eq, othersRendered.length_eq,
      runItems_conditional line.reads cut, later, runBranches_cons catalog limit (.inl rfl),
      nested, runs]

/-- The clauses after a first one are the further branches of one conditional, and they run as
their meaning says. -/
theorem Chain.Rendered.runBranches {column : Nat} {chain : Chain} {rows : List Row} {room : Nat}
    (number : Nat) (deep : chain.nesting ≤ room) {rest : List Item} (ends : Ends column rest)
    {line : Line} (here : line.indent = column) {clause : Clause} (going : clause ≠ .otherwise)
    {body : List Line} (deeper : ∀ line ∈ body, column < line.indent) :
    chain.Rendered column rows →
      ∃ others, branches column line clause
            (body.map .ok ++ ((numbered number rows).map .ok ++ rest)) =
          (⟨line, clause, body⟩ :: others, rest) ∧
        runBranches catalog limit (runBody catalog limit room) others =
          chain.meaning catalog limit number
  | .done => by
    obtain rfl := here
    refine ⟨[], branches_none (takeBlock_deeper deeper ends.block) going ends.clause, ?_⟩
    rw [Chain.meaning]
    rfl
  | @Chain.Rendered.orWhen _ _ indent condition next nextBody others inside chain reaches further
      bodyRendered othersRendered => by
    simp only [Chain.nesting, Nat.max_le] at deep
    obtain ⟨room, rfl⟩ : ∃ inner, room = inner + 1 := ⟨room - 1, by omega⟩
    obtain rfl := here
    have nested := bodyRendered.runItems (number + 1) (Nat.le_of_succ_le_succ deep.1)
    have still : Clause.orWhen condition ≠ .otherwise := by simp
    have same : (⟨number, indent.length, next.text⟩ : Line).indent = line.indent := reaches.2
    obtain ⟨branches, cut, runs⟩ := othersRendered.runBranches (number + 1 + nextBody.size) deep.2
      ends same still (bodyRendered.deeper further (number + 1))
    refine ⟨⟨⟨number, indent.length, next.text⟩, .orWhen condition, numbered (number + 1) inside⟩ ::
      branches, ?_, ?_⟩
    · rw [numbered, List.map_cons, List.cons_append, map_numbered_append, List.append_assoc,
        bodyRendered.length_eq,
        branches_some (takeBlock_deeper deeper (takeBlock_at same _)) going
          (nextClause?_eq same next.reads nofun _), cut]
    · rw [runBranches_cons catalog limit (.inr rfl), nested, runs, Chain.meaning]
  | @Chain.Rendered.otherwise _ _ indent next nextBody inside reaches further bodyRendered => by
    rw [Chain.nesting] at deep
    obtain ⟨room, rfl⟩ : ∃ inner, room = inner + 1 := ⟨room - 1, by omega⟩
    obtain rfl := here
    have nested := bodyRendered.runItems (number + 1) (Nat.le_of_succ_le_succ deep)
    have same : (⟨number, indent.length, next.text⟩ : Line).indent = line.indent := reaches.2
    have block := takeBlock_deeper (bodyRendered.deeper further (number + 1)) ends.block
    rw [← same] at block
    refine ⟨[⟨⟨number, indent.length, next.text⟩, .otherwise, numbered (number + 1) inside⟩],
      ?_, ?_⟩
    · rw [numbered, List.map_cons, List.cons_append,
        branches_some (takeBlock_deeper deeper (takeBlock_at same _)) going
          (nextClause?_eq same next.reads nofun _), branches_otherwise block]
    · rw [runBranches_otherwise, nested, Chain.meaning]

end

end

/-- In every world a block that is written down line by line runs as the block says: with
the same result, located at the line that failed, and the same bindings, heap and
console. -/
theorem run_rendered {σ : Type} (interpreter : Interpreter σ) (world : World σ) {block : Block}
    {column : Nat} {rows : List Row} (rendered : block.Rendered column rows) {source : Text}
    (text : Lines (rows.map Row.raw) source) (deep : block.nesting ≤ interpreter.limit) :
    interpreter.run source world =
      (block.meaning interpreter.catalog interpreter.limit 1).run interpreter.console world := by
  rw [Interpreter.run, Script.run, text.items, itemsFrom_rows rendered.stands,
    rendered.runItems interpreter.catalog interpreter.limit 1 deep]

theorem run_rendered_conditional :
    (⟨Transcript.console, .standard, 256⟩ : Interpreter Transcript).run
        ['y', 'a', 'd', 'i', ' ', 'x', ':', '\n', ' ', 'f', '(', ')', '\n', 'a', 'r', 'u', ':']
        ⟨{}, {}, {}⟩ =
      (Block.meaning .standard 256 1
        (.conditional ['x']
          ⟨['y', 'a', 'd', 'i', ' ', 'x', ':'], ⟨by decide, by decide⟩, by decide, by decide,
            by decide, rfl⟩
          (.statement ⟨['f', '(', ')'], ⟨by decide, by decide⟩, by decide, by decide, by decide,
            rfl⟩ .nil)
          (.otherwise ⟨['a', 'r', 'u', ':'], ⟨by decide, by decide⟩, by decide, by decide,
            by decide, rfl⟩ .nil)
          .nil)).run Transcript.console ⟨{}, {}, {}⟩ := by
  refine run_rendered ⟨Transcript.console, .standard, 256⟩ ⟨{}, {}, {}⟩
    (@Block.Rendered.conditional 0 1 [] _ _ _ _ _ _ _ _ ⟨rfl, rfl⟩ (by decide)
      (@Block.Rendered.statement 1 [' '] _ _ _ ⟨rfl, rfl⟩ .nil)
      (@Chain.Rendered.otherwise 0 1 [] _ _ _ ⟨rfl, rfl⟩ (by decide) .nil) .nil) ?_ (by decide)
  exact .cons (by decide) (.cons (by decide) (.last (by decide) (by decide)))

end LineScript.Structure
