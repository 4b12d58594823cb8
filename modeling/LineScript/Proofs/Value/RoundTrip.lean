import LineScript.Proofs.Action
import LineScript.Proofs.Decimal.Whole
import LineScript.Proofs.Expression.Meaning
import LineScript.Proofs.Table
import LineScript.Proofs.Value.Shown

/-! Printing a collection and evaluating the text. The text of an array or object is an
expression of the language, in the compact and in the indented form alike, and evaluating it
builds the collection again in cells of its own. -/
namespace LineScript

namespace Tree

open Grammar (Expr Atom Key)
open Text (isAllBlank)

/-- A text without control characters. -/
def Printable (text : Text) : Prop := ∀ c ∈ text, 0x20 ≤ c.toNat

mutual

/-- Trees of texts and whole numbers, with different keys in every object. -/
def Plain : Tree → Prop
  | number x => ∃ n, Double.toInt? x = some n ∧ n.natAbs ≤ Number.maxSafeInteger
  | text s => Printable s.toList
  | array items => PlainItems items
  | object entries => (entries.map Prod.fst).Nodup ∧ PlainEntries entries
  | boolean _ | undefined => False

def PlainItems : List Tree → Prop
  | [] => True
  | item :: rest => item.Plain ∧ PlainItems rest

def PlainEntries : List (String × Tree) → Prop
  | [] => True
  | (key, value) :: rest => (Printable key.toList ∧ value.Plain) ∧ PlainEntries rest

end

mutual

/-- The same structure with the same keys in the same order. Numbers are compared as numbers,
so that the two zeros are alike. -/
inductive Alike : Tree → Tree → Prop where
  | number {x y : Float} : (x == y) = true → Alike (.number x) (.number y)
  | text (s : String) : Alike (.text s) (.text s)
  | array {items others : List Tree} :
      AlikeItems items others → Alike (.array items) (.array others)
  | object {entries others : List (String × Tree)} :
      AlikeEntries entries others → Alike (.object entries) (.object others)

inductive AlikeItems : List Tree → List Tree → Prop where
  | nil : AlikeItems [] []
  | cons {item other : Tree} {items others : List Tree} :
      Alike item other → AlikeItems items others → AlikeItems (item :: items) (other :: others)

inductive AlikeEntries : List (String × Tree) → List (String × Tree) → Prop where
  | nil : AlikeEntries [] []
  | cons {key : String} {value other : Tree} {entries others : List (String × Tree)} :
      Alike value other → AlikeEntries entries others →
        AlikeEntries ((key, value) :: entries) ((key, other) :: others)

end

theorem escapeChar_eq {c : Char} (printable : 0x20 ≤ c.toNat) :
    escapeChar c = Expression.escapeChar c := by
  have apart (control : Char) (low : control.toNat < 0x20) : c ≠ control := by
    rintro rfl
    omega
  rw [escapeChar, Expression.escapeChar]
  by_cases quoted : c = '"'
  · simp [quoted]
  · by_cases slash : c = '\\'
    · simp [slash]
    · rw [if_neg quoted, if_neg slash, if_neg (apart '\n' (by decide)),
        if_neg (apart '\r' (by decide)), if_neg (apart '\t' (by decide)), if_neg (by omega),
        if_neg (by omega), if_neg (by omega), if_neg (by simp [quoted, slash])]

theorem quote_eq {text : Text} (printable : Printable text) :
    quote text = Expression.quote text := by
  have same : text.flatMap escapeChar = text.flatMap Expression.escapeChar := by
    rw [List.flatMap_def, List.flatMap_def,
      List.map_congr_left fun c member => escapeChar_eq (printable c member)]
  rw [quote, same, Expression.quote]

theorem nestedText_eq {x : Float} {n : Int} (value : Double.toInt? x = some n)
    (small : n.natAbs ≤ Number.maxSafeInteger) : Number.nestedText x = Number.integerText n := by
  obtain ⟨negative, mantissa, power, finite, -⟩ := Double.exists_parts_of_toInt? value
  simp only [Number.nestedText, finite, value, if_pos small]

theorem commaSeparated_cons_cons (first second : Text) (others : List Text) :
    commaSeparated (first :: second :: others) =
      first ++ ',' :: commaSeparated (second :: others) := by
  rw [commaSeparated, List.intercalate_cons_cons, List.append_assoc]
  rfl

def Loosely (written : Text → Prop) (text : Text) : Prop :=
  ∀ ⦃before after : Text⦄, isAllBlank before → isAllBlank after → written (before ++ text ++ after)

theorem Loosely.bare {written : Text → Prop} {text : Text} (loosely : Loosely written text) :
    written text := by
  have bare := loosely Text.isAllBlank_nil Text.isAllBlank_nil
  rwa [List.nil_append, List.append_nil] at bare

section Layout

variable {gap close : Text} (opened : isAllBlank gap) (closed : isAllBlank close)

include opened closed

theorem separated {α : Type} {written : α → Text → Prop} {joined : List α → Text → Prop}
    (empty : ∀ {blank}, isAllBlank blank → joined [] blank)
    (one : ∀ {part text}, written part text → joined [part] text)
    (more : ∀ {first second others text rest}, written first text →
      joined (second :: others) rest → joined (first :: second :: others) (text ++ ',' :: rest))
    {parts : List α} {texts : List Text}
    (loosely : List.Forall₂ (fun part text => Loosely (written part) text) parts texts) :
    joined parts (commaSeparated (texts.map (gap ++ ·)) ++ close) := by
  induction loosely with
  | nil => exact empty closed
  | @cons part text parts texts here rest ih =>
    cases rest with
    | nil => simpa [commaSeparated] using one (here opened closed)
    | cons next others =>
      rw [List.map_cons, List.map_cons, commaSeparated_cons_cons, List.append_assoc,
        List.cons_append]
      have first := here opened Text.isAllBlank_nil
      rw [List.append_nil] at first
      exact more first ih

theorem listed {exprs : List Expr} {texts : List Text}
    (parts : List.Forall₂ (fun expr text => Loosely expr.Written text) exprs texts) :
    Expr.Listed exprs (commaSeparated (texts.map (gap ++ ·)) ++ close) :=
  separated opened closed .none .one .more parts

theorem paired {entries : List (Key × Expr)} {texts : List Text}
    (parts : List.Forall₂ (fun entry text => Loosely (Expr.Keyed entry) text) entries texts) :
    Expr.Paired entries (commaSeparated (texts.map (gap ++ ·)) ++ close) :=
  separated opened closed .none .one .more parts

end Layout

/-- An action that builds a tree in cells of its own and does nothing else. -/
def Builds (action : Action Fault Value) (tree : Tree) : Prop :=
  ∀ ⦃σ : Type⦄ (console : Console σ) (world : World σ), ∃ value heap copy,
    action.run console world = (.ok value, { world with heap }) ∧ world.heap.Grows heap ∧
      heap.Shows world.heap value copy ∧ copy.Alike tree

structure Reads (catalog : Catalog) (expr : Expr) (tree : Tree) : Prop where
  compact : Loosely expr.Written tree.compact
  indented (level : Nat) : Loosely expr.Written (tree.indented level)
  builds : Builds (expr.meaning catalog) tree

def single (atom : Atom) : Expr := .sum (.chain (.atom atom) []) []

theorem loosely_single {atom : Atom} {text : Text} (written : atom.Written text) :
    Loosely (single atom).Written text :=
  fun _ _ opened closed => .one (.one (.atom opened written closed))

theorem meaning_single (catalog : Catalog) (atom : Atom) :
    (single atom).meaning catalog = atom.meaning catalog := by
  rw [single, Expr.meaning, Grammar.Term.meaning, Grammar.Comparison.meaning]

theorem compactItems_eq (items : List Tree) : compactItems items = items.map compact := by
  induction items with
  | nil => rfl
  | cons item rest ih => rw [compactItems, ih, List.map_cons]

theorem indentedItems_eq (level : Nat) (items : List Tree) :
    indentedItems level items = items.map (indented level) := by
  induction items with
  | nil => rfl
  | cons item rest ih => rw [indentedItems, ih, List.map_cons]

theorem compactEntries_eq (entries : List (String × Tree)) :
    compactEntries entries =
      entries.map fun entry => quote entry.1.toList ++ ':' :: entry.2.compact := by
  induction entries with
  | nil => rfl
  | cons entry rest ih => rw [compactEntries, ih, List.map_cons]

theorem indentedEntries_eq (level : Nat) (entries : List (String × Tree)) :
    indentedEntries level entries =
      entries.map fun entry => quote entry.1.toList ++ ':' :: ' ' :: entry.2.indented level := by
  induction entries with
  | nil => rfl
  | cons entry rest ih => rw [indentedEntries, ih, List.map_cons]

theorem isAllBlank_newLine (level : Nat) : isAllBlank (newLine level) := by
  simp [newLine, isAllBlank, Text.isBlank]

theorem plus_notMem_integerText (n : Int) : '+' ∉ Number.integerText n := by
  have digits : '+' ∉ Nat.toDigits 10 n.natAbs := fun member =>
    absurd (Nat.isDigit_of_mem_toDigits (by decide) (by decide) member) (by decide)
  rw [Number.integerText, Decimal.signed]
  split
  · simpa using digits
  · exact digits

section Reading

variable {catalog : Catalog}

theorem reads_single {atom : Atom} {tree : Tree} (written : atom.Written tree.compact)
    (flat : ∀ level, tree.indented level = tree.compact)
    (builds : Builds (atom.meaning catalog) tree) : Reads catalog (single atom) tree where
  compact := loosely_single written
  indented level := by
    rw [flat level]
    exact loosely_single written
  builds := by rwa [meaning_single]

theorem builds_number {x y : Float} (same : (y == x) = true) :
    Builds (pure (.number y)) (.number x) :=
  fun _ _ world => ⟨_, world.heap, _, rfl, .refl _, .number y, .number same⟩

theorem builds_text (s : String) : Builds (pure (.text s)) (.text s) :=
  fun _ _ world => ⟨_, world.heap, _, rfl, .refl _, .text s, .text s⟩

theorem exists_reads_number {x : Float} {n : Int} (value : Double.toInt? x = some n)
    (small : n.natAbs ≤ Number.maxSafeInteger) :
    ∃ expr, Reads catalog expr (.number x) := by
  obtain ⟨y, read, same⟩ := Decimal.parseNumber?_integerText value small
  have solid : Text.trim (Number.integerText n) = Number.integerText n :=
    (Decimal.tight_signed _ _).trim_eq
  have valid : (Decimal.parseNumber? (Number.integerText n)).isSome := by rw [read]; rfl
  have written := Atom.Written.number ⟨_, valid⟩ (plus_notMem_integerText n)
  rw [solid] at written
  refine ⟨_, reads_single (by rwa [compact, nestedText_eq value small])
    (fun level => by rw [indented, compact]) ?_⟩
  have meant : Atom.meaning catalog (.number ⟨_, valid⟩ (plus_notMem_integerText n)) =
      pure (.number y) := by
    simp only [Atom.meaning, Grammar.Numeral.value, read, Option.get_some]
  rw [meant]
  exact builds_number same

theorem reads_text {s : String} (printable : Printable s.toList) :
    Reads catalog (single (.string s.toList)) (.text s) := by
  refine reads_single ?_ (fun level => by rw [indented, compact]) ?_
  · rw [compact, quote_eq printable]
    exact .string s.toList
  · rw [Atom.meaning, String.ofList_toList]
    exact builds_text s

theorem run_meanings {exprs : List Expr} {trees : List Tree}
    (reads : List.Forall₂ (Reads catalog) exprs trees) {σ : Type} (console : Console σ)
    (world : World σ) : ∃ values heap copies,
      (Expr.meanings catalog exprs).run console world = (.ok values, { world with heap }) ∧
        world.heap.Grows heap ∧ heap.ShowsItems world.heap values copies ∧
          AlikeItems copies trees := by
  induction reads generalizing world with
  | nil => exact ⟨[], world.heap, [], by rw [Expr.meanings]; rfl, .refl _, .nil, .nil⟩
  | cons read _ ih =>
    obtain ⟨value, middle, copy, first, grows, shows, alike⟩ := read.builds console world
    obtain ⟨values, heap, copies, others, more, showsRest, alikeRest⟩ :=
      ih { world with heap := middle }
    refine ⟨value :: values, heap, copy :: copies, ?_, grows.trans more,
      .cons (shows.mono more (.refl _)) (showsRest.mono (.refl _) grows), .cons alike alikeRest⟩
    rw [Expr.meanings, Action.run_bind first, Action.run_bind others]
    rfl

theorem insert_of_notMem {name : String} {table : Table Value} (value : Value)
    (fresh : name ∉ table.keys) : table.insert name value = table ++ [(name, value)] := by
  induction table with
  | nil => rfl
  | cons entry rest ih =>
    obtain ⟨key, old⟩ := entry
    rw [Table.keys, List.map_cons, List.mem_cons, not_or] at fresh
    rw [Table.insert, if_neg (Ne.symm fresh.1), ih fresh.2, List.cons_append]

structure ReadsEntry (catalog : Catalog) (entry : Key × Expr) (tree : String × Tree) : Prop where
  key : entry.1 = .string tree.1.toList
  printable : Printable tree.1.toList
  reads : Reads catalog entry.2 tree.2

theorem ReadsEntry.keyed {entry : Key × Expr} {tree : String × Tree}
    (read : ReadsEntry catalog entry tree) {gap text : Text} (blank : isAllBlank gap)
    (written : Loosely entry.2.Written text) :
    Loosely (Expr.Keyed entry) (quote tree.1.toList ++ ':' :: (gap ++ text)) := by
  obtain ⟨key, expr⟩ := entry
  obtain rfl := read.key
  intro before after opened closed
  have keyed := Expr.Keyed.pair opened (.string tree.1.toList) Text.isAllBlank_nil
    (written blank closed)
  rw [quote_eq read.printable]
  simpa using keyed

theorem run_entered {entries : List (Key × Expr)} {trees : List (String × Tree)}
    (reads : List.Forall₂ (ReadsEntry catalog) entries trees) (table : Table Value)
    (apart : (table.keys ++ trees.map Prod.fst).Nodup) {σ : Type} (console : Console σ)
    (world : World σ) : ∃ added heap copies,
      (Expr.entered catalog table entries).run console world =
          (.ok (table ++ added), { world with heap }) ∧
        world.heap.Grows heap ∧ heap.ShowsEntries world.heap added copies ∧
          AlikeEntries copies trees := by
  -- `table` holds the entries before these, so `apart` keeps every key to come out of it
  induction reads generalizing table world with
  | nil =>
    refine ⟨[], world.heap, [], ?_, .refl _, .nil, .nil⟩
    rw [Expr.entered, List.append_nil]
    rfl
  | @cons entry tree entries trees read _ ih =>
    obtain ⟨key, expr⟩ := entry
    obtain ⟨label, tree⟩ := tree
    obtain ⟨rfl, -, read⟩ := read
    obtain ⟨value, middle, copy, first, grows, shows, alike⟩ := read.builds console world
    rw [List.map_cons, List.append_cons] at apart
    have fresh : label ∉ table.keys := fun member =>
      (List.nodup_append.1 (List.nodup_append.1 apart).1).2.2 _ member _ (by simp) rfl
    have inserted : table.insert (Key.string label.toList).label value =
        table ++ [(label, value)] := by
      rw [Key.label, String.ofList_toList, insert_of_notMem value fresh]
    obtain ⟨added, heap, copies, others, more, showsRest, alikeRest⟩ :=
      ih (table ++ [(label, value)]) (by simpa [Table.keys] using apart)
        { world with heap := middle }
    refine ⟨(label, value) :: added, heap, (label, copy) :: copies, ?_, grows.trans more,
      .cons (shows.mono more (.refl _)) (showsRest.mono (.refl _) grows), .cons alike alikeRest⟩
    rw [Expr.entered, Action.run_bind first, inserted, others, List.append_assoc]
    rfl

theorem builds_array {exprs : List Expr} {trees : List Tree}
    (reads : List.Forall₂ (Reads catalog) exprs trees) :
    Builds (Atom.meaning catalog (.array exprs)) (.array trees) := by
  intro σ console world
  obtain ⟨values, heap, copies, items, grows, shows, alike⟩ := run_meanings reads console world
  have added : heap.Grows (heap.newArray values).2 := ⟨⟨[values], rfl⟩, List.prefix_rfl⟩
  have stored : (heap.newArray values).2.arrays[heap.arrays.length]? = some values := by
    simp [Heap.newArray]
  refine ⟨.array heap.arrays.length, (heap.newArray values).2, .array copies, ?_,
    grows.trans added, .array grows.arrays.length_le stored (shows.mono added (.refl _)),
    .array alike⟩
  rw [Atom.meaning, Action.run_bind items]
  rfl

theorem builds_object {entries : List (Key × Expr)} {trees : List (String × Tree)}
    (reads : List.Forall₂ (ReadsEntry catalog) entries trees)
    (apart : (trees.map Prod.fst).Nodup) :
    Builds (Atom.meaning catalog (.object entries)) (.object trees) := by
  intro σ console world
  obtain ⟨table, heap, copies, entered, grows, shows, alike⟩ :=
    run_entered reads [] apart console world
  have added : heap.Grows (heap.newObject table).2 := ⟨List.prefix_rfl, ⟨[table], rfl⟩⟩
  have stored : (heap.newObject table).2.objects[heap.objects.length]? = some table := by
    simp [Heap.newObject]
  refine ⟨.object heap.objects.length, (heap.newObject table).2, .object copies, ?_,
    grows.trans added, .object grows.objects.length_le stored (shows.mono added (.refl _)),
    .object alike⟩
  rw [Atom.meaning, Action.run_bind entered]
  rfl

theorem reads_array {exprs : List Expr} {trees : List Tree}
    (reads : List.Forall₂ (Reads catalog) exprs trees) :
    Reads catalog (single (.array exprs)) (.array trees) where
  compact := by
    have parts := List.forall₂_map_right_iff.2 (reads.imp fun _ _ read => read.compact)
    have body := listed Text.isAllBlank_nil Text.isAllBlank_nil parts
    rw [compact, compactItems_eq]
    simp only [List.nil_append, List.map_id', List.append_nil] at body
    exact loosely_single (.array body)
  indented level := by
    cases reads with
    | nil => exact loosely_single (@Atom.Written.array [] [] (.none Text.isAllBlank_nil))
    | cons read rest =>
      have parts := List.forall₂_map_right_iff.2
        ((List.Forall₂.cons read rest).imp fun _ _ read => read.indented (level + 1))
      have body := listed (isAllBlank_newLine (level + 1)) (isAllBlank_newLine level) parts
      rw [indented, indentedLines, indentedItems_eq]
      exact loosely_single (.array body)
  builds := by
    rw [meaning_single]
    exact builds_array reads

theorem reads_object {entries : List (Key × Expr)} {trees : List (String × Tree)}
    (reads : List.Forall₂ (ReadsEntry catalog) entries trees)
    (apart : (trees.map Prod.fst).Nodup) :
    Reads catalog (single (.object entries)) (.object trees) where
  compact := by
    have parts := List.forall₂_map_right_iff.2
      (reads.imp fun _ _ read => read.keyed Text.isAllBlank_nil read.reads.compact)
    have body := paired Text.isAllBlank_nil Text.isAllBlank_nil parts
    rw [compact, compactEntries_eq]
    simp only [List.nil_append, List.map_id', List.append_nil] at body
    exact loosely_single (.object body)
  indented level := by
    cases reads with
    | nil => exact loosely_single (@Atom.Written.object [] [] (.none Text.isAllBlank_nil))
    | cons read rest =>
      have space : isAllBlank [' '] := rfl
      have parts := List.forall₂_map_right_iff.2 ((List.Forall₂.cons read rest).imp
        fun _ _ read => read.keyed space (read.reads.indented (level + 1)))
      have body := paired (isAllBlank_newLine (level + 1)) (isAllBlank_newLine level) parts
      rw [indented, indentedLines, indentedEntries_eq]
      exact loosely_single (.object body)
  builds := by
    rw [meaning_single]
    exact builds_object reads apart

mutual

/-- The texts of every plain tree are an expression that builds it. -/
theorem exists_reads (catalog : Catalog) : ∀ tree : Tree, tree.Plain →
    ∃ expr, Reads catalog expr tree
  | .number x, plain => by
    rw [Plain] at plain
    obtain ⟨n, value, small⟩ := plain
    exact exists_reads_number value small
  | .text s, plain => by
    rw [Plain] at plain
    exact ⟨_, reads_text plain⟩
  | .array items, plain => by
    rw [Plain] at plain
    obtain ⟨exprs, reads⟩ := exists_readsItems catalog items plain
    exact ⟨_, reads_array reads⟩
  | .object entries, plain => by
    rw [Plain] at plain
    obtain ⟨exprs, reads⟩ := exists_readsEntries catalog entries plain.2
    exact ⟨_, reads_object reads plain.1⟩
  | .boolean _, plain | .undefined, plain => by
    rw [Plain] at plain
    exact plain.elim

theorem exists_readsItems (catalog : Catalog) : ∀ items : List Tree, PlainItems items →
    ∃ exprs, List.Forall₂ (Reads catalog) exprs items
  | [], _ => ⟨[], .nil⟩
  | item :: rest, plain => by
    rw [PlainItems] at plain
    obtain ⟨expr, read⟩ := exists_reads catalog item plain.1
    obtain ⟨exprs, reads⟩ := exists_readsItems catalog rest plain.2
    exact ⟨expr :: exprs, .cons read reads⟩

theorem exists_readsEntries (catalog : Catalog) : ∀ entries : List (String × Tree),
    PlainEntries entries → ∃ exprs, List.Forall₂ (ReadsEntry catalog) exprs entries
  | [], _ => ⟨[], .nil⟩
  | (key, value) :: rest, plain => by
    rw [PlainEntries] at plain
    obtain ⟨expr, read⟩ := exists_reads catalog value plain.1.2
    obtain ⟨exprs, reads⟩ := exists_readsEntries catalog rest plain.2
    exact ⟨(.string key.toList, expr) :: exprs, .cons ⟨rfl, plain.1.1, read⟩ reads⟩

end

end Reading

theorem AlikeEntries.length_eq {copies trees : List (String × Tree)} :
    AlikeEntries copies trees → copies.length = trees.length
  | .nil => rfl
  | .cons _ rest => congrArg (· + 1) rest.length_eq

mutual

/-- Trees with the same structure are equal in the language when no object repeats a key. -/
theorem Alike.equals {copy tree : Tree} (plain : tree.Plain) :
    copy.Alike tree → copy.equals tree = true
  | .number same => by rw [Tree.equals, same]
  | .text s => by simp [Tree.equals]
  | .array items => by
    rw [Plain] at plain
    rw [Tree.equals, items.equalItems plain]
  | .object entries => by
    rw [Plain] at plain
    rw [Tree.equals, entries.length_eq,
      entries.entriesWithin plain.2 fun _ member => Table.get?_of_mem plain.1 member]
    simp

theorem AlikeItems.equalItems {copies trees : List Tree} (plain : PlainItems trees) :
    AlikeItems copies trees → equalItems copies trees = true
  | .nil => by rw [Tree.equalItems]
  | .cons first rest => by
    rw [PlainItems] at plain
    rw [Tree.equalItems, first.equals plain.1, rest.equalItems plain.2]
    rfl

theorem AlikeEntries.entriesWithin {table copies trees : List (String × Tree)}
    (plain : PlainEntries trees)
    (found : ∀ entry ∈ trees, Table.get? entry.1 table = some entry.2) :
    AlikeEntries copies trees → entriesWithin table copies = true
  | .nil => by rw [Tree.entriesWithin]
  | .cons first rest => by
    rw [PlainEntries] at plain
    rw [List.forall_mem_cons] at found
    simp only [Tree.entriesWithin, found.1, first.equals plain.1.2,
      rest.entriesWithin plain.2 found.2, Bool.and_self]

end

end Tree

/-- A value of one of the two kinds that are printed as collections. -/
def Value.isCollection : Value → Bool
  | .array _ | .object _ => true
  | _ => false

theorem Heap.text_array (heap : Heap) (cell : Nat) :
    heap.text (.array cell) = (heap.tree (.array cell)).compact := rfl

theorem Heap.text_object (heap : Heap) (cell : Nat) :
    heap.text (.object cell) = (heap.tree (.object cell)).indented 0 := rfl

theorem Tree.Reads.written {catalog : Catalog} {expr : Grammar.Expr} {heap : Heap} {value : Value}
    {tree : Tree} (read : Reads catalog expr tree) (shown : heap.Shows {} value tree)
    (collection : value.isCollection) : expr.Written (heap.text value) := by
  cases value with
  | array cell =>
    rw [Heap.text_array, shown.tree_eq]
    exact read.compact.bare
  | object cell =>
    rw [Heap.text_object, shown.tree_eq]
    exact (read.indented 0).bare
  | _ => cases collection

/-- Evaluating the text of a collection, in any world, gives a new collection that is equal to it
and has its keys in the same order. Nothing else changes: the cells that were there stay as they
were, and the new collection shares none of them. -/
theorem evaluate_text {σ : Type} (interpreter : Interpreter σ) (world : World σ) {heap : Heap}
    {value : Value} {tree : Tree} (shown : heap.Shows {} value tree) (plain : tree.Plain)
    (collection : value.isCollection) (short : (heap.text value).length < interpreter.limit) :
    ∃ copy later image,
      interpreter.evaluate (heap.text value) world = (.ok copy, { world with heap := later }) ∧
        world.heap.Grows later ∧ later.Shows world.heap copy image ∧ image.Alike tree ∧
          (later.tree copy).equals (heap.tree value) = true := by
  obtain ⟨expr, read⟩ := tree.exists_reads interpreter.catalog plain
  obtain ⟨copy, later, image, builds, grows, shows, alike⟩ :=
    read.builds interpreter.console world
  refine ⟨copy, later, image, ?_, grows, shows, alike, ?_⟩
  · have written := read.written shown collection
    rw [Interpreter.evaluate, Grammar.agrees_evaluate _ _ written short, builds]
  · rw [shows.tree_eq, shown.tree_eq]
    exact alike.equals plain

def nestedHeap : Heap where
  arrays := [[.number (-7), .text "\\, \"]+"], []]
  objects := [[("a: \"b\"", .array 0), ("", .array 1)]]

theorem evaluate_text_nested : ∃ copy later image,
    (⟨Transcript.console, .standard, 256⟩ : Interpreter Transcript).evaluate
        (nestedHeap.text (.object 0)) ⟨{}, nestedHeap, {}⟩ = (.ok copy, ⟨{}, later, {}⟩) ∧
      nestedHeap.Grows later ∧ later.Shows nestedHeap copy image ∧
        image.Alike (.object [("a: \"b\"", .array [.number (-7), .text "\\, \"]+"]),
          ("", .array [])]) ∧
        (later.tree copy).equals (nestedHeap.tree (.object 0)) = true :=
  evaluate_text ⟨Transcript.console, .standard, 256⟩ ⟨{}, nestedHeap, {}⟩
    (.object (Nat.zero_le 0) rfl
      (.cons (.array (Nat.zero_le 0) rfl (.cons (.number _) (.cons (.text _) .nil)))
        (.cons (.array (Nat.zero_le 1) rfl .nil) .nil)))
    (by
      have whole : ∃ n, Double.toInt? (-7) = some n ∧ n.natAbs ≤ Number.maxSafeInteger :=
        ⟨-7, by decide, by decide⟩
      simpa [Tree.Plain, Tree.PlainItems, Tree.PlainEntries, Tree.Printable] using whole)
    rfl (by decide)

end LineScript
