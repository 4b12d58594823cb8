import LineScript.Interpreter
import LineScript.Proofs.Action
import LineScript.Proofs.Console
import LineScript.Proofs.Expression.Forms
import LineScript.Proofs.Table
import LineScript.Proofs.Value.Shown

/-! Object literals. A key that is written more than once keeps the place of its first pair and
takes the value of its last, and listing the keys, listing the values and reading a property all
see the object in this way. The values of all pairs are evaluated, also of those that a later pair
replaces. -/
namespace LineScript

theorem Action.length_of_returns_mapM {ε α β : Type} {f : α → Action ε β} {list : List α}
    {results : List β} (returns : (list.mapM f).Returns results) :
    results.length = list.length := by
  induction list generalizing results with
  | nil =>
    cases returns
    rfl
  | cons a rest ih =>
    rw [List.mapM_cons] at returns
    obtain ⟨value, _, others⟩ := returns_bind returns
    obtain ⟨values, later, whole⟩ := returns_bind others
    cases whole
    exact congrArg (· + 1) (ih later)

namespace Expression

/-- A text that is read as a key and the fragment of its value. -/
def ReadsAs (text : Text) (part : String × Text) : Prop := pair text = .ok part

/-- The pairs in the body of an object, in the order of the text. -/
def Lists (body : Text) (pairs : List (String × Text)) : Prop :=
  ∃ texts, items body = .ok texts ∧ List.Forall₂ ReadsAs texts pairs

theorem Lists.unique {body : Text} {pairs others : List (String × Text)} (lists : Lists body pairs)
    (also : Lists body others) : pairs = others := by
  obtain ⟨texts, found, reads⟩ := lists
  obtain ⟨same, again, rereads⟩ := also
  cases found.symm.trans again
  have sole : Relator.RightUnique ReadsAs :=
    fun _ _ _ read reread => Except.ok.inj (read.symm.trans reread)
  exact sole.forall₂ reads rereads

theorem foldlM_enter (self : Evaluator) {texts : List Text} {pairs : List (String × Text)}
    (reads : List.Forall₂ ReadsAs texts pairs) (table : Table Value) :
    texts.foldlM (enter self) table = (pairs.map Prod.snd).mapM self >>= fun values =>
      pure (((pairs.map Prod.fst).zip values).foldl (fun t entry => t.insert entry.1 entry.2)
        table) := by
  induction reads generalizing table with
  | nil => simp
  | @cons text part _ _ read _ ih =>
    have here : pair text = .ok part := read
    simp only [List.foldlM_cons, List.map_cons, List.mapM_cons, enter, here, bind_assoc, ih,
      pure_bind, List.zip_cons_cons, List.foldl_cons]
    rfl

theorem exists_readsAs {self : Evaluator} {texts : List Text} {table result : Table Value}
    (entered : (texts.foldlM (enter self) table).Returns result) :
    ∃ pairs, List.Forall₂ ReadsAs texts pairs := by
  induction texts generalizing table with
  | nil => exact ⟨[], .nil⟩
  | cons text others ih =>
    rw [List.foldlM_cons] at entered
    obtain ⟨longer, here, later⟩ := Action.returns_bind entered
    obtain ⟨part, read, _⟩ := Action.returns_bind here
    obtain ⟨pairs, reads⟩ := ih later
    exact ⟨part :: pairs, .cons (Action.eq_of_returns_ofExcept read) reads⟩

section

variable {text body : Text} (literal : Form.ofFragment (Text.trim text) = .object body)

include literal

theorem evaluate_object (catalog : Catalog) (limit : Nat) {pairs : List (String × Text)}
    (lists : Lists body pairs) :
    evaluate catalog (limit + 1) text =
      (pairs.map Prod.snd).mapM (evaluate catalog limit) >>= fun values =>
        Action.newObject (Table.ofPairs ((pairs.map Prod.fst).zip values)) := by
  obtain ⟨texts, found, reads⟩ := lists
  rw [evaluate, literal, Form.evaluate, found]
  change texts.foldlM (enter (evaluate catalog limit)) [] >>= _ = _
  rw [foldlM_enter _ reads, bind_assoc]
  rfl

theorem exists_lists {catalog : Catalog} {limit : Nat} {value : Value}
    (returns : (evaluate catalog limit text).Returns value) : ∃ pairs, Lists body pairs := by
  cases limit with
  | zero => cases returns
  | succ limit =>
    rw [evaluate, literal] at returns
    obtain ⟨texts, found, rest⟩ := Action.returns_bind returns
    obtain ⟨table, entered, _⟩ := Action.returns_bind rest
    obtain ⟨pairs, reads⟩ := exists_readsAs entered
    exact ⟨pairs, texts, Action.eq_of_returns_ofExcept found, reads⟩

end

theorem evaluate_property (catalog : Catalog) (limit : Nat) (base name : Grammar.Name) :
    evaluate catalog (limit + 1) (base.text ++ '.' :: name.text) = catalog.lookup base.label >>=
      (access (evaluate catalog limit) · (.property name.label)) := by
  have written : Grammar.Access.Written (.property name) ('.' :: name.text) := .property name
  have tight := (Grammar.Atom.Written.access base written .nil).tight
  obtain ⟨accessors, form, reads⟩ := Grammar.ofFragment_access base written .nil
  rw [List.append_nil] at tight form
  cases reads with
  | cons read others =>
    cases others
    cases read
    rw [evaluate, tight.trim_eq, form, Form.evaluate]
    simp only [List.foldlM_cons, List.foldlM_nil, bind_pure]

section

variable {σ : Type} (console : Console σ) (world : World σ)

theorem run_access (self : Evaluator) (value : Value) (name : String) :
    (access self value (.property name)).run console world =
      (property world.heap value name, world) := by
  change (Action.ofExcept (property world.heap value name)).run console world = _
  cases property world.heap value name <;> rfl

theorem run_property {world} (catalog : Catalog) (limit : Nat) {base : Grammar.Name} {value : Value}
    (bound : world.bindings.get? base.label = some value) (name : Grammar.Name) :
    (evaluate catalog (limit + 1) (base.text ++ '.' :: name.text)).run console world =
      (property world.heap value name.label, world) := by
  have lookup : (catalog.lookup base.label).run console world = (.ok value, world) := by
    simp only [Catalog.lookup, Action.bindings, Action.request, bind, Action.bind, Action.run,
      World.answer, bound]
    rfl
  rw [evaluate_property, Action.run_bind lookup, run_access]

end

end Expression

namespace Interpreter

variable {σ : Type} (interpreter : Interpreter σ) (world : World σ)

structure Sees (object : Value) (pairs : List (String × Value)) : Prop where
  /-- The keys are listed without repetition, in the order in which they first occur. -/
  keys : ∃ cell later, interpreter.invoke "chaabiList" [object] world = (.ok (.array cell), later) ∧
    later.heap.items cell = (pairs.map Prod.fst).eraseDups.map .text
  distinct : (pairs.map Prod.fst).eraseDups.Nodup
  /-- The values are listed in the order of the keys. Each is that of the last pair with its key. -/
  values : ∃ cell later, interpreter.invoke "maanList" [object] world = (.ok (.array cell), later) ∧
    List.Forall₂ (Table.Last pairs) (pairs.map Prod.fst).eraseDups (later.heap.items cell)
  /-- An access to a property, wherever it stands in a chain. -/
  accessed (self : Expression.Evaluator) (name : String) (value : Value) :
    Table.Last pairs name value →
      (Expression.access self object (.property name)).run interpreter.console world =
        (.ok value, world)
  refused (self : Expression.Evaluator) (name : String) : name ∉ pairs.map Prod.fst →
    (Expression.access self object (.property name)).run interpreter.console world =
      (.error (.outOfRange (.property name)), world)
  /-- The same access in a text, through a name that the object is bound to. -/
  read (base name : Grammar.Name) (value : Value) : world.bindings.get? base.label = some object →
    Table.Last pairs name.label value →
      interpreter.evaluate (base.text ++ '.' :: name.text) world = (.ok value, world)
  unread (base name : Grammar.Name) : world.bindings.get? base.label = some object →
    name.label ∉ pairs.map Prod.fst →
      interpreter.evaluate (base.text ++ '.' :: name.text) world =
        (.error (.outOfRange (.property name.label)), world)

section

variable {world} {console : Console σ} {limit cell : Nat} {pairs : List (String × Value)}
  (stored : world.heap.objects[cell]? = some (.ofPairs pairs))

include stored

theorem entries_stored : world.heap.entries cell = .ofPairs pairs := by
  rw [Heap.entries, stored, Option.getD_some]

theorem property_last {name : String} {value : Value} (last : Table.Last pairs name value) :
    Expression.property world.heap (.object cell) name = .ok value := by
  rw [Expression.property, entries_stored stored, Table.get?_ofPairs.2 last]

theorem property_missing {name : String} (missing : name ∉ pairs.map Prod.fst) :
    Expression.property world.heap (.object cell) name = .error (.outOfRange (.property name)) := by
  have absent : name ∉ (Table.ofPairs pairs).keys := by
    rwa [Table.keys_ofPairs, List.mem_eraseDups]
  rw [Expression.property, entries_stored stored, Table.get?_eq_none absent]

theorem sees_stored : Sees ⟨console, .standard, limit + 1⟩ world (.object cell) pairs where
  keys := by
    refine ⟨_, _, rfl, ?_⟩
    simp [entries_stored stored, Heap.items, Table.keys_ofPairs]
  distinct := Table.keys_ofPairs pairs ▸ Table.nodup_keys_ofPairs pairs
  values := by
    refine ⟨_, _, rfl, ?_⟩
    simpa [entries_stored stored, Heap.items, Heap.newArray, Table.keys_ofPairs] using
      Table.forall₂_last pairs
  accessed self name value last := by
    rw [Expression.run_access, property_last stored last]
  refused self name missing := by
    rw [Expression.run_access, property_missing stored missing]
  read base name value bound last := by
    rw [Interpreter.evaluate, Expression.run_property _ _ _ bound, property_last stored last]
  unread base name bound missing := by
    rw [Interpreter.evaluate, Expression.run_property _ _ _ bound, property_missing stored missing]

end

structure Makes (text : Text) (pairs : List (String × Text)) (values : List Value)
    (object : Value) (later : World σ) : Prop where
  /-- The fragment of every pair is evaluated once, from the first to the last. -/
  inTurn : Expression.evaluate interpreter.catalog interpreter.limit text =
    (pairs.map Prod.snd).mapM (Expression.evaluate interpreter.catalog (interpreter.limit - 1)) >>=
      fun values => Action.newObject (Table.ofPairs ((pairs.map Prod.fst).zip values))
  evaluated : (((pairs.map Prod.snd).mapM
    (Expression.evaluate interpreter.catalog (interpreter.limit - 1))).run
      interpreter.console world).1 = .ok values
  complete : values.length = pairs.length
  /-- From then on, the object is what the keys and their values make it. -/
  seen (moment : World σ) : later.heap.objects <+: moment.heap.objects →
    interpreter.Sees moment object ((pairs.map Prod.fst).zip values)

end Interpreter

/-- Every object literal that evaluates does so. -/
theorem object_agrees {σ : Type} (console : Console σ) {limit : Nat} {text body : Text}
    {world later : World σ} {object : Value}
    (literal : Expression.Form.ofFragment (Text.trim text) = .object body)
    (ends : Interpreter.evaluate ⟨console, .standard, limit⟩ text world = (.ok object, later)) :
    ∃ pairs values, Expression.Lists body pairs ∧
      Interpreter.Makes ⟨console, .standard, limit⟩ world text pairs values object later := by
  have returns := Action.returns_of_run (congrArg Prod.fst ends)
  obtain ⟨pairs, lists⟩ := Expression.exists_lists literal returns
  cases limit with
  | zero => cases returns
  | succ limit =>
    have inTurn := Expression.evaluate_object literal .standard limit lists
    rw [Interpreter.evaluate, inTurn] at ends
    rcases first : ((pairs.map Prod.snd).mapM (Expression.evaluate .standard limit)).run
      console world with ⟨_ | values, middle⟩
    · rw [Action.run_bind_error first] at ends
      cases ends
    · rw [Action.run_bind first] at ends
      cases ends
      refine ⟨pairs, values, lists, inTurn, congrArg Prod.fst first, ?_, fun moment grows => ?_⟩
      · simpa using Action.length_of_returns_mapM
          (Action.returns_of_run (congrArg Prod.fst first))
      · exact Interpreter.sees_stored (Heap.getElem?_of_grown grows List.getElem?_concat_length)

/-- Both keys occur twice, once as a string. The answer to the first question is replaced. -/
theorem object_agrees_repeated :
    let interpreter := Interpreter.inMemory .standard 256
    let text := ("\x7b a: sodhString(\"?\"), 7: \"x\", " ++
      "\"a\": sodhString(\"!\"), \"7\": \"y\",\x7d").toList
    let outcome := interpreter.evaluate text ⟨{}, {}, { input := ["u", "v"] }⟩
    outcome.1 = .ok (.object 0) ∧ outcome.2.console.prompts = #["?", "!"] ∧
      (∃ cell later, interpreter.invoke "chaabiList" [.object 0] outcome.2 =
          (.ok (.array cell), later) ∧
        later.heap.items cell = [.text "a", .text "7"]) ∧
      ∀ self, (Expression.access self (.object 0) (.property "a")).run interpreter.console
        outcome.2 = (.ok (.text "v"), outcome.2) := by
  intro interpreter text outcome
  have ends : interpreter.evaluate text _ = (.ok (.object 0), outcome.2) := Prod.ext rfl rfl
  have literal : Expression.Form.ofFragment (Text.trim text) = .object text.tail.dropLast := by rfl
  obtain ⟨pairs, values, lists, makes⟩ := object_agrees Transcript.console literal ends
  have written : Expression.Lists text.tail.dropLast
      [("a", " sodhString(\"?\")".toList), ("7", " \"x\"".toList),
        ("a", " sodhString(\"!\")".toList), ("7", " \"y\"".toList)] :=
    ⟨_, rfl, .cons rfl (.cons rfl (.cons rfl (.cons rfl .nil)))⟩
  cases lists.unique written
  have answers : values = [.text "u", .text "x", .text "v", .text "y"] :=
    Except.ok.inj (makes.evaluated.symm.trans rfl)
  subst answers
  have sees := makes.seen outcome.2 (List.prefix_refl _)
  refine ⟨rfl, rfl, sees.keys, fun self => sees.accessed self "a" (.text "v") ?_⟩
  exact ⟨[("a", .text "u"), ("7", .text "x")], [("7", .text "y")], rfl, by decide⟩

end LineScript
