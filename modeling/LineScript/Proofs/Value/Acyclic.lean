import LineScript.Proofs.Value.Grounded
import Mathlib.Data.Fintype.EquivFin
import Mathlib.Logic.Relation

/-! Values that can be printed. A value has a finite text exactly if no cell below it can be
reached from itself. New cells close no circle, and neither does removing an item; appending a
value to an array closes one exactly if the array is the value or lies below it. -/
namespace LineScript

open Relation (ReflTransGen TransGen)

namespace Heap

/-- No cell is reached from itself. -/
def Acyclic (heap : Heap) : Prop := ∀ value, ¬TransGen heap.Holds value value

/-- A value that is not the array of a cell, and from which that array is not reached. -/
def Avoids (heap : Heap) (value : Value) (cell : Nat) : Prop :=
  value ≠ .array cell ∧ ¬TransGen heap.Holds value (.array cell)

theorem avoids_iff {heap : Heap} {value : Value} {cell : Nat} :
    heap.Avoids value cell ↔ ¬ReflTransGen heap.Holds value (.array cell) := by
  rw [Relation.reflTransGen_iff_eq_or_transGen, not_or, Avoids, ne_comm]

/-- A path along the edges of a relation and one further edge either does without it, or leads
to its start and on from its end. -/
theorem transGen_or_of_edge {related larger : Value → Value → Prop} {start stop : Value}
    (edges : ∀ {a b}, larger a b → related a b ∨ a = start ∧ b = stop) {a b : Value}
    (path : TransGen larger a b) :
    TransGen related a b ∨ ReflTransGen related a start ∧ ReflTransGen related stop b := by
  induction path with
  | single edge =>
    rcases edges edge with old | ⟨rfl, rfl⟩
    · exact .inl (.single old)
    · exact .inr ⟨.refl, .refl⟩
  | tail _ edge ih =>
    rcases edges edge with old | ⟨rfl, rfl⟩
    · rcases ih with path | ⟨before, after⟩
      · exact .inl (path.tail old)
      · exact .inr ⟨before, after.tail old⟩
    · rcases ih with path | ⟨before, _⟩
      · exact .inr ⟨path.to_reflTransGen, .refl⟩
      · exact .inr ⟨before, .refl⟩

variable {heap : Heap} (acyclic : heap.Acyclic)

include acyclic

theorem acyclic_append_iff {cell : Nat} (there : heap.Has (.array cell)) (item : Value) :
    (heap.append cell item).Acyclic ↔ heap.Avoids item cell := by
  have edges {holder value : Value} := holds_append_iff there item holder value
  rw [avoids_iff]
  constructor
  · intro still below
    have more : heap.Holds ≤ (heap.append cell item).Holds := fun _ _ holds => edges.2 (.inl holds)
    exact still _ (.head' (edges.2 (.inr ⟨rfl, rfl⟩)) (ReflTransGen.mono more _ _ below))
  · intro avoids value circle
    rcases transGen_or_of_edge edges.1 circle with old | ⟨before, after⟩
    · exact acyclic value old
    · exact avoids (after.trans before)

theorem Acyclic.removeLast (cell : Nat) : (heap.removeLast cell).2.Acyclic := by
  have fewer : (heap.removeLast cell).2.Holds ≤ heap.Holds := fun _ _ => holds_of_removeLast
  exact fun value circle => acyclic value (TransGen.mono fewer _ _ circle)

/-- A further cell that holds what was there closes no circle, for nothing leads to it. -/
theorem Acyclic.of_fresh (closed : heap.Closed) {larger : Heap} {fresh : Value}
    (missing : ¬heap.Has fresh)
    (edges : ∀ {holder value}, larger.Holds holder value →
      heap.Holds holder value ∨ holder = fresh ∧ heap.Has value) : larger.Acyclic := by
  have target {holder value : Value} (holds : larger.Holds holder value) : value ≠ fresh := by
    rintro rfl
    rcases edges holds with old | ⟨_, has⟩
    · exact missing (closed _ _ old)
    · exact missing has
  have path {first last : Value} (outside : first ≠ fresh)
      (path : TransGen larger.Holds first last) :
      TransGen heap.Holds first last ∧ last ≠ fresh := by
    induction path with
    | single holds =>
      exact ⟨.single ((edges holds).resolve_right fun new => outside new.1), target holds⟩
    | tail _ holds ih =>
      exact ⟨ih.1.tail ((edges holds).resolve_right fun new => ih.2 new.1), target holds⟩
  intro value circle
  refine acyclic value (path ?_ circle).1
  cases circle with
  | single holds => exact target holds
  | tail _ holds => exact target holds

theorem Acyclic.newArray (closed : heap.Closed) {items : List Value}
    (there : ∀ item ∈ items, heap.Has item) : (heap.newArray items).2.Acyclic := by
  have missing : ¬heap.Has (heap.newArray items).1 := Nat.lt_irrefl _
  refine acyclic.of_fresh closed missing fun holds => ?_
  exact (holds_of_newArray holds).imp_right fun new => ⟨new.1, there _ new.2⟩

theorem Acyclic.newObject (closed : heap.Closed) {entries : Table Value}
    (there : ∀ value ∈ entries.values, heap.Has value) : (heap.newObject entries).2.Acyclic := by
  have missing : ¬heap.Has (heap.newObject entries).1 := Nat.lt_irrefl _
  refine acyclic.of_fresh closed missing fun holds => ?_
  exact (holds_of_newObject holds).imp_right fun new => ⟨new.1, there _ new.2⟩

end Heap

namespace Operation

/-- If the call appends a value to an array, the array is not reached from the value. -/
def Safe (heap : Heap) (operation : Operation) (values : List Value)
    (outcome : Except Fault Value) : Prop :=
  ∀ cell item rest, operation = listAppend → values = .array cell :: item :: rest →
    outcome = .ok (.array cell) → heap.Avoids item cell

/-- No call closes a circle but one that appends, and such a call does so unless it is safe. -/
theorem Alters.acyclic_iff {before after : Heap} {operation : Operation} {values : List Value}
    {outcome : Except Fault Value} (alters : Alters before operation values outcome after)
    (acyclic : before.Acyclic) (closed : before.Closed)
    (given : ∀ value ∈ values, before.Has value) :
    after.Acyclic ↔ Safe before operation values outcome := by
  cases alters with
  | refused => exact iff_of_true acyclic nofun
  | still apart =>
    refine iff_of_true acyclic fun _ _ _ appends => ?_
    rw [appends] at apart
    cases apart
  | appended cell item rest =>
    rw [Heap.acyclic_append_iff acyclic (given _ (by simp)) item]
    refine ⟨fun avoids other value tail _ same _ => ?_, fun safe => safe cell item rest rfl rfl rfl⟩
    cases same
    exact avoids
  | removed cell => exact iff_of_true (acyclic.removeLast cell) nofun
  | created creates known =>
    refine iff_of_true (acyclic.newArray closed (closed.has_listed known)) fun _ _ _ appends => ?_
    simp [appends] at creates

end Operation

namespace Heap

variable {heap : Heap}

/-- A value that unfolds to a finite tree, and its text to the text of that tree. -/
def Unfolds (heap : Heap) (value : Value) : Prop :=
  ∃ tree, heap.Shows {} value tree ∧ heap.tree value = tree

theorem exists_showsItems {items : List Value}
    (each : ∀ item ∈ items, ∃ tree, heap.Shows {} item tree) :
    ∃ trees, heap.ShowsItems {} items trees := by
  induction items with
  | nil => exact ⟨[], .nil⟩
  | cons item rest ih =>
    rw [List.forall_mem_cons] at each
    obtain ⟨tree, shown⟩ := each.1
    obtain ⟨trees, others⟩ := ih each.2
    exact ⟨tree :: trees, .cons shown others⟩

theorem exists_showsEntries {entries : Table Value}
    (each : ∀ entry ∈ entries, ∃ tree, heap.Shows {} entry.2 tree) :
    ∃ trees, heap.ShowsEntries {} entries trees := by
  induction entries with
  | nil => exact ⟨[], .nil⟩
  | cons entry rest ih =>
    rw [List.forall_mem_cons] at each
    obtain ⟨tree, shown⟩ := each.1
    obtain ⟨trees, others⟩ := ih each.2
    exact ⟨(entry.1, tree) :: trees, .cons shown others⟩

theorem exists_shows_of_held {value : Value} (has : heap.Has value)
    (held : ∀ part, heap.Holds value part → ∃ tree, heap.Shows {} part tree) :
    ∃ tree, heap.Shows {} value tree := by
  cases value with
  | number x => exact ⟨_, .number x⟩
  | text s => exact ⟨_, .text s⟩
  | boolean b => exact ⟨_, .boolean b⟩
  | undefined => exact ⟨_, .undefined⟩
  | array cell =>
    have found := List.getElem?_eq_getElem has
    obtain ⟨trees, shown⟩ := exists_showsItems fun item member => held item (.item found member)
    exact ⟨_, .array (Nat.zero_le _) found shown⟩
  | object cell =>
    have found := List.getElem?_eq_getElem has
    obtain ⟨trees, shown⟩ := exists_showsEntries fun (key, part) member =>
      held part (.entry found member)
    exact ⟨_, .object (Nat.zero_le _) found shown⟩

theorem exists_place_of_holds {holder value : Value} (holds : heap.Holds holder value) :
    ∃ place : Fin heap.size, heap.cellAt place = holder := by
  cases holds with
  | @item cell _ _ found =>
    have bound := (List.getElem?_eq_some_iff.1 found).1
    exact ⟨⟨cell, Nat.lt_add_right _ bound⟩, if_pos bound⟩
  | @entry cell _ _ _ found =>
    have bound := (List.getElem?_eq_some_iff.1 found).1
    refine ⟨⟨heap.arrays.length + cell, Nat.add_lt_add_left bound _⟩, ?_⟩
    rw [cellAt, if_neg (Nat.not_lt.2 (Nat.le_add_right _ _)), Nat.add_sub_cancel_left]

/-- No cell that is reached from a value is reached from itself. -/
def AcyclicFrom (heap : Heap) (value : Value) : Prop :=
  ∀ part, ReflTransGen heap.Holds value part → ¬TransGen heap.Holds part part

/-- There are finitely many cells, so that without circles every way down ends. -/
theorem AcyclicFrom.acc {value : Value} (acyclic : heap.AcyclicFrom value) :
    Acc (fun lower upper => heap.Holds upper lower) value := by
  let Below (lower upper : Fin heap.size) : Prop :=
    ReflTransGen heap.Holds value (heap.cellAt upper) ∧
      TransGen heap.Holds (heap.cellAt upper) (heap.cellAt lower)
  have trans : IsTrans _ Below := ⟨fun _ _ _ first second => ⟨second.1, second.2.trans first.2⟩⟩
  have irrefl : Std.Irrefl Below := ⟨fun _ circle => acyclic _ circle.1 circle.2⟩
  have descends : WellFounded Below := Finite.wellFounded_of_trans_of_irrefl Below
  have cells (place : Fin heap.size) (path : ReflTransGen heap.Holds value (heap.cellAt place)) :
      Acc (fun lower upper => heap.Holds upper lower) (heap.cellAt place) := by
    induction place using descends.induction with
    | _ place ih =>
      -- what is held need not be a cell, but what holds something in turn is one
      refine .intro _ fun lower holds => .intro _ fun lowest further => ?_
      obtain ⟨below, rfl⟩ := exists_place_of_holds further
      exact (ih below ⟨path, .single holds⟩ (path.tail holds)).inv further
  refine .intro value fun lower holds => ?_
  obtain ⟨place, rfl⟩ := exists_place_of_holds holds
  exact (cells place .refl).inv holds

theorem AcyclicFrom.unfolds {value : Value} (acyclic : heap.AcyclicFrom value)
    (closed : heap.Closed) (has : heap.Has value) : heap.Unfolds value := by
  have shown : ∃ tree, heap.Shows {} value tree := by
    induction acyclic.acc with
    | intro value _ ih =>
      exact exists_shows_of_held has fun part holds =>
        ih part holds (fun lower path => acyclic lower (path.head holds)) (closed value part holds)
  obtain ⟨tree, shows⟩ := shown
  exact ⟨tree, shows, shows.tree_eq⟩

theorem Acyclic.unfolds (acyclic : heap.Acyclic) (closed : heap.Closed) {value : Value}
    (has : heap.Has value) : heap.Unfolds value :=
  AcyclicFrom.unfolds (fun part _ => acyclic part) closed has

theorem ShowsItems.held {items : List Value} {trees : List Tree} {item : Value}
    (member : item ∈ items) : heap.ShowsItems {} items trees →
      ∃ tree, heap.Shows {} item tree ∧ tree.height ≤ Tree.heightOfItems trees
  | @ShowsItems.cons _ _ _ tree _ _ first rest => by
    rw [Tree.heightOfItems]
    rcases List.mem_cons.1 member with rfl | later
    · exact ⟨tree, first, Nat.le_max_left _ _⟩
    · obtain ⟨lower, shown, bound⟩ := rest.held later
      exact ⟨lower, shown, Nat.le_trans bound (Nat.le_max_right _ _)⟩

theorem ShowsEntries.held {entries : Table Value} {trees : List (String × Tree)} {key : String}
    {value : Value} (member : (key, value) ∈ entries) : heap.ShowsEntries {} entries trees →
      ∃ tree, heap.Shows {} value tree ∧ tree.height ≤ Tree.heightOfEntries trees
  | @ShowsEntries.cons _ _ _ _ tree _ _ first rest => by
    rw [Tree.heightOfEntries]
    rcases List.mem_cons.1 member with here | later
    · cases here
      exact ⟨tree, first, Nat.le_max_left _ _⟩
    · obtain ⟨lower, shown, bound⟩ := rest.held later
      exact ⟨lower, shown, Nat.le_trans bound (Nat.le_max_right _ _)⟩

theorem Shows.held {value part : Value} {tree : Tree} (shows : heap.Shows {} value tree)
    (holds : heap.Holds value part) :
    ∃ lower, heap.Shows {} part lower ∧ lower.height < tree.height := by
  cases holds with
  | item found member =>
    cases shows with
    | array _ here items =>
      cases found.symm.trans here
      obtain ⟨lower, shown, bound⟩ := items.held member
      exact ⟨lower, shown, by rw [Tree.height]; omega⟩
  | entry found member =>
    cases shows with
    | object _ here entries =>
      cases found.symm.trans here
      obtain ⟨lower, shown, bound⟩ := entries.held member
      exact ⟨lower, shown, by rw [Tree.height]; omega⟩

theorem Shows.reached {value part : Value} {tree : Tree} (shows : heap.Shows {} value tree)
    (path : TransGen heap.Holds value part) :
    ∃ lower, heap.Shows {} part lower ∧ lower.height < tree.height := by
  induction path with
  | single holds => exact shows.held holds
  | tail _ holds ih =>
    obtain ⟨middle, shown, above⟩ := ih
    obtain ⟨lower, last, below⟩ := shown.held holds
    exact ⟨lower, last, Nat.lt_trans below above⟩

theorem Shows.acyclicFrom {value : Value} {tree : Tree} (shows : heap.Shows {} value tree) :
    heap.AcyclicFrom value := by
  intro part path circle
  obtain ⟨lower, shown⟩ : ∃ lower, heap.Shows {} part lower := by
    rcases Relation.reflTransGen_iff_eq_or_transGen.1 path with rfl | onward
    · exact ⟨tree, shows⟩
    · exact (shows.reached onward).imp fun _ => And.left
  obtain ⟨again, last, less⟩ := shown.reached circle
  rw [last.unique shown] at less
  exact Nat.lt_irrefl _ less

theorem has_of_holds {holder value : Value} (holds : heap.Holds holder value) :
    heap.Has holder := by
  cases holds with
  | item found | entry found => exact (List.getElem?_eq_some_iff.1 found).1

/-- A heap has no circles exactly if every value on it has a finite text. -/
theorem acyclic_iff (closed : heap.Closed) :
    heap.Acyclic ↔ ∀ value, heap.Has value → heap.Unfolds value := by
  refine ⟨fun acyclic value has => acyclic.unfolds closed has, fun each value circle => ?_⟩
  obtain ⟨_, holds, _⟩ := TransGen.head'_iff.1 circle
  obtain ⟨tree, shows, _⟩ := each value (has_of_holds holds)
  exact shows.acyclicFrom value .refl circle

end Heap

def Moment.Safe {σ : Type} (moment : Moment σ) : Prop :=
  moment.operation.Safe moment.before.heap moment.arguments moment.outcome

theorem World.acyclic_own {σ : Type} (console : Console σ) {world : World σ}
    (closed : world.Closed) (acyclic : world.heap.Acyclic) {request : Request}
    (own : request.IsOwn) (uses : request.Uses world.heap) :
    (world.answer console request).2.heap.Acyclic := by
  cases request with
  | readBindings | readHeap => exact acyclic
  | newArray items => exact acyclic.newArray closed.heap uses
  | newObject entries => exact acyclic.newObject closed.heap uses.2
  | _ => cases own

theorem kept_acyclic {σ : Type} (console : Console σ) :
    Kept console Moment.Safe fun world => world.Closed ∧ world.heap.Acyclic where
  closed := And.left
  own start isOwn uses := ⟨World.closed_own console start.1 isOwn uses,
    World.acyclic_own console start.1 start.2 isOwn uses⟩
  calls {world invocation} start there safe := by
    have alters := Operation.alters_action? console world invocation.found
    exact ⟨(World.closed_call console start.1 invocation there).1,
      (alters.acyclic_iff start.2 start.1.heap there).2 safe⟩

theorem Catalog.alters_invoke (catalog : Catalog) (name : String) (arguments : List Value)
    {σ : Type} (console : Console σ) (world : World σ) :
    (∃ fault, (catalog.invoke name arguments).run console world = (.error fault, world)) ∨
      ∃ arity operation, catalog.function? name = some (arity, operation) ∧
        Operation.Alters world.heap operation arguments
          ((catalog.invoke name arguments).run console world).1
          ((catalog.invoke name arguments).run console world).2.heap := by
  cases function : catalog.function? name with
  | none =>
    rw [invoke, function]
    exact .inl ⟨_, rfl⟩
  | some entry =>
    obtain ⟨arity, operation⟩ := entry
    rw [invoke_eq function, Operation.called]
    split
    · cases found : operation.action? arguments with
      | none => exact .inl ⟨_, rfl⟩
      | some action =>
        exact .inr ⟨arity, operation, rfl, Operation.alters_action? console world found⟩
    · exact .inl ⟨_, rfl⟩

namespace Interpreter

variable {σ : Type} (interpreter : Interpreter σ) (world : World σ)

structure KeepsAcyclic : Prop where
  /-- Every value has a finite text exactly if no cell is reached from itself. -/
  exactly : world.heap.Acyclic ↔ ∀ value, world.heap.Has value → world.heap.Unfolds value
  /-- Builtin functions close no circle, unless they append. -/
  invoked (name : String) (arguments : List Value) : world.heap.Acyclic →
    (∀ value ∈ arguments, world.heap.Has value) →
      (∀ arity value, interpreter.catalog.function? name = some (arity, .listAppend) →
        (interpreter.invoke name arguments world).1 ≠ .ok value) →
          (interpreter.invoke name arguments world).2.heap.Acyclic
  /-- Neither do the cells of literals. -/
  literal (items : List Value) (entries : Table Value) : world.heap.Acyclic →
    (∀ item ∈ items, world.heap.Has item) → (∀ value ∈ entries.values, world.heap.Has value) →
      (world.heap.newArray items).2.Acyclic ∧ (world.heap.newObject entries).2.Acyclic
  /-- Appending a value to an array closes none exactly if the array is neither the value nor
  reached from it. -/
  appended (name : String) (arity : Arity) (cell : Nat) (item : Value) : world.heap.Acyclic →
    interpreter.catalog.function? name = some (arity, .listAppend) → arity.accepts 2 = true →
      world.heap.Has (.array cell) →
        (interpreter.invoke name [.array cell, item] world).1 = .ok (.array cell) ∧
          ((interpreter.invoke name [.array cell, item] world).2.heap.Acyclic ↔
            item ≠ .array cell ∧ ¬TransGen world.heap.Holds item (.array cell))
  /-- The same holds at every builtin call in the course of a call on the interpreter. -/
  midway (call : Call) (moment : Moment σ) : moment ∈ interpreter.moments world call →
    moment.before.heap.Acyclic → (moment.after.heap.Acyclic ↔ moment.Safe)
  /-- A call that appends only so leaves no circle, and every value that it hands to a builtin
  function, to be printed, joined, bound to or else, has a finite text at that time. -/
  run (call : Call) : world.heap.Acyclic →
    (∀ moment ∈ interpreter.moments world call, moment.Safe) →
      (interpreter.perform world call).heap.Acyclic ∧
        ∀ moment ∈ interpreter.moments world call, ∀ value ∈ moment.arguments,
          moment.before.heap.Unfolds value

variable {interpreter world}

theorem keepsAcyclic (plain : interpreter.catalog.Plain) (closed : world.Closed) :
    interpreter.KeepsAcyclic world where
  exactly := Heap.acyclic_iff closed.heap
  invoked name arguments acyclic there other := by
    rcases interpreter.catalog.alters_invoke name arguments interpreter.console world with
      ⟨fault, same⟩ | ⟨arity, operation, function, alters⟩
    · rw [invoke, same]
      exact acyclic
    · refine (alters.acyclic_iff acyclic closed.heap there).2 ?_
      intro cell item rest appends _ ends
      rw [appends] at function
      exact absurd ends (other arity _ function)
  literal items entries acyclic there present :=
    ⟨acyclic.newArray closed.heap there, acyclic.newObject closed.heap present⟩
  appended name arity cell item acyclic function pair there := by
    rw [invoke, Catalog.invoke_eq function, Operation.called, List.length_cons,
      List.length_singleton, if_pos pair]
    exact ⟨rfl, Heap.acyclic_append_iff acyclic there item⟩
  midway call moment member acyclic := by
    obtain ⟨_, each⟩ := perform_kept plain (World.kept_closed interpreter.console) closed call
      fun _ _ => trivial
    obtain ⟨before, there⟩ := each moment member
    exact (interpreter.alters_of_mem world member).2.1.acyclic_iff acyclic before.heap there
  run call acyclic safe := by
    have kept := kept_acyclic interpreter.console
    obtain ⟨ends, each⟩ := perform_kept plain kept ⟨closed, acyclic⟩ call safe
    refine ⟨ends.2, fun moment member value given => ?_⟩
    obtain ⟨before, there⟩ := each moment member
    exact before.2.unfolds before.1.heap (there value given)

end Interpreter

/-- In every state that a session can reach, all values have a finite text exactly if no cell is
reached from itself, and only appending an array to itself or to what lies below it ends that. -/
theorem session_keepsAcyclic {σ : Type} (interpreter : Interpreter σ)
    (plain : interpreter.catalog.Plain) (earlier : List Call) (state : σ) :
    interpreter.KeepsAcyclic (interpreter.session earlier ⟨{}, {}, state⟩) := by
  have closed := Interpreter.closed_session plain earlier (World.closed_fresh state)
  exact Interpreter.keepsAcyclic plain closed

theorem Catalog.plain_standard : Catalog.standard.Plain := by
  intro name value found
  have member := Table.mem_of_get? found
  rw [standard, List.mem_append] at member
  rcases member with function | constant
  · obtain ⟨operation, _, same⟩ := List.mem_map.1 function
    cases same
  · simp only [List.mem_cons, List.not_mem_nil, or_false, Prod.mk.injEq] at constant
    rcases constant with ⟨_, same⟩ | ⟨_, same⟩ <;> cases same <;> trivial

theorem Moment.safe_of_all {σ : Type} {moments : List (Moment σ)}
    (others : moments.all fun moment => moment.operation != .listAppend) :
    ∀ moment ∈ moments, moment.Safe := by
  intro moment member cell item rest appends
  have other := List.all_eq_true.1 others moment member
  rw [appends] at other
  cases other

/-- An array that is appended to itself can no longer be printed. Before that it can. -/
theorem session_keepsAcyclic_loop :
    let interpreter := Interpreter.inMemory .standard 256
    let world := interpreter.session [.execute "rakha(\"xs\", [\"a\"])".toList] ⟨{}, {}, {}⟩
    interpreter.catalog.Plain ∧ world.heap.Acyclic ∧
      ¬(interpreter.invoke "thapList" [.array 0, .array 0] world).2.heap.Acyclic ∧
      ∃ moment ∈ interpreter.moments world (.execute "bhanai(xs)".toList),
        moment.operation = .print ∧ moment.arguments = [.array 0] ∧
          moment.before.heap.Unfolds (.array 0) := by
  intro interpreter world
  have plain : interpreter.catalog.Plain := Catalog.plain_standard
  have fresh : (⟨{}, {}, {}⟩ : World Transcript).heap.Acyclic := by
    intro value circle
    obtain ⟨_, holds, _⟩ := TransGen.head'_iff.1 circle
    cases holds with
    | item found | entry found => cases found
  have start := session_keepsAcyclic interpreter plain [] {}
  have acyclic : world.heap.Acyclic :=
    (start.run (.execute "rakha(\"xs\", [\"a\"])".toList) fresh
      (Moment.safe_of_all (by decide +kernel))).1
  have keeps := session_keepsAcyclic interpreter plain
    [.execute "rakha(\"xs\", [\"a\"])".toList] {}
  refine ⟨plain, acyclic, fun still => ?_, ?_⟩
  · have there : 0 < world.heap.arrays.length := by decide +kernel
    have loops := keeps.appended "thapList" (.exactly 2) 0 (.array 0) acyclic rfl rfl there
    exact (loops.2.1 still).1 rfl
  · have prints : ∃ moment ∈ interpreter.moments world (.execute "bhanai(xs)".toList),
        moment.operation = .print ∧ moment.arguments = [.array 0] :=
      ⟨_, List.mem_of_getElem? (i := 0) rfl, rfl, rfl⟩
    obtain ⟨moment, member, operation, arguments⟩ := prints
    refine ⟨moment, member, operation, arguments, ?_⟩
    exact (keeps.run (.execute "bhanai(xs)".toList) acyclic
      (Moment.safe_of_all (by decide +kernel))).2 moment member _ (by simp [arguments])

end LineScript
