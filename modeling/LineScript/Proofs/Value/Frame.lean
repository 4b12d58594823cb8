import LineScript.Proofs.Builtin.Outcome
import LineScript.Proofs.Course
import LineScript.Proofs.Value.Shown

/-! What a call on an interpreter leaves of the heap. Objects stay as they are. An array changes
only where a builtin call appends to it or removes its last item, once for each such call. What
literals and the operations that return new arrays give is a cell that was not there before. -/
namespace LineScript

namespace Operation

/-- What a call makes of the items of a cell. -/
def edit (cell : Nat) : Operation → List Value → Except Fault Value → List Value → List Value
  | listAppend, .array named :: item :: _, .ok _, items =>
    if named = cell then items ++ [item] else items
  | listRemoveLast, .array named :: _, .ok _, items =>
    if named = cell then items.dropLast else items
  | _, _, _, items => items

theorem edit_eq_or (cell : Nat) (operation : Operation) (values : List Value)
    (outcome : Except Fault Value) (items : List Value) :
    edit cell operation values outcome items = items ∨
      operation ∈ [listAppend, listRemoveLast] ∧ values.head? = some (.array cell) ∧
        ∃ value, outcome = .ok value := by
  unfold edit
  split
  next named item rest value =>
    by_cases here : named = cell
    · exact .inr ⟨by simp, by simp [here], value, rfl⟩
    · exact .inl (if_neg here)
  next named rest value =>
    by_cases here : named = cell
    · exact .inr ⟨by simp, by simp [here], value, rfl⟩
    · exact .inl (if_neg here)
  next => exact .inl rfl

section

variable {before after : Heap} {operation : Operation} {values : List Value}
  {outcome : Except Fault Value} (alters : Alters before operation values outcome after)

include alters

theorem Alters.objects_eq : after.objects = before.objects := by
  cases alters <;> rfl

theorem Alters.array_edit {cell : Nat} {items : List Value}
    (found : before.arrays[cell]? = some items) :
    after.arrays[cell]? = some (edit cell operation values outcome items) := by
  cases alters with
  | refused =>
    rw [edit]
    · exact found
    · simp
    · simp
  | still apart =>
    cases operation with
    | listAppend | listRemoveLast => cases apart
    | _ => exact found
  | appended named item rest =>
    rw [Heap.append, List.getElem?_modify, found, edit]
    rfl
  | removed named rest =>
    rw [Heap.removeLast, List.getElem?_modify, found, edit]
    rfl
  | @created _ _ fresh creates =>
    have same : edit cell operation values (.ok (before.newArray fresh).1) items = items := by
      simp only [List.mem_cons, List.not_mem_nil, or_false] at creates
      rcases creates with rfl | rfl | rfl <;> rfl
    rw [same]
    exact Heap.getElem?_of_grown (List.prefix_append _ _) found

end

end Operation

namespace Heap

/-- A value that is no handle, or a handle to a cell that is there. -/
def Has (heap : Heap) : Value → Prop
  | .array cell => cell < heap.arrays.length
  | .object cell => cell < heap.objects.length
  | _ => True

structure Within (smaller larger : Heap) : Prop where
  arrays : smaller.arrays.length ≤ larger.arrays.length
  objects : smaller.objects.length ≤ larger.objects.length

theorem Within.refl (heap : Heap) : heap.Within heap := ⟨Nat.le_refl _, Nat.le_refl _⟩

theorem Within.trans {first second third : Heap} (before : first.Within second)
    (after : second.Within third) : first.Within third :=
  ⟨Nat.le_trans before.arrays after.arrays, Nat.le_trans before.objects after.objects⟩

theorem Has.mono {smaller larger : Heap} {value : Value} (has : smaller.Has value)
    (within : smaller.Within larger) : larger.Has value := by
  cases value with
  | array cell => exact Nat.lt_of_lt_of_le has within.arrays
  | object cell => exact Nat.lt_of_lt_of_le has within.objects
  | _ => trivial

structure Keeps (old before after : Heap) : Prop where
  arrays (cell : Nat) : cell < old.arrays.length → after.arrays[cell]? = before.arrays[cell]?
  objects : after.objects = before.objects

/-- A handle to a cell that is in a heap and was not in an earlier one. -/
structure New (old now : Heap) (value : Value) : Prop where
  missing : ¬old.Has value
  there : now.Has value

theorem New.mono {older old now later : Heap} {value : Value} (new : old.New now value)
    (before : older.Within old) (after : now.Within later) : older.New later value :=
  ⟨fun has => new.missing (has.mono before), new.there.mono after⟩

theorem new_newArray (heap : Heap) (items : List Value) :
    heap.New (heap.newArray items).2 (heap.newArray items).1 :=
  ⟨Nat.lt_irrefl _, by simp [newArray, Has]⟩

theorem new_newObject (heap : Heap) (entries : Table Value) :
    heap.New (heap.newObject entries).2 (heap.newObject entries).1 :=
  ⟨Nat.lt_irrefl _, by simp [newObject, Has]⟩

/-- A handle to a new cell, of which the cells of the earlier heap know nothing: appending to it
and removing from it leaves them as they are. -/
structure Apart (old now : Heap) (value : Value) : Prop where
  isNew : old.New now value
  keeps {σ : Type} (console : Console σ) (later : World σ) (operation : Operation)
    (rest : List Value) (action : Action Fault Value) : old.Within later.heap →
      operation ∈ [.listAppend, .listRemoveLast] →
        operation.action? (value :: rest) = some action →
          old.Keeps later.heap (action.run console later).2.heap

theorem New.apart {old now : Heap} {value : Value} (new : old.New now value) :
    old.Apart now value := by
  refine ⟨new, fun console later operation rest action within _ found => ?_⟩
  have alters := Operation.alters_action? console later found
  refine ⟨fun cell inside => ?_, alters.objects_eq⟩
  have there := List.getElem?_eq_getElem (Nat.lt_of_lt_of_le inside within.arrays)
  rw [alters.array_edit there, there]
  -- a call that edits a cell of `old` would have to name it
  rcases Operation.edit_eq_or cell operation (value :: rest) _ _ with same | ⟨_, named, _⟩
  · rw [same]
  · cases named
    exact absurd inside new.missing

end Heap

def Moment.edit {σ : Type} (cell : Nat) (items : List Value) (moment : Moment σ) : List Value :=
  moment.operation.edit cell moment.arguments moment.outcome items

structure Moment.Edits {σ : Type} (moment : Moment σ) (cell : Nat) : Prop where
  operation : moment.operation ∈ [.listAppend, .listRemoveLast]
  named : moment.arguments.head? = some (.array cell)
  succeeds : ∃ value, moment.outcome = .ok value

/-- The heap before and after some calls. Objects stay as they are, and each array is edited by
the calls, one after the other. -/
structure Framed {σ : Type} (before : Heap) (moments : List (Moment σ)) (after : Heap) : Prop where
  objects : before.objects <+: after.objects
  arrays {cell : Nat} {items : List Value} : before.arrays[cell]? = some items →
    after.arrays[cell]? = some (moments.foldl (Moment.edit cell) items)

section

variable {σ : Type} {first second third : Heap}

theorem Framed.trans {earlier later : List (Moment σ)} (before : Framed first earlier second)
    (after : Framed second later third) : Framed first (earlier ++ later) third := by
  refine ⟨before.objects.trans after.objects, fun found => ?_⟩
  rw [List.foldl_append]
  exact after.arrays (before.arrays found)

theorem Framed.within {moments : List (Moment σ)} (framed : Framed first moments second) :
    first.Within second := by
  refine ⟨Nat.le_of_not_lt fun longer => ?_, framed.objects.length_le⟩
  have there := framed.arrays (List.getElem?_eq_getElem longer)
  rw [List.getElem?_eq_none (Nat.le_refl _)] at there
  cases there

theorem Heap.Grows.within (grows : first.Grows second) : first.Within second :=
  ⟨grows.arrays.length_le, grows.objects.length_le⟩

theorem Heap.Grows.framed (grows : first.Grows second) : Framed (σ := σ) first [] second :=
  ⟨grows.objects, Heap.getElem?_of_grown grows.arrays⟩

end

theorem World.grows_own {σ : Type} (console : Console σ) (world : World σ) {request : Request}
    (own : request.IsOwn) : world.heap.Grows (world.answer console request).2.heap := by
  cases request with
  | readBindings | readHeap => exact .refl _
  | newArray items => exact ⟨List.prefix_append _ _, List.prefix_rfl⟩
  | newObject entries => exact ⟨List.prefix_rfl, List.prefix_append _ _⟩
  | _ => cases own

namespace Course

variable {ε α σ : Type} (console : Console σ)

theorem framed_call (invocation : Invocation) (world : World σ) :
    Framed world.heap [invocation.moment console world]
      (invocation.moment console world).after.heap := by
  have alters := Operation.alters_action? console world invocation.found
  exact ⟨alters.objects_eq ▸ List.prefix_rfl, alters.array_edit⟩

theorem framed (course : Course ε α) (world : World σ) :
    Framed world.heap (course.moments console world) (course.action.run console world).2.heap := by
  induction course generalizing world with
  | done value | fail error => exact (Heap.Grows.refl _).framed
  | ask request own next ih => exact (world.grows_own console own).framed.trans (ih _ _)
  | call invocation next ih =>
    rw [run_call]
    exact (framed_call console invocation world).trans (ih _ _)

/-- Every call does what its operation does, and no cell is lost before or after it. -/
theorem alters_of_mem {course : Course ε α} {world : World σ} {moment : Moment σ}
    (member : moment ∈ course.moments console world) :
    world.heap.Within moment.before.heap ∧ Operation.Alters moment.before.heap moment.operation
      moment.arguments moment.outcome moment.after.heap ∧
        moment.after.heap.Within (course.action.run console world).2.heap := by
  induction course generalizing world with
  | done value | fail error => cases member
  | ask request own next ih =>
    obtain ⟨within, alters, onward⟩ := ih _ member
    exact ⟨(world.grows_own console own).within.trans within, alters, onward⟩
  | call invocation next ih =>
    rw [run_call]
    rcases List.mem_cons.1 member with rfl | later
    · exact ⟨.refl _, Operation.alters_action? console world invocation.found,
        (framed console _ _).within⟩
    · obtain ⟨within, alters, onward⟩ := ih _ later
      exact ⟨(framed_call console invocation world).within.trans within, alters, onward⟩

end Course

theorem Operation.Alters.new {before after : Heap} {operation : Operation}
    {values : List Value} {value : Value}
    (alters : Alters before operation values (.ok value) after)
    (creates : operation ∈ [split, objectKeys, objectValues]) : before.New after value := by
  cases alters with
  | still apart =>
    simp only [List.mem_cons, List.not_mem_nil, or_false] at creates
    rcases creates with rfl | rfl | rfl <;> cases apart
  | appended | removed => simp at creates
  | created => exact before.new_newArray _

namespace Account

variable {ε α β σ : Type} {action : Action ε α} (account : Account action) (console : Console σ)

include account

theorem framed (world : World σ) :
    Framed world.heap (account.course.moments console world)
      (action.run console world).2.heap := by
  have whole := account.course.framed console world
  rwa [account.faithful] at whole

theorem alters_of_mem {world : World σ} {moment : Moment σ}
    (member : moment ∈ account.course.moments console world) :
    world.heap.Within moment.before.heap ∧ Operation.Alters moment.before.heap moment.operation
      moment.arguments moment.outcome moment.after.heap ∧
        moment.after.heap.Within (action.run console world).2.heap := by
  have whole := Course.alters_of_mem console member
  rwa [account.faithful] at whole

theorem new_of_bind {next : α → Action ε Value} {world : World σ} {value : Value}
    (ends : ((action >>= next).run console world).1 = .ok value)
    (last : ∀ part middle, ((next part).run console middle).1 = .ok value →
      middle.heap.New ((next part).run console middle).2.heap value) :
    world.heap.New ((action >>= next).run console world).2.heap value := by
  cases first : (action.run console world).1 with
  | error error =>
    rw [Action.run_bind_error (Prod.ext first rfl)] at ends
    cases ends
  | ok part =>
    rw [Action.run_bind (Prod.ext first rfl)] at ends ⊢
    exact (last part _ ends).mono (account.framed console world).within (.refl _)

end Account

namespace Expression

variable {σ : Type} (console : Console σ) (catalog : Catalog)

theorem new_of_literal {limit : Nat} {fragment body : Text}
    (literal : Form.ofFragment (Text.trim fragment) = .array body ∨
      Form.ofFragment (Text.trim fragment) = .object body)
    {world : World σ} {value : Value}
    (ends : ((evaluate catalog limit fragment).run console world).1 = .ok value) :
    world.heap.New ((evaluate catalog limit fragment).run console world).2.heap value := by
  cases limit with
  | zero => cases ends
  | succ limit =>
    rw [evaluate] at ends ⊢
    rcases literal with array | object
    · rw [array] at ends ⊢
      refine (Account.ofExcept (items body)).new_of_bind console ends fun fragments middle => ?_
      intro ends
      refine (Account.mapM (account catalog limit) fragments).new_of_bind console ends ?_
      rintro values last ⟨⟩
      exact last.heap.new_newArray values
    · rw [object] at ends ⊢
      refine (Account.ofExcept (items body)).new_of_bind console ends fun texts middle => ?_
      intro ends
      refine (Account.foldlM (enterAccount (account catalog limit)) texts []).new_of_bind
        console ends ?_
      rintro entries last ⟨⟩
      exact last.heap.new_newObject entries

end Expression

theorem Heap.removeLast_append {heap : Heap} {cell : Nat} {items : List Value}
    (found : heap.arrays[cell]? = some items) (item : Value) :
    (heap.append cell item).removeLast cell = (some item, heap) := by
  have restored : ((heap.arrays.modify cell (· ++ [item])).modify cell List.dropLast) =
      heap.arrays := by
    refine List.ext_getElem? fun other => ?_
    rw [List.getElem?_modify, List.getElem?_modify, Option.map_eq_map, Option.map_eq_map,
      Option.map_map]
    by_cases here : cell = other <;> simp [here, Function.comp_def]
  have last : ((heap.append cell item).items cell).getLast? = some item := by
    simp [Heap.items, Heap.append, found]
  rw [Heap.removeLast, last]
  exact congrArg (fun arrays => (some item, { heap with arrays })) restored

theorem Moment.edit_eq {σ : Type} {cell : Nat} {moment : Moment σ} (other : ¬moment.Edits cell)
    (items : List Value) : moment.edit cell items = items := by
  rcases Operation.edit_eq_or cell moment.operation moment.arguments moment.outcome items with
    same | ⟨edits, named, succeeds⟩
  · exact same
  · exact absurd ⟨edits, named, succeeds⟩ other

theorem foldl_edit_eq {σ : Type} {cell : Nat} {moments : List (Moment σ)}
    (others : ∀ moment ∈ moments, ¬moment.Edits cell) (items : List Value) :
    moments.foldl (Moment.edit cell) items = items := by
  induction moments with
  | nil => rfl
  | cons moment rest ih =>
    rw [List.forall_mem_cons] at others
    rw [List.foldl_cons, Moment.edit_eq others.1, ih others.2]

namespace Interpreter

variable {σ : Type} (interpreter : Interpreter σ) (world : World σ)

theorem framed (call : Call) :
    Framed world.heap (interpreter.moments world call) (interpreter.perform world call).heap := by
  cases call with
  | run source => exact (Script.account _ _ source).framed interpreter.console world
  | evaluate fragment => exact (Expression.account _ _ fragment).framed interpreter.console world
  | execute line => exact (Statement.account _ _ line).framed interpreter.console world

theorem alters_of_mem {call : Call} {moment : Moment σ}
    (member : moment ∈ interpreter.moments world call) :
    world.heap.Within moment.before.heap ∧ Operation.Alters moment.before.heap moment.operation
      moment.arguments moment.outcome moment.after.heap ∧
        moment.after.heap.Within (interpreter.perform world call).heap := by
  cases call with
  | run source => exact (Script.account _ _ source).alters_of_mem interpreter.console member
  | evaluate fragment =>
    exact (Expression.account _ _ fragment).alters_of_mem interpreter.console member
  | execute line => exact (Statement.account _ _ line).alters_of_mem interpreter.console member

/-- What is appended to an array is what is removed from it next, and all is as before. -/
theorem invoke_append_removeLast {push pop : String} {two one : Arity}
    (pushes : interpreter.catalog.function? push = some (two, .listAppend))
    (pops : interpreter.catalog.function? pop = some (one, .listRemoveLast))
    (pair : two.accepts 2 = true) (single : one.accepts 1 = true) {cell : Nat}
    (there : world.heap.Has (.array cell)) (item : Value) :
    ∃ middle, interpreter.invoke push [.array cell, item] world = (.ok (.array cell), middle) ∧
      interpreter.invoke pop [.array cell] middle = (.ok item, world) := by
  refine ⟨{ world with heap := world.heap.append cell item }, ?_, ?_⟩
  · rw [invoke, Catalog.invoke_eq pushes, Operation.called, List.length_cons, List.length_singleton,
      if_pos pair]
    rfl
  · have restored := Heap.removeLast_append (List.getElem?_eq_getElem there) item
    rw [invoke, Catalog.invoke_eq pops, Operation.called, List.length_singleton, if_pos single]
    change (Except.ok (((world.heap.append cell item).removeLast cell).1.getD .undefined),
      { world with heap := ((world.heap.append cell item).removeLast cell).2 }) = _
    rw [restored]
    rfl

/-- What a call on an interpreter may do to the heap, whether it succeeds or not. -/
structure FramesHeap (call : Call) : Prop where
  /-- Objects never change. Each array changes by the appending and removing calls that succeed
  on it, in the order of the calls, and by one item for each. -/
  framed : Framed world.heap (interpreter.moments world call) (interpreter.perform world call).heap
  /-- An array that no such call names is as before. -/
  unnamed (cell : Nat) (items : List Value) : world.heap.arrays[cell]? = some items →
    (∀ moment ∈ interpreter.moments world call, ¬moment.Edits cell) →
      (interpreter.perform world call).heap.arrays[cell]? = some items
  /-- Splitting a text and listing the keys or the values of an object give new cells, which are
  there when the builtin call ends and when the whole call does. -/
  created (moment : Moment σ) (value : Value) : moment ∈ interpreter.moments world call →
    moment.operation ∈ [.split, .objectKeys, .objectValues] → moment.outcome = .ok value →
      moment.before.heap.Apart moment.after.heap value ∧
        world.heap.Apart (interpreter.perform world call).heap value
  /-- So do literals. -/
  literal (fragment body : Text) (value : Value) :
    Expression.Form.ofFragment (Text.trim fragment) = .array body ∨
      Expression.Form.ofFragment (Text.trim fragment) = .object body →
        (interpreter.evaluate fragment world).1 = .ok value →
          world.heap.Apart (interpreter.evaluate fragment world).2.heap value
  /-- Removing undoes appending, also for an array that is appended to itself. -/
  undone (push pop : String) (two one : Arity) (cell : Nat) (item : Value) :
    interpreter.catalog.function? push = some (two, .listAppend) →
      interpreter.catalog.function? pop = some (one, .listRemoveLast) → two.accepts 2 = true →
        one.accepts 1 = true → world.heap.Has (.array cell) →
          ∃ middle, interpreter.invoke push [.array cell, item] world =
              (.ok (.array cell), middle) ∧
            interpreter.invoke pop [.array cell] middle = (.ok item, world)

end Interpreter

/-- Every call on every interpreter, in whatever state, keeps to this. -/
theorem call_framesHeap {σ : Type} (interpreter : Interpreter σ) (world : World σ) (call : Call) :
    interpreter.FramesHeap world call where
  framed := interpreter.framed world call
  unnamed cell items found others := by
    have edited := (interpreter.framed world call).arrays found
    rwa [foldl_edit_eq others] at edited
  created moment value member creates ends := by
    obtain ⟨within, alters, onward⟩ := interpreter.alters_of_mem world member
    rw [ends] at alters
    have new := alters.new creates
    exact ⟨new.apart, (new.mono within onward).apart⟩
  literal fragment body value literal ends := (Expression.new_of_literal _ _ literal ends).apart
  undone _ _ _ _ _ item pushes pops pair single there :=
    interpreter.invoke_append_removeLast world pushes pops pair single there item

/-- An array is appended to itself. The array that a text is split into is another one. -/
theorem call_framesHeap_aliasing :
    let interpreter := Interpreter.inMemory .standard 256
    let world : World Transcript := ⟨{ mutable := [("xs", .array 0)] }, ⟨[[.text "a"]], []⟩, {}⟩
    let later := interpreter.perform world (.evaluate "tukra(\"b\", \"\")".toList)
    (interpreter.perform world (.execute "thapList(xs, xs)".toList)).heap.arrays[0]? =
        some [.text "a", .array 0] ∧
      (interpreter.evaluate "tukra(\"b\", \"\")".toList world).1 = .ok (.array 1) ∧
      world.heap.Apart later.heap (.array 1) := by
  intro interpreter world later
  have frame := call_framesHeap interpreter world (.execute "thapList(xs, xs)".toList)
  have start : world.heap.arrays[0]? = some [.text "a"] := rfl
  refine ⟨frame.framed.arrays start, by rfl, ?_⟩
  have splits : ∃ moment ∈ interpreter.moments world (.evaluate "tukra(\"b\", \"\")".toList),
      moment.operation = .split ∧ moment.outcome = .ok (.array 1) :=
    ⟨_, List.mem_of_getElem? (i := 0) rfl, rfl, rfl⟩
  obtain ⟨moment, member, operation, ends⟩ := splits
  exact ((call_framesHeap interpreter world _).created moment (.array 1) member
    (by simp [operation]) ends).2

end LineScript
