import LineScript.Proofs.Value.Frame

/-! Handles and the cells that they lead to. A store is closed if every handle in it leads to a
cell that is there. The requests of evaluation and the builtin operations keep it closed, if the
handles that they are given lead to cells. -/
namespace LineScript

theorem Value.IsPlain.has {value : Value} (plain : value.IsPlain) (heap : Heap) :
    heap.Has value := by
  cases value with
  | array cell | object cell => cases plain
  | _ => trivial

namespace Heap

/-- The second value is an item or an entry of the first. -/
inductive Holds (heap : Heap) : Value → Value → Prop where
  | item {cell : Nat} {items : List Value} {value : Value} :
      heap.arrays[cell]? = some items → value ∈ items → Holds heap (.array cell) value
  | entry {cell : Nat} {entries : Table Value} {key : String} {value : Value} :
      heap.objects[cell]? = some entries → (key, value) ∈ entries →
        Holds heap (.object cell) value

theorem holds_of_mem_items {heap : Heap} {cell : Nat} {value : Value}
    (member : value ∈ heap.items cell) : heap.Holds (.array cell) value := by
  rw [items] at member
  cases found : heap.arrays[cell]? with
  | none => simp [found] at member
  | some items =>
    rw [found] at member
    exact .item found member

theorem holds_of_mem_entries {heap : Heap} {cell : Nat} {key : String} {value : Value}
    (member : (key, value) ∈ heap.entries cell) : heap.Holds (.object cell) value := by
  rw [entries] at member
  cases found : heap.objects[cell]? with
  | none => simp [found] at member
  | some entries =>
    rw [found] at member
    exact .entry found member

theorem holds_append_iff {heap : Heap} {cell : Nat} (there : heap.Has (.array cell))
    (item holder value : Value) :
    (heap.append cell item).Holds holder value ↔
      heap.Holds holder value ∨ holder = .array cell ∧ value = item := by
  constructor
  · intro holds
    cases holds with
    | @item other items _ found member =>
      rw [append, List.getElem?_modify] at found
      obtain ⟨before, here, rfl⟩ := Option.map_eq_some_iff.1 found
      by_cases same : cell = other
      · rw [if_pos same, List.mem_append, List.mem_singleton] at member
        rcases member with old | new
        · exact .inl (.item here old)
        · exact .inr ⟨by rw [same], new⟩
      · rw [if_neg same] at member
        exact .inl (.item here member)
    | entry found member => exact .inl (.entry found member)
  · rintro (holds | ⟨rfl, rfl⟩)
    · cases holds with
      | @item other items _ found member =>
        refine @Holds.item _ _ (if cell = other then items ++ [item] else items) _ ?_ ?_
        · rw [append, List.getElem?_modify, found]
          rfl
        · split
          · exact List.mem_append_left _ member
          · exact member
      | entry found member => exact .entry found member
    · refine @Holds.item _ _ (heap.items cell ++ [value]) _ ?_ (by simp)
      rw [append, List.getElem?_modify, items, List.getElem?_eq_getElem there]
      simp

theorem holds_of_removeLast {heap : Heap} {cell : Nat} {holder value : Value}
    (holds : (heap.removeLast cell).2.Holds holder value) : heap.Holds holder value := by
  cases holds with
  | @item other items _ found member =>
    rw [removeLast, List.getElem?_modify] at found
    obtain ⟨before, here, rfl⟩ := Option.map_eq_some_iff.1 found
    refine .item here ?_
    split at member
    · exact List.mem_of_mem_dropLast member
    · exact member
  | entry found member => exact .entry found member

theorem holds_of_newArray {heap : Heap} {items : List Value} {holder value : Value}
    (holds : (heap.newArray items).2.Holds holder value) :
    heap.Holds holder value ∨ holder = (heap.newArray items).1 ∧ value ∈ items := by
  cases holds with
  | @item other inside _ found member =>
    rw [newArray, List.getElem?_append] at found
    split at found
    · exact .inl (.item found member)
    · rw [List.getElem?_singleton] at found
      split at found
      · cases found
        exact .inr ⟨by rw [newArray]; congr 1; omega, member⟩
      · cases found
  | entry found member => exact .inl (.entry found member)

theorem holds_of_newObject {heap : Heap} {entries : Table Value} {holder value : Value}
    (holds : (heap.newObject entries).2.Holds holder value) :
    heap.Holds holder value ∨ holder = (heap.newObject entries).1 ∧ value ∈ entries.values := by
  cases holds with
  | item found member => exact .inl (.item found member)
  | @entry other inside key _ found member =>
    rw [newObject, List.getElem?_append] at found
    split at found
    · exact .inl (.entry found member)
    · rw [List.getElem?_singleton] at found
      split at found
      · cases found
        exact .inr ⟨by rw [newObject]; congr 1; omega, List.mem_map_of_mem (f := Prod.snd) member⟩
      · cases found

/-- No cell holds a handle to a cell that is not there. -/
def Closed (heap : Heap) : Prop := ∀ holder value, heap.Holds holder value → heap.Has value

/-- A heap with more cells is closed if all that is new in it is there. -/
theorem Closed.of_within {smaller larger : Heap} (closed : smaller.Closed)
    (within : smaller.Within larger)
    (new : ∀ holder value, larger.Holds holder value →
      smaller.Holds holder value ∨ smaller.Has value) : larger.Closed := by
  intro holder value holds
  rcases new holder value holds with old | has
  · exact (closed holder value old).mono within
  · exact has.mono within

theorem Closed.newArray {heap : Heap} (closed : heap.Closed) {items : List Value}
    (there : ∀ item ∈ items, heap.Has item) : (heap.newArray items).2.Closed := by
  refine closed.of_within ⟨(List.prefix_append _ _).length_le, Nat.le_refl _⟩ ?_
  intro holder value holds
  rcases holds_of_newArray holds with old | ⟨_, member⟩
  · exact .inl old
  · exact .inr (there value member)

theorem Closed.newObject {heap : Heap} (closed : heap.Closed) {entries : Table Value}
    (there : ∀ value ∈ entries.values, heap.Has value) : (heap.newObject entries).2.Closed := by
  refine closed.of_within ⟨Nat.le_refl _, (List.prefix_append _ _).length_le⟩ ?_
  intro holder value holds
  rcases holds_of_newObject holds with old | ⟨_, member⟩
  · exact .inl old
  · exact .inr (there value member)

theorem Closed.has_listed {heap : Heap} (closed : heap.Closed) {items : List Value}
    (known : ∀ item ∈ items, item.IsPlain ∨ ∃ cell key, (key, item) ∈ heap.entries cell) :
    ∀ item ∈ items, heap.Has item := by
  intro item member
  rcases known item member with plain | ⟨cell, key, listed⟩
  · exact plain.has heap
  · exact closed _ _ (holds_of_mem_entries listed)

end Heap

namespace Operation

section

variable {before after : Heap} {operation : Operation} {values : List Value}
  {outcome : Except Fault Value} (alters : Alters before operation values outcome after)

include alters

theorem Alters.within : before.Within after := by
  cases alters with
  | refused | still => exact .refl _
  | appended | removed =>
    exact ⟨Nat.le_of_eq (List.length_modify ..).symm, Nat.le_refl _⟩
  | created => exact ⟨(List.prefix_append _ _).length_le, Nat.le_refl _⟩

variable (closed : before.Closed) (given : ∀ value ∈ values, before.Has value)

include closed given

theorem Alters.closed_after : after.Closed := by
  have within := alters.within
  cases alters with
  | refused | still => exact closed
  | appended cell item rest =>
    refine closed.of_within within fun holder value holds => ?_
    rcases (Heap.holds_append_iff (given _ (by simp)) item _ _).1 holds with old | ⟨_, rfl⟩
    · exact .inl old
    · exact .inr (given _ (by simp))
  | removed =>
    exact closed.of_within within fun _ _ holds => .inl (Heap.holds_of_removeLast holds)
  | created _ known => exact closed.newArray (closed.has_listed known)

theorem Alters.has_result {value : Value} (ends : outcome = .ok value) : after.Has value := by
  have within := alters.within
  cases alters with
  | refused => cases ends
  | still _ plain =>
    cases ends
    exact plain.has _
  | appended =>
    cases ends
    exact (given _ (by simp)).mono within
  | removed cell rest =>
    cases ends
    rw [Heap.removeLast]
    cases last : (before.items cell).getLast? with
    | none => trivial
    | some item =>
      have held := Heap.holds_of_mem_items (List.mem_of_getLast? last)
      exact (closed _ _ held).mono within
  | @created _ _ items =>
    cases ends
    simp [Heap.newArray, Heap.Has]

end

end Operation

namespace Bindings

variable {bindings changed : Bindings} {name : String} {value : Value}

theorem get?_setVariable (set : bindings.setVariable name value = .ok changed) (other : String) :
    changed.get? other = if name = other then some value else bindings.get? other := by
  rw [setVariable] at set
  split at set
  next => cases set
  next =>
    cases set
    rw [get?, Table.get?_insert, get?]
    split <;> rfl

theorem get?_setConstant (set : bindings.setConstant name value = .ok changed) (other : String) :
    changed.get? other = if name = other then some value else bindings.get? other := by
  rw [setConstant] at set
  split at set
  next => cases set
  next free =>
    rw [Bool.or_eq_true, not_or] at free
    cases set
    rw [get?, Table.get?_insert, get?]
    split
    next same =>
      have unbound : bindings.mutable.get? name = none := by
        simpa [Table.contains] using free.1
      rw [← same, unbound]
      rfl
    next => rfl

end Bindings

section

variable {σ : Type} (console : Console σ) (world : World σ)

theorem World.bound_rebind {outcome : Except Fault Bindings} {target : String} {new : Value}
    (set : ∀ changed, outcome = .ok changed → ∀ other,
      changed.get? other = if target = other then some new else world.bindings.get? other)
    {name : String} {value : Value}
    (bound : (world.rebind outcome).2.bindings.get? name = some value) :
    world.bindings.get? name = some value ∨ value = new := by
  cases outcome with
  | error fault => exact .inl bound
  | ok changed =>
    rw [rebind, set changed rfl] at bound
    split at bound
    · exact .inr (Option.some.inj bound).symm
    · exact .inl bound

theorem World.bound_answer {given : List Value} {request : Request} (mild : request.IsMild given)
    {name : String} {value : Value}
    (bound : (world.answer console request).2.bindings.get? name = some value) :
    world.bindings.get? name = some value ∨ value ∈ given := by
  cases request with
  | setVariable target new =>
    refine (world.bound_rebind (fun _ => Bindings.get?_setVariable) bound).imp_right ?_
    rintro rfl
    exact mild
  | setConstant target new =>
    refine (world.bound_rebind (fun _ => Bindings.get?_setConstant) bound).imp_right ?_
    rintro rfl
    exact mild
  | _ => exact .inl bound

theorem Action.Mild.bound {α : Type} {given : List Value} {good : α → Prop}
    {action : Action Fault α} (mild : action.Mild given good) {name : String} {value : Value}
    (bound : (action.run console world).2.bindings.get? name = some value) :
    world.bindings.get? name = some value ∨ value ∈ given := by
  induction mild generalizing world with
  | done | fail => exact .inl bound
  | @ask request next isMild _ ih =>
    rcases ih _ (world.fair_answer console request) _ bound with earlier | new
    · exact world.bound_answer console isMild earlier
    · exact .inr new

namespace Operation

theorem bindings_of_checked {α : Type} {check : Except Fault α} {next : α → Action Fault Value}
    (onward : ∀ value, ((next value).run console world).2.bindings = world.bindings) :
    ((Action.ofExcept check >>= next).run console world).2.bindings = world.bindings := by
  cases check with
  | ok value => exact onward value
  | error fault => rfl

theorem bindings_of_touching : ∀ {operation : Operation} {values : List Value}
    {action : Action Fault Value}, operation.touchesCells = true →
      operation.action? values = some action →
        (action.run console world).2.bindings = world.bindings
  | .split, _ :: _ :: _, _, _, rfl | .listAppend, _ :: _ :: _, _, _, rfl
  | .listRemoveLast, _ :: _, _, _, rfl | .objectKeys, _ :: _, _, _, rfl
  | .objectValues, _ :: _, _, _, rfl => bindings_of_checked console world fun _ => rfl

theorem bound_action? {operation : Operation} {values : List Value} {action : Action Fault Value}
    (found : operation.action? values = some action) {name : String} {value : Value}
    (bound : (action.run console world).2.bindings.get? name = some value) :
    world.bindings.get? name = some value ∨ value ∈ values := by
  cases touches : operation.touchesCells with
  | true =>
    rw [bindings_of_touching console world touches found] at bound
    exact .inl bound
  | false => exact (mild_action? touches found).bound console world bound

end Operation

end

structure World.Closed {σ : Type} (world : World σ) : Prop where
  heap : world.heap.Closed
  bindings {name : String} {value : Value} :
    world.bindings.get? name = some value → world.heap.Has value

namespace Request

def Uses (heap : Heap) : Request → Prop
  | .newArray items => ∀ item ∈ items, heap.Has item
  | .newObject entries => entries.keys.Nodup ∧ ∀ value ∈ entries.values, heap.Has value
  | _ => True

def Gives (heap : Heap) : (request : Request) → request.Answer → Prop
  | .readBindings, bindings => ∀ name value, bindings.get? name = some value → heap.Has value
  | .readHeap, read => ∀ holder value, read.Holds holder value → heap.Has value
  | .newArray _, value | .newObject _, value => heap.Has value
  | _, _ => True

end Request

theorem Request.Uses.mono {smaller larger : Heap} {request : Request}
    (uses : request.Uses smaller) (within : smaller.Within larger) : request.Uses larger := by
  cases request with
  | newArray items => exact fun value member => (uses value member).mono within
  | newObject entries => exact ⟨uses.1, fun value member => (uses.2 value member).mono within⟩
  | _ => trivial

namespace World

variable {σ : Type} (console : Console σ) {world : World σ} (closed : world.Closed)

include closed

theorem closed_own {request : Request} (own : request.IsOwn) (uses : request.Uses world.heap) :
    (world.answer console request).2.Closed := by
  have within := (world.grows_own console own).within
  cases request with
  | readBindings | readHeap => exact closed
  | newArray items =>
    exact ⟨closed.heap.newArray uses, fun bound => (closed.bindings bound).mono within⟩
  | newObject entries =>
    exact ⟨closed.heap.newObject uses.2, fun bound => (closed.bindings bound).mono within⟩
  | _ => cases own

theorem gives_own {request : Request} (own : request.IsOwn) :
    request.Gives (world.answer console request).2.heap (world.answer console request).1 := by
  cases request with
  | readBindings => exact fun _ _ => closed.bindings
  | readHeap => exact closed.heap
  | newArray items | newObject entries =>
    simp [Request.Gives, answer, Heap.newArray, Heap.newObject, Heap.Has]
  | _ => cases own

theorem closed_call (invocation : Invocation)
    (there : ∀ value ∈ invocation.arguments, world.heap.Has value) :
    (invocation.moment console world).after.Closed ∧
      ∀ value, (invocation.moment console world).outcome = .ok value →
        (invocation.moment console world).after.heap.Has value := by
  have alters := Operation.alters_action? console world invocation.found
  refine ⟨⟨alters.closed_after closed.heap there, fun bound => ?_⟩, fun value => ?_⟩
  · rcases Operation.bound_action? console world invocation.found bound with old | new
    · exact (closed.bindings old).mono alters.within
    · exact (there _ new).mono alters.within
  · exact alters.has_result closed.heap there

end World

end LineScript
