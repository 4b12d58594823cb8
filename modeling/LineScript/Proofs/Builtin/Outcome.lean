import LineScript.Builtin.Catalog
import LineScript.Proofs.Action

/-! What the builtin operations can do. Five of them touch cells of the heap, and each of these
does one thing to it; all others leave the heap as it is and return a value without a cell.
No operation finds fault with the text of a script. -/
namespace LineScript

/-- A value that is no handle to a cell. -/
def Value.IsPlain : Value → Prop
  | .array _ | .object _ => False
  | _ => True

/-- A good value, or a fault that does not concern the text of the script. -/
def Sober {α : Type} (good : α → Prop) : Except Fault α → Prop
  | .ok value => good value
  | .error fault => fault.code ≠ .malformed

theorem Sober.bind {α β : Type} {good : α → Prop} {better : β → Prop} {outcome : Except Fault α}
    {next : α → Except Fault β} (sober : Sober good outcome)
    (later : ∀ value, good value → Sober better (next value)) :
    Sober better (outcome >>= next) := by
  cases outcome with
  | ok value => exact later value sober
  | error fault => exact sober

def Request.IsMild (given : List Value) : Request → Prop
  | .newArray _ | .newObject _ | .append .. | .removeLast _ => False
  | .setVariable _ value | .setConstant _ value => value ∈ given
  | _ => True

def Request.Fair : (request : Request) → request.Answer → Prop
  | .setVariable .., answer | .setConstant .., answer => Sober (fun _ => True) answer
  | _, _ => True

namespace World

variable {σ : Type} (console : Console σ) (world : World σ)

theorem heap_answer {given : List Value} {request : Request} (mild : request.IsMild given) :
    (world.answer console request).2.heap = world.heap := by
  cases request with
  | newArray | newObject | append | removeLast => cases mild
  | setVariable name value | setConstant name value =>
    simp only [answer, rebind]
    split <;> rfl
  | _ => rfl

theorem fair_answer (request : Request) : request.Fair (world.answer console request).1 := by
  cases request with
  | setVariable name value =>
    simp only [answer, Bindings.setVariable]
    split
    · exact ErrorCode.noConfusion
    · trivial
  | setConstant name value =>
    simp only [answer, Bindings.setConstant]
    split
    · exact ErrorCode.noConfusion
    · trivial
  | _ => trivial

end World

namespace Action

variable {α β : Type} {given : List Value} {good : α → Prop} {better : β → Prop}

/-- An action that leaves the heap as it is, binds names to given values only, returns a good
value and finds no fault with the text of the script. -/
inductive Mild (given : List Value) (good : α → Prop) : Action Fault α → Prop where
  | done {value : α} : good value → Mild given good (done value)
  | fail {fault : Fault} : fault.code ≠ .malformed → Mild given good (fail fault)
  | ask {request : Request} {next : request.Answer → Action Fault α} : request.IsMild given →
      (∀ answer, request.Fair answer → Mild given good (next answer)) →
        Mild given good (ask request next)

theorem Mild.bind {action : Action Fault α} {next : α → Action Fault β}
    (mild : action.Mild given good)
    (later : ∀ value, good value → (next value).Mild given better) :
    (action >>= next).Mild given better := by
  induction mild with
  | done isGood => exact later _ isGood
  | fail other => exact .fail other
  | ask leaves _ ih => exact .ask leaves ih

theorem mild_heap : (heap : Action Fault Heap).Mild given fun _ => True :=
  .ask trivial fun _ _ => .done trivial

theorem mild_ofExcept {outcome : Except Fault α} (sober : Sober good outcome) :
    (ofExcept outcome).Mild given good := by
  cases outcome with
  | ok value => exact .done sober
  | error fault => exact .fail sober

theorem Mild.run {σ : Type} {action : Action Fault α} (mild : action.Mild given good)
    (console : Console σ) (world : World σ) :
    Sober good (action.run console world).1 ∧
      (action.run console world).2.heap = world.heap := by
  induction mild generalizing world with
  | done isGood => exact ⟨isGood, rfl⟩
  | fail other => exact ⟨other, rfl⟩
  | @ask request next leaves _ ih =>
    have later := ih _ (world.fair_answer console request) (world.answer console request).2
    exact ⟨later.1, later.2.trans (world.heap_answer console leaves)⟩

end Action

theorem mild_sumOrJoin {given : List Value} (values : List Value) :
    (sumOrJoin values : Action Fault Value).Mild given Value.IsPlain := by
  rw [sumOrJoin]
  split
  · exact .done trivial
  · exact Action.mild_heap.bind fun _ _ => .done trivial

namespace Operation

open LineScript.Action (Mild mild_heap mild_ofExcept)

variable {given : List Value}

section

variable (operation : Operation) (position : Nat)

theorem sober_number (value : Value) : Sober (fun _ => True) (operation.number position value) := by
  cases value with
  | number x => trivial
  | _ => exact ErrorCode.noConfusion

theorem sober_text (value : Value) : Sober (fun _ => True) (operation.text position value) := by
  cases value with
  | text s => trivial
  | _ => exact ErrorCode.noConfusion

theorem sober_arrayCell (value : Value) :
    Sober (fun cell => value = .array cell) (operation.arrayCell position value) := by
  cases value with
  | array cell => rfl
  | _ => exact ErrorCode.noConfusion

theorem sober_objectCell (value : Value) :
    Sober (fun cell => value = .object cell) (operation.objectCell position value) := by
  cases value with
  | object cell => rfl
  | _ => exact ErrorCode.noConfusion

theorem sober_numbers (a b : Value) : Sober (fun _ => True) (operation.numbers a b) :=
  (operation.sober_number 0 a).bind fun _ _ => (operation.sober_number 1 b).bind fun _ _ => trivial

theorem sober_texts (a b : Value) : Sober (fun _ => True) (operation.texts a b) :=
  (operation.sober_text 0 a).bind fun _ _ => (operation.sober_text 1 b).bind fun _ _ => trivial

end

theorem sober_difference (a b : Value) : Sober Value.IsPlain (difference a b) :=
  (sober_numbers _ a b).bind fun _ _ => trivial

theorem sober_product (a b : Value) : Sober Value.IsPlain (product a b) :=
  (sober_numbers _ a b).bind fun _ _ => trivial

theorem sober_quotient (a b : Value) : Sober Value.IsPlain (quotient a b) := by
  refine (sober_numbers _ a b).bind fun (x, y) _ => ?_
  dsimp only
  split
  · exact ErrorCode.noConfusion
  · trivial

theorem sober_residue (a b : Value) : Sober Value.IsPlain (residue a b) := by
  refine (sober_numbers _ a b).bind fun (x, y) _ => ?_
  dsimp only
  split
  · exact ErrorCode.noConfusion
  · trivial

theorem sober_sliceText (value a b : Value) : Sober Value.IsPlain (sliceText value a b) :=
  (sober_text _ 0 value).bind fun _ _ => (sober_number _ 1 a).bind fun _ _ =>
    (sober_number _ 2 b).bind fun _ _ => trivial

theorem sober_replaceText (value old new : Value) :
    Sober Value.IsPlain (replaceText value old new) :=
  (sober_text _ 0 value).bind fun _ _ => (sober_text _ 1 old).bind fun _ _ =>
    (sober_text _ 2 new).bind fun _ _ => trivial

theorem sober_padding (operation : Operation) (value target pad : Value) :
    Sober (fun _ => True) (operation.padding value target pad) := by
  refine (sober_text _ 0 value).bind fun s _ => (sober_number _ 1 target).bind fun x _ =>
    (sober_text _ 2 pad).bind fun p _ => ?_
  split
  · exact ErrorCode.noConfusion
  · trivial

theorem sober_splitText (value delimiter : Value) :
    Sober (fun items => ∀ item ∈ items, item.IsPlain) (splitText value delimiter) := by
  refine (sober_texts _ value delimiter).bind fun (s, t) _ item member => ?_
  obtain ⟨piece, _, rfl⟩ := List.mem_map.1 member
  trivial

theorem mild_bindingName (operation : Operation) (value : Value) :
    (operation.bindingName value).Mild given fun _ => True := by
  refine (mild_heap.bind fun _ _ => .done trivial).bind fun (name : Text) (_ : True) => ?_
  split
  · exact .done trivial
  · exact .fail ErrorCode.noConfusion

theorem mild_change {α : Type} (request : Request) (leaves : request.IsMild given)
    {outcome : request.Answer → Action Fault α}
    (mild : ∀ answer, request.Fair answer → (outcome answer).Mild given fun _ => True) :
    (Action.ask request fun answer => outcome answer >>= fun _ => .done .undefined).Mild given
      Value.IsPlain :=
  .ask leaves fun answer fair => (mild answer fair).bind fun _ _ => .done trivial

theorem mild_ofConsole {α : Type} (answer : Except String α) :
    (ofConsole answer).Mild given fun _ => True := by
  cases answer with
  | ok value => exact .done trivial
  | error message => exact .fail ErrorCode.noConfusion

theorem mild_printLine (values : List Value) : (printLine values).Mild given Value.IsPlain :=
  mild_heap.bind fun _ _ => mild_change (.write _) trivial fun answer _ => mild_ofConsole answer

theorem mild_askLine (message : Value) : (askLine message).Mild given fun _ => True := by
  refine (mild_heap.bind fun _ _ => .done trivial).bind fun (text : Text) (_ : True) =>
    .ask trivial fun answer _ => (mild_ofConsole answer).bind fun line _ => ?_
  cases line with
  | none => exact .fail ErrorCode.noConfusion
  | some line => exact .done trivial

theorem mild_askForNumber (message : Value) : (askForNumber message).Mild given Value.IsPlain := by
  refine (mild_askLine message).bind fun answer _ => ?_
  split
  · exact .done trivial
  · exact .fail ErrorCode.noConfusion

theorem mild_lengthOf (value : Value) : (lengthOf value).Mild given Value.IsPlain := by
  cases value with
  | array cell => exact mild_heap.bind fun _ _ => .done trivial
  | _ => exact (mild_ofExcept (sober_text length 0 _)).bind fun _ _ => .done trivial

theorem mild_lengthOfList (list : Value) : (lengthOfList list).Mild given Value.IsPlain :=
  (mild_ofExcept (sober_arrayCell listLength 0 list)).bind fun _ _ =>
    mild_heap.bind fun _ _ => .done trivial

def touchesCells : Operation → Bool
  | split | listAppend | listRemoveLast | objectKeys | objectValues => true
  | _ => false

theorem mild_action? : ∀ {operation : Operation} {values : List Value}
    {action : Action Fault Value}, operation.touchesCells = false →
      operation.action? values = some action → action.Mild values Value.IsPlain
  | .bind, name :: value :: _, _, _, rfl =>
    (mild_bindingName bind name).bind fun label _ =>
      mild_change (.setVariable label value) (.tail _ (.head _)) fun _ => mild_ofExcept
  | .bindConstant, name :: value :: _, _, _, rfl =>
    (mild_bindingName bindConstant name).bind fun label _ =>
      mild_change (.setConstant label value) (.tail _ (.head _)) fun _ => mild_ofExcept
  | .print, values, _, _, rfl => mild_printLine values
  | .askText, message :: _, _, _, rfl => (mild_askLine message).bind fun _ _ => .done trivial
  | .askNumber, message :: _, _, _, rfl => mild_askForNumber message
  | .add, values, _, _, rfl => mild_sumOrJoin values
  | .subtract, a :: b :: _, _, _, rfl => mild_ofExcept (sober_difference a b)
  | .multiply, a :: b :: _, _, _, rfl => mild_ofExcept (sober_product a b)
  | .divide, a :: b :: _, _, _, rfl => mild_ofExcept (sober_quotient a b)
  | .modulo, a :: b :: _, _, _, rfl => mild_ofExcept (sober_residue a b)
  | .both, _ :: _ :: _, _, _, rfl | .either, _ :: _ :: _, _, _, rfl
  | .negate, _ :: _, _, _, rfl => .done trivial
  | .concat, _ :: _ :: _, _, _, rfl => mild_heap.bind fun _ _ => .done trivial
  | .length, value :: _, _, _, rfl => mild_lengthOf value
  | .slice, value :: a :: b :: _, _, _, rfl => mild_ofExcept (sober_sliceText value a b)
  | .replace, value :: old :: new :: _, _, _, rfl => mild_ofExcept (sober_replaceText value old new)
  | .upper, value :: _, _, _, rfl | .lower, value :: _, _, _, rfl | .trim, value :: _, _, _, rfl
  | .reverse, value :: _, _, _, rfl | .wordCount, value :: _, _, _, rfl =>
    mild_ofExcept ((sober_text _ 0 value).bind fun _ _ => trivial)
  | .contains, a :: b :: _, _, _, rfl | .position, a :: b :: _, _, _, rfl =>
    mild_ofExcept ((sober_texts _ a b).bind fun _ _ => trivial)
  | .padRight, value :: target :: pad :: _, _, _, rfl
  | .padLeft, value :: target :: pad :: _, _, _, rfl =>
    mild_ofExcept ((sober_padding _ value target pad).bind fun _ _ => trivial)
  | .listLength, list :: _, _, _, rfl => mild_lengthOfList list

inductive Alters (heap : Heap) : Operation → List Value → Except Fault Value → Heap → Prop where
  | refused {operation : Operation} {values : List Value} {fault : Fault} :
      fault.code ≠ .malformed → Alters heap operation values (.error fault) heap
  | still {operation : Operation} {values : List Value} {result : Value} :
      operation.touchesCells = false → result.IsPlain →
        Alters heap operation values (.ok result) heap
  | appended (cell : Nat) (item : Value) (rest : List Value) :
      Alters heap listAppend (.array cell :: item :: rest) (.ok (.array cell))
        (heap.append cell item)
  | removed (cell : Nat) (rest : List Value) :
      Alters heap listRemoveLast (.array cell :: rest)
        (.ok ((heap.removeLast cell).1.getD .undefined)) (heap.removeLast cell).2
  | created {operation : Operation} {values items : List Value} :
      operation ∈ [split, objectKeys, objectValues] →
        (∀ item ∈ items, item.IsPlain ∨ ∃ cell key, (key, item) ∈ heap.entries cell) →
          Alters heap operation values (.ok (heap.newArray items).1) (heap.newArray items).2

theorem Alters.code_ne {heap after : Heap} {operation : Operation} {values : List Value}
    {outcome : Except Fault Value} (alters : Alters heap operation values outcome after)
    {fault : Fault} (fails : outcome = .error fault) : fault.code ≠ .malformed := by
  cases alters with
  | refused other => exact Except.error.inj fails ▸ other
  | _ => cases fails

section

variable {σ : Type} (console : Console σ) (world : World σ)

theorem alters_of_mild {operation : Operation} {values : List Value} {action : Action Fault Value}
    (apart : operation.touchesCells = false) (mild : action.Mild given Value.IsPlain) :
    Alters world.heap operation values (action.run console world).1
      (action.run console world).2.heap := by
  obtain ⟨sober, same⟩ := mild.run console world
  rw [same]
  cases outcome : (action.run console world).1 with
  | ok result =>
    rw [outcome] at sober
    exact .still apart sober
  | error fault =>
    rw [outcome] at sober
    exact .refused sober

theorem alters_of_checked {α : Type} {operation : Operation} {values : List Value}
    {good : α → Prop} {check : Except Fault α} (sober : Sober good check)
    {next : α → Action Fault Value}
    (onward : ∀ value, good value → Alters world.heap operation values
      ((next value).run console world).1 ((next value).run console world).2.heap) :
    Alters world.heap operation values ((Action.ofExcept check >>= next).run console world).1
      ((Action.ofExcept check >>= next).run console world).2.heap := by
  cases check with
  | ok value => exact onward value sober
  | error fault => exact .refused sober

theorem alters_of_touching : ∀ {operation : Operation} {values : List Value}
    {action : Action Fault Value}, operation.touchesCells = true →
      operation.action? values = some action →
        Alters world.heap operation values (action.run console world).1
          (action.run console world).2.heap
  | .split, value :: delimiter :: _, _, _, rfl =>
    alters_of_checked console world (sober_splitText value delimiter) fun items plain =>
      .created (by simp) fun item member => .inl (plain item member)
  | .listAppend, list :: item :: rest, _, _, rfl =>
    alters_of_checked console world (sober_arrayCell listAppend 0 list) fun cell same =>
      same ▸ .appended cell item rest
  | .listRemoveLast, list :: rest, _, _, rfl =>
    alters_of_checked console world (sober_arrayCell listRemoveLast 0 list) fun cell same =>
      same ▸ .removed cell rest
  | .objectKeys, object :: _, _, _, rfl =>
    alters_of_checked console world (sober_objectCell objectKeys 0 object) fun cell _ =>
      .created (by simp) fun item member => by
        obtain ⟨key, _, rfl⟩ := List.mem_map.1 member
        exact .inl trivial
  | .objectValues, object :: _, _, _, rfl =>
    alters_of_checked console world (sober_objectCell objectValues 0 object) fun cell _ =>
      .created (by simp) fun item member => by
        obtain ⟨⟨key, _⟩, listed, rfl⟩ := List.mem_map.1 member
        exact .inr ⟨cell, key, listed⟩

theorem alters_action? {operation : Operation} {values : List Value}
    {action : Action Fault Value} (found : operation.action? values = some action) :
    Alters world.heap operation values (action.run console world).1
      (action.run console world).2.heap := by
  cases touches : operation.touchesCells with
  | true => exact alters_of_touching console world touches found
  | false => exact alters_of_mild console world touches (mild_action? touches found)

end

end Operation

end LineScript
