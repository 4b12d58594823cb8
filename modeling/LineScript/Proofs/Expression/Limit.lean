import LineScript.Interpreter
import LineScript.Proofs.Builtin.Outcome
import LineScript.Proofs.Expression.Parts

/-! The limit on nesting. Whatever composed actions inherit from their parts, an evaluation
inherits from the evaluations of the parts of its fragment. So a larger limit changes nothing
but refusals, and a limit above the length of a fragment is never reached. -/
namespace LineScript

abbrev Fault.tooDeep : Fault := .malformed .deepExpression

namespace Action

variable {ε α β : Type}

/-- An action that never fails because of the limit, in whatever world it is run. -/
def Spared (action : Action Fault α) : Prop :=
  ∀ (σ : Type) (console : Console σ) (world : World σ),
    (action.run console world).1 ≠ .error .tooDeep

theorem spared_done (value : α) : (done value : Action Fault α).Spared := fun _ _ _ => nofun

theorem spared_fail {fault : Fault} (other : fault ≠ .tooDeep) :
    (fail fault : Action Fault α).Spared :=
  fun _ _ _ same => other (Except.error.inj same)

theorem spared_request (request : Request) :
    (Action.request request : Action Fault request.Answer).Spared :=
  fun _ _ _ => nofun

theorem Mild.spared {good : α → Prop} {action : Action Fault α} (mild : action.Mild [] good) :
    action.Spared := by
  intro σ console world same
  have sober := (mild.run console world).1
  rw [same] at sober
  exact sober rfl

theorem Spared.bind {action : Action Fault α} {next : α → Action Fault β} (first : action.Spared)
    (later : ∀ value, (next value).Spared) : (action >>= next).Spared := by
  intro σ console world
  have here := first σ console world
  cases ends : action.run console world with
  | mk outcome middle =>
    rw [ends] at here
    cases outcome with
    | ok value =>
      rw [run_bind ends]
      exact later value σ console middle
    | error fault =>
      rw [run_bind_error ends]
      exact fun same => here (congrArg Except.error (Except.error.inj same))

/-- The first action does what the second does, or it refuses on the way. -/
inductive Within (refusal : ε → Prop) : Action ε α → Action ε α → Prop where
  | done (value : α) : Within refusal (done value) (done value)
  | fail (error : ε) : Within refusal (fail error) (fail error)
  | refused {error : ε} (other : Action ε α) : refusal error → Within refusal (fail error) other
  | ask (request : Request) {next other : request.Answer → Action ε α} :
      (∀ answer, Within refusal (next answer) (other answer)) →
        Within refusal (ask request next) (ask request other)

namespace Within

variable {refusal : ε → Prop}

theorem refl (action : Action ε α) : action.Within refusal action := by
  induction action with
  | done value => exact .done value
  | fail error => exact .fail error
  | ask request next ih => exact .ask request ih

theorem bind {first second : Action ε α} {next other : α → Action ε β}
    (within : first.Within refusal second)
    (later : ∀ value, (next value).Within refusal (other value)) :
    (first >>= next).Within refusal (second >>= other) := by
  induction within with
  | done value => exact later value
  | fail error => exact .fail error
  | refused _ isRefusal => exact .refused _ isRefusal
  | ask request _ ih => exact .ask request ih

theorem mapError {δ : Type} {last : δ → Prop} {convert : ε → δ} {first second : Action ε α}
    (within : first.Within refusal second) (keeps : ∀ error, refusal error → last (convert error)) :
    (first.mapError convert).Within last (second.mapError convert) := by
  induction within with
  | done value => exact .done value
  | fail error => exact .fail (convert error)
  | refused _ isRefusal => exact .refused _ (keeps _ isRefusal)
  | ask request _ ih => exact .ask request ih

theorem forM {f g : β → Action ε PUnit} (each : ∀ item, (f item).Within refusal (g item))
    (list : List β) : (list.forM f).Within refusal (list.forM g) := by
  induction list with
  | nil => exact .done _
  | cons item rest ih => exact (each item).bind fun _ => ih

theorem run_eq {σ : Type} {console : Console σ} {first second : Action ε α}
    (within : first.Within refusal second) {world : World σ}
    (granted : ∀ error, (first.run console world).1 = .error error → ¬refusal error) :
    second.run console world = first.run console world := by
  induction within generalizing world with
  | done value => rfl
  | fail error => rfl
  | refused _ isRefusal => exact absurd isRefusal (granted _ rfl)
  | ask request _ ih => exact ih _ granted

end Within

end Action

/-- A relation between actions that composed actions inherit from their parts, and in which every
action that is spared stands to itself. -/
structure Inherited (related : {α : Type} → Action Fault α → Action Fault α → Prop) : Prop where
  own {α : Type} {action : Action Fault α} : action.Spared → related action action
  bind {α β : Type} {first second : Action Fault α} {next other : α → Action Fault β} :
    related first second → (∀ value, related (next value) (other value)) →
      related (first >>= next) (second >>= other)

theorem inherited_within : Inherited fun first second => first.Within (· = .tooDeep) second where
  own _ := .refl _
  bind := .bind

theorem inherited_eq : Inherited fun first second => first = second where
  own _ := rfl
  bind same later := by rw [same, funext later]

theorem inherited_spared : Inherited fun first _ => first.Spared where
  own := id
  bind := .bind

namespace Inherited

variable {related : {α : Type} → Action Fault α → Action Fault α → Prop}
  (inherited : Inherited related) {α β : Type}

include inherited

theorem mapM {f g : β → Action Fault α} {list : List β}
    (each : ∀ item ∈ list, related (f item) (g item)) :
    related (list.mapM f) (list.mapM g) := by
  induction list with
  | nil => exact inherited.own (Action.spared_done _)
  | cons item rest ih =>
    rw [List.forall_mem_cons] at each
    rw [List.mapM_cons, List.mapM_cons]
    exact inherited.bind each.1 fun _ => inherited.bind (ih each.2) fun _ =>
      inherited.own (Action.spared_done _)

theorem foldlM {f g : α → β → Action Fault α} {list : List β}
    (each : ∀ value, ∀ item ∈ list, related (f value item) (g value item)) (start : α) :
    related (list.foldlM f start) (list.foldlM g start) := by
  induction list generalizing start with
  | nil => exact inherited.own (Action.spared_done _)
  | cons item rest ih =>
    rw [List.foldlM_cons, List.foldlM_cons]
    exact inherited.bind (each start item List.mem_cons_self) fun value =>
      ih (fun value item member => each value item (List.mem_cons_of_mem _ member)) value

theorem checked {outcome : Except Fault α} (spared : outcome ≠ .error .tooDeep)
    {next other : α → Action Fault β}
    (later : ∀ value, outcome = .ok value → related (next value) (other value)) :
    related (Action.ofExcept outcome >>= next) (Action.ofExcept outcome >>= other) := by
  cases outcome with
  | ok value => exact later value rfl
  | error fault =>
    exact inherited.own (Action.spared_fail fun same => spared (congrArg Except.error same))

end Inherited

theorem Catalog.spared_invoke (catalog : Catalog) (name : String) (values : List Value) :
    (catalog.invoke name values).Spared := by
  rw [Catalog.invoke]
  split
  · exact Action.spared_fail nofun
  · split
    next arity operation _ accepted =>
      cases found : operation.action? values with
      | none => exact Action.spared_fail nofun
      | some action =>
        intro σ console world same
        have alters := Operation.alters_action? console world found
        rw [Option.getD_some] at same
        rw [same] at alters
        exact alters.code_ne rfl rfl
    next => exact Action.spared_fail nofun

theorem Catalog.mild_lookup (catalog : Catalog) (name : String) :
    (catalog.lookup name).Mild [] fun _ => True := by
  refine .ask trivial fun bindings _ => ?_
  dsimp only [Action.bind]
  cases bindings.get? name with
  | some value => exact .done trivial
  | none =>
    cases catalog.get? name with
    | none => exact .fail ErrorCode.noConfusion
    | some builtin =>
      cases builtin with
      | function arity operation => exact .fail ErrorCode.noConfusion
      | constant value => exact .done trivial

namespace Expression

theorem sober_property (heap : Heap) (value : Value) (name : String) :
    Sober (fun _ => True) (property heap value name) := by
  unfold property
  split
  · split
    · trivial
    · exact ErrorCode.noConfusion
  · exact ErrorCode.noConfusion

theorem sober_element (heap : Heap) (value index : Value) :
    Sober (fun _ => True) (element heap value index) := by
  unfold element
  split
  · dsimp only
    split
    · trivial
    · exact ErrorCode.noConfusion
  · exact ErrorCode.noConfusion
  · exact ErrorCode.noConfusion

theorem sober_holds (relation : Relation) (left right : Value) :
    Sober (fun _ => True) (relation.holds left right) := by
  unfold Relation.holds
  split
  · trivial
  · trivial
  · split
    · trivial
    · exact ErrorCode.noConfusion

theorem arguments_ne_tooDeep (list : Text) : arguments list ≠ .error .tooDeep := by
  intro refused
  rw [arguments] at refused
  split at refused
  · cases refused
  · dsimp only at refused
    split at refused <;> cases refused

theorem items_ne_tooDeep (body : Text) : items body ≠ .error .tooDeep := by
  intro refused
  rw [items] at refused
  split at refused
  · cases refused
  · dsimp only at refused
    split at refused <;> cases refused

theorem key_ne_tooDeep (text : Text) : key text ≠ .error .tooDeep := by
  intro refused
  rw [key] at refused
  split at refused
  · cases refused
  · split at refused <;> cases refused

theorem pair_ne_tooDeep (text : Text) : pair text ≠ .error .tooDeep := by
  intro refused
  rw [pair] at refused
  split at refused
  · cases refused
  next found _ =>
    cases read : key (Text.trim found.before) with
    | ok label =>
      rw [read] at refused
      cases refused
    | error fault =>
      rw [read] at refused
      exact key_ne_tooDeep _ (read.trans (congrArg Except.error (Except.error.inj refused)))

section

open LineScript.Action (mild_heap mild_ofExcept spared_done spared_fail spared_request)

variable {related : {α : Type} → Action Fault α → Action Fault α → Prop}
  (inherited : Inherited related) {self other : Evaluator}

include inherited

theorem related_addend {fragment : Text} (part : related (self fragment) (other fragment)) :
    related (addend self fragment) (addend other fragment) := by
  rw [addend, addend]
  split
  · exact inherited.own (spared_fail nofun)
  · exact part

theorem related_operand {fragment : Text} (part : related (self fragment) (other fragment)) :
    related (operand self fragment) (operand other fragment) := by
  rw [operand, operand]
  split
  · exact inherited.own (spared_fail nofun)
  · exact part

theorem related_access {accessor : Accessor}
    (part : ∀ fragment, accessor = .index fragment → related (self fragment) (other fragment))
    (value : Value) : related (access self value accessor) (access other value accessor) := by
  cases accessor with
  | property name =>
    exact inherited.own (mild_heap.bind fun heap _ =>
      mild_ofExcept (sober_property heap value name)).spared
  | index fragment =>
    exact inherited.bind (part fragment rfl) fun index =>
      inherited.own (mild_heap.bind fun heap _ =>
        mild_ofExcept (sober_element heap value index)).spared

theorem related_enter {text : Text}
    (part : ∀ key fragment, pair text = .ok (key, fragment) →
      related (self fragment) (other fragment)) (entries : Table Value) :
    related (enter self entries text) (enter other entries text) :=
  inherited.checked (pair_ne_tooDeep text) fun (key, fragment) read =>
    inherited.bind (part key fragment read) fun _ => inherited.own (spared_done _)

theorem related_connect {piece : Connective × Text}
    (part : related (self piece.2) (other piece.2)) (result : Bool) :
    related (connect self result piece) (connect other result piece) :=
  inherited.bind (related_operand inherited part) fun _ => inherited.own (spared_done _)

/-- An evaluation inherits from the evaluations of the parts, and from nothing else. -/
theorem Form.related_evaluate (catalog : Catalog) {form : Form}
    (parts : ∀ part, form.Part part → related (self part) (other part)) :
    related (form.evaluate catalog self) (form.evaluate catalog other) := by
  cases form with
  | empty | unreadable => exact inherited.own (spared_fail nofun)
  | string | number => exact inherited.own (spared_done _)
  | identifier name => exact inherited.own (catalog.mild_lookup name).spared
  | sum operands =>
    have each := inherited.mapM fun part (member : part ∈ operands) =>
      related_addend inherited (parts part (.addend member))
    exact inherited.bind each fun values => inherited.own (mild_sumOrJoin values).spared
  | call name list =>
    rw [Form.evaluate, Form.evaluate]
    split
    · refine inherited.checked (arguments_ne_tooDeep list) fun fragments read => ?_
      have each := inherited.mapM fun part (member : part ∈ fragments) =>
        parts part (.argument read member)
      exact inherited.bind each fun values => inherited.own (catalog.spared_invoke name values)
    · exact inherited.own (spared_fail nofun)
  | array body =>
    refine inherited.checked (items_ne_tooDeep body) fun fragments read => ?_
    have each := inherited.mapM fun part (member : part ∈ fragments) =>
      parts part (.item read member)
    exact inherited.bind each fun values => inherited.own (spared_request (.newArray values))
  | object body =>
    refine inherited.checked (items_ne_tooDeep body) fun texts read => ?_
    have each := inherited.foldlM (fun entries text (member : text ∈ texts) =>
      related_enter inherited (fun key fragment paired =>
        parts fragment (.value read member paired)) entries) []
    exact inherited.bind each fun entries => inherited.own (spared_request (.newObject entries))
  | chain base accessors =>
    refine inherited.bind (inherited.own (catalog.mild_lookup base).spared) ?_
    exact inherited.foldlM fun value accessor member => related_access inherited
      (fun fragment same => parts fragment (.index (same ▸ member))) value
  | logical first others =>
    refine inherited.bind (related_operand inherited (parts first .first)) fun start => ?_
    have each := inherited.foldlM (fun result piece (member : piece ∈ others) =>
      related_connect inherited (parts piece.2 (.other member)) result) start.isTruthy
    exact inherited.bind each fun _ => inherited.own (spared_done _)
  | comparison left relation right =>
    refine inherited.bind (related_operand inherited (parts left .left)) fun a => ?_
    refine inherited.bind (related_operand inherited (parts right .right)) fun b => ?_
    exact inherited.own ((mild_ofExcept (sober_holds relation a b)).bind fun _ _ =>
      .done trivial : Action.Mild [] (fun _ => True) _).spared

end

variable (catalog : Catalog)

/-- A larger limit changes nothing but refusals. -/
theorem within_evaluate {limit more : Nat} (larger : limit ≤ more) (fragment : Text) :
    (evaluate catalog limit fragment).Within (· = .tooDeep) (evaluate catalog more fragment) := by
  induction limit generalizing more fragment with
  | zero => exact .refused _ rfl
  | succ limit ih =>
    obtain ⟨more, rfl⟩ : ∃ less, more = less + 1 := ⟨more - 1, by omega⟩
    exact Form.related_evaluate inherited_within catalog fun part _ => ih (by omega) part

theorem evaluate_eq_of_shorter {fragment : Text} {self other : Evaluator}
    (same : ∀ part : Text, part.length < fragment.length → self part = other part) :
    (Form.ofFragment (Text.trim fragment)).evaluate catalog self =
      (Form.ofFragment (Text.trim fragment)).evaluate catalog other :=
  Form.related_evaluate inherited_eq catalog fun part inside => same part inside.length_lt

theorem spared_evaluate {limit : Nat} {fragment : Text} (room : fragment.length < limit) :
    (evaluate catalog limit fragment).Spared := by
  induction limit generalizing fragment with
  | zero => omega
  | succ limit ih =>
    have inner (part : Text) (inside : (Form.ofFragment (Text.trim fragment)).Part part) :
        (evaluate catalog limit part).Spared := by
      have shorter := inside.length_lt
      exact ih (by omega)
    exact @Form.related_evaluate _ inherited_spared (evaluate catalog limit)
      (evaluate catalog limit) catalog _ inner

end Expression

end LineScript
