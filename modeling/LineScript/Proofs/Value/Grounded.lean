import LineScript.Proofs.Table
import LineScript.Proofs.Value.Presence

/-! Evaluation makes up no handles. It works on values that it was given, that it found under
names or in cells, or that it has just made, and so do the builtin calls that it makes. What
such steps keep holds in every world that a run comes through. -/
namespace LineScript

namespace Course

variable {ε δ α β : Type} {good : Heap → α → Prop} {better : Heap → β → Prop}

/-- A course that passes on only values that are there: those that a known heap has, and those
that answers and calls have given. It returns a good value. -/
inductive Grounded (good : Heap → α → Prop) : Heap → Course ε α → Prop where
  | done {known : Heap} {value : α} : good known value → Grounded good known (done value)
  | fail {known : Heap} {error : ε} : Grounded good known (fail error)
  | ask {known : Heap} {request : Request} {own : request.IsOwn}
      {next : request.Answer → Course ε α} : request.Uses known →
        (∀ larger answer, known.Within larger → request.Gives larger answer →
          Grounded good larger (next answer)) → Grounded good known (ask request own next)
  | call {known : Heap} {invocation : Invocation} {next : Except Fault Value → Course ε α} :
      (∀ value ∈ invocation.arguments, known.Has value) →
        (∀ larger outcome, known.Within larger → (∀ value, outcome = .ok value → larger.Has value) →
          Grounded good larger (next outcome)) → Grounded good known (call invocation next)

theorem Grounded.bind {known : Heap} {course : Course ε α} {next : α → Course ε β}
    (first : course.Grounded good known)
    (later : ∀ larger value, known.Within larger → good larger value →
      (next value).Grounded better larger) : (course >>= next).Grounded better known := by
  induction first with
  | done isGood => exact later _ _ (.refl _) isGood
  | fail => exact .fail
  | ask uses _ ih =>
    exact .ask uses fun larger answer within gives => ih larger answer within gives
      fun largest value further => later largest value (within.trans further)
  | call there _ ih =>
    exact .call there fun larger outcome within result => ih larger outcome within result
      fun largest value further => later largest value (within.trans further)

theorem Grounded.mapError {known : Heap} {course : Course ε α}
    (grounded : course.Grounded good known) (convert : ε → δ) :
    (course.mapError convert).Grounded good known := by
  induction grounded with
  | done isGood => exact .done isGood
  | fail => exact .fail
  | ask uses _ ih => exact .ask uses ih
  | call there _ ih => exact .call there ih

theorem Grounded.ite {known : Heap} {condition : Prop} [Decidable condition]
    {first second : Course ε α} (yes : first.Grounded good known)
    (no : second.Grounded good known) :
    (if condition then first else second).Grounded good known := by
  split
  · exact yes
  · exact no

theorem grounded_ofExcept {known : Heap} {outcome : Except ε α}
    (result : ∀ value, outcome = .ok value → good known value) :
    (ofExcept outcome).Grounded good known := by
  cases outcome with
  | ok value => exact .done (result value rfl)
  | error error => exact .fail

theorem grounded_checked (outcome : Except ε α) (known : Heap) :
    (ofExcept outcome).Grounded (fun _ _ => True) known :=
  grounded_ofExcept fun _ _ => trivial

theorem grounded_own {known : Heap} (request : Request) (own : request.IsOwn)
    (uses : request.Uses known) :
    (ask request own done : Course ε request.Answer).Grounded
      (fun heap answer => request.Gives heap answer) known :=
  .ask uses fun _ _ _ gives => .done gives

theorem grounded_mapM {f : β → Course ε Value}
    (each : ∀ item known, (f item).Grounded Heap.Has known) (list : List β) (known : Heap) :
    (list.mapM f).Grounded (fun heap values => ∀ value ∈ values, heap.Has value) known := by
  induction list generalizing known with
  | nil => exact .done (List.forall_mem_nil _)
  | cons item rest ih =>
    rw [List.mapM_cons]
    refine (each item known).bind fun larger value _ has => (ih larger).bind ?_
    intro largest values further present
    exact .done (List.forall_mem_cons.2 ⟨has.mono further, present⟩)

theorem grounded_foldlM {f : α → β → Course ε α}
    (each : ∀ known value item, good known value → (f value item).Grounded good known)
    (list : List β) {known : Heap} {start : α} (isGood : good known start) :
    (list.foldlM f start).Grounded good known := by
  induction list generalizing known start with
  | nil => exact .done isGood
  | cons item rest ih =>
    rw [List.foldlM_cons]
    exact (each known start item isGood).bind fun _ _ _ next => ih next

theorem grounded_forM {f : β → Course ε PUnit}
    (each : ∀ item known, (f item).Grounded (fun _ _ => True) known) (list : List β)
    (known : Heap) : (list.forM f).Grounded (fun _ _ => True) known := by
  induction list generalizing known with
  | nil => exact .done trivial
  | cons item rest ih => exact (each item known).bind fun larger _ _ _ => ih larger

end Course

/-- No constant of the catalog is a handle. -/
def Catalog.Plain (catalog : Catalog) : Prop :=
  ∀ name value, catalog.get? name = some (.constant value) → value.IsPlain

section

variable {catalog : Catalog} (known : Heap)

theorem Catalog.grounded_invocation (name : String) {values : List Value}
    (there : ∀ value ∈ values, known.Has value) :
    (catalog.invocation name values).course.Grounded Heap.Has known := by
  rw [invocation]
  dsimp only
  split
  · exact .fail
  · refine .ite ?_ .fail
    rw [calling]
    dsimp only
    split
    · exact .call there fun _ _ _ result => Course.grounded_ofExcept result
    · exact .fail

theorem Catalog.Plain.grounded_reading (plain : catalog.Plain) (name : String) :
    (catalog.reading name).course.Grounded Heap.Has known := by
  refine .ask trivial fun larger bindings _ gives => ?_
  split
  next value found => exact .done (gives name value found)
  next value _ found => exact .done ((plain name value found).has larger)
  next => exact .fail
  next => exact .fail

end

namespace Expression

theorem holds_of_property {heap : Heap} {value found : Value} {name : String}
    (reads : property heap value name = .ok found) : ∃ holder, heap.Holds holder found := by
  unfold property at reads
  split at reads
  next cell =>
    split at reads
    next here =>
      cases reads
      exact ⟨_, Heap.holds_of_mem_entries (Table.mem_of_get? here)⟩
    next => cases reads
  next => cases reads

theorem holds_of_element {heap : Heap} {value index found : Value}
    (reads : element heap value index = .ok found) : ∃ holder, heap.Holds holder found := by
  unfold element at reads
  split at reads
  next cell position =>
    dsimp only at reads
    split at reads
    next item here =>
      cases reads
      obtain ⟨n, _, chosen⟩ := Option.bind_eq_some_iff.1 here
      split at chosen
      · exact ⟨_, Heap.holds_of_mem_items (List.mem_of_getElem? chosen)⟩
      · cases chosen
    next => cases reads
  next => cases reads
  next => cases reads

section

variable {evaluator : Evaluator} {self : ∀ fragment, Account (evaluator fragment)}
  (parts : ∀ fragment known, (self fragment).course.Grounded Heap.Has known) (known : Heap)

include parts

theorem grounded_addend (fragment : Text) :
    (addendAccount self fragment).course.Grounded Heap.Has known :=
  .ite .fail (parts fragment known)

theorem grounded_operand (fragment : Text) :
    (operandAccount self fragment).course.Grounded Heap.Has known :=
  .ite .fail (parts fragment known)

theorem grounded_access (value : Value) (accessor : Accessor) :
    (accessAccount self value accessor).course.Grounded Heap.Has known := by
  cases accessor with
  | property name =>
    refine (Course.grounded_own .readHeap trivial trivial).bind fun larger heap _ gives => ?_
    refine Course.grounded_ofExcept fun found reads => ?_
    obtain ⟨holder, holds⟩ := holds_of_property reads
    exact gives holder found holds
  | index fragment =>
    refine (parts fragment known).bind fun larger index _ _ => ?_
    refine (Course.grounded_own .readHeap trivial trivial).bind fun largest heap _ gives => ?_
    refine Course.grounded_ofExcept fun found reads => ?_
    obtain ⟨holder, holds⟩ := holds_of_element reads
    exact gives holder found holds

theorem grounded_enter (entries : Table Value) (text : Text)
    (present : entries.keys.Nodup ∧ ∀ value ∈ entries.values, known.Has value) :
    (enterAccount self entries text).course.Grounded
      (fun heap entries => entries.keys.Nodup ∧ ∀ value ∈ entries.values, heap.Has value)
        known := by
  refine (Course.grounded_checked _ known).bind fun larger (key, fragment) within _ => ?_
  refine (parts fragment larger).bind fun largest new further has => .done ?_
  refine ⟨Table.nodup_keys_insert present.1 key new, fun value member => ?_⟩
  rcases Table.mem_values_insert member with rfl | old
  · exact has
  · exact (present.2 value old).mono (within.trans further)

theorem grounded_connect (result : Bool) (piece : Connective × Text) :
    (connectAccount self result piece).course.Grounded (fun _ _ => True) known :=
  (grounded_operand parts known piece.2).bind fun _ _ _ _ => .done trivial

theorem grounded_form {catalog : Catalog} (plain : catalog.Plain) (form : Form) :
    (formAccount self catalog form).course.Grounded Heap.Has known := by
  cases form with
  | empty | unreadable => exact .fail
  | string | number => exact .done trivial
  | identifier name => exact plain.grounded_reading known name
  | sum operands =>
    refine (Course.grounded_mapM (fun part known => grounded_addend parts known part) operands
      known).bind fun larger values _ present => ?_
    exact .call present fun _ _ _ result => Course.grounded_ofExcept result
  | call name list =>
    refine .ite ?_ .fail
    refine (Course.grounded_checked _ known).bind fun larger fragments _ _ => ?_
    refine (Course.grounded_mapM parts fragments larger).bind fun largest values _ present => ?_
    exact catalog.grounded_invocation largest name present
  | array body =>
    refine (Course.grounded_checked _ known).bind fun larger fragments _ _ => ?_
    refine (Course.grounded_mapM parts fragments larger).bind fun largest values _ present => ?_
    exact Course.grounded_own (.newArray values) trivial present
  | object body =>
    refine (Course.grounded_checked _ known).bind fun larger texts _ _ => ?_
    have distinct : (Table.keys ([] : Table Value)).Nodup := List.nodup_nil
    refine (Course.grounded_foldlM (fun known entries text =>
      grounded_enter parts known entries text) texts ⟨distinct, List.forall_mem_nil _⟩).bind
        fun largest entries _ present => ?_
    exact Course.grounded_own (.newObject entries) trivial present
  | chain base accessors =>
    refine (plain.grounded_reading known base).bind fun larger value _ has => ?_
    exact Course.grounded_foldlM (fun known value accessor _ =>
      grounded_access parts known value accessor) accessors has
  | logical first others =>
    refine (grounded_operand parts known first).bind fun larger start _ _ => ?_
    refine (Course.grounded_foldlM (fun known result piece _ =>
      grounded_connect parts known result piece) others trivial).bind fun _ _ _ _ => ?_
    exact .done trivial
  | comparison left relation right =>
    refine (grounded_operand parts known left).bind fun larger _ _ _ => ?_
    refine (grounded_operand parts larger right).bind fun largest _ _ _ => ?_
    exact (Course.grounded_checked _ largest).bind fun _ _ _ _ => .done trivial

end

theorem grounded_account {catalog : Catalog} (plain : catalog.Plain) (limit : Nat) (fragment : Text)
    (known : Heap) : (account catalog limit fragment).course.Grounded Heap.Has known := by
  induction limit generalizing fragment known with
  | zero => exact .fail
  | succ limit ih => exact grounded_form ih known plain _

end Expression

section

variable {catalog : Catalog} (plain : catalog.Plain) (limit : Nat) (known : Heap)

include plain

theorem Statement.grounded_account (line : Text) :
    (account catalog limit line).course.Grounded Heap.Has known := by
  refine (Course.grounded_checked _ known).bind fun larger statement _ _ => ?_
  refine (Course.grounded_mapM (Expression.grounded_account plain limit) statement.arguments
    larger).bind fun largest values _ present => ?_
  exact catalog.grounded_invocation largest statement.command present

namespace Script

theorem grounded_taken (branch : Branch) :
    (takenAccount catalog limit branch).course.Grounded (fun _ _ => True) known := by
  have condition (text : Text) : Course.Grounded (fun _ _ => True) known
      ((Expression.account catalog limit text).course >>= fun value => .done value.isTruthy) :=
    (Expression.grounded_account plain limit text known).bind fun _ _ _ _ => .done trivial
  obtain ⟨line, clause, body⟩ := branch
  cases clause with
  | when text | orWhen text => exact (condition text).mapError _
  | otherwise => exact .done trivial

section

variable {body : BodyRunner} {inner : ∀ line lines, Account (body line lines)}
  (bodies : ∀ line lines known, (inner line lines).course.Grounded (fun _ _ => True) known)

include bodies

theorem grounded_branches (chain : List Branch) :
    (branchesAccount catalog limit inner chain).course.Grounded (fun _ _ => True) known := by
  induction chain generalizing known with
  | nil => exact .done trivial
  | cons branch rest ih =>
    refine (grounded_taken plain limit known branch).bind fun larger _ _ _ => ?_
    exact .ite (bodies branch.line branch.body larger) (ih larger)

theorem grounded_step (step : Step) :
    (stepAccount catalog limit inner step).course.Grounded (fun _ _ => True) known := by
  cases step with
  | fault error => exact .fail
  | statement line =>
    exact ((Statement.grounded_account plain limit known line.text).mapError _).bind
      fun _ _ _ _ => .done trivial
  | conditional chain => exact grounded_branches plain limit known bodies chain

theorem grounded_items (items : List Assembly.Item) :
    (itemsAccount catalog limit inner items).course.Grounded (fun _ _ => True) known :=
  Course.grounded_forM (fun step known => grounded_step plain limit known bodies step)
    (steps items) known

end

theorem grounded_body (room : Nat) (line : Line) (lines : List Line) :
    (bodyAccount catalog limit room line lines).course.Grounded (fun _ _ => True) known := by
  induction room generalizing known line lines with
  | zero => exact .fail
  | succ room ih =>
    exact grounded_items plain limit known (fun line lines known => ih known line lines) _

theorem grounded_account (source : Text) :
    (account catalog limit source).course.Grounded (fun _ _ => True) known :=
  grounded_items plain limit known
    (fun line lines known => grounded_body plain limit known limit line lines) _

end Script

end

structure Kept {σ : Type} (console : Console σ) (allowed : Moment σ → Prop)
    (invariant : World σ → Prop) : Prop where
  closed {world : World σ} : invariant world → world.Closed
  own {world : World σ} {request : Request} : invariant world → request.IsOwn →
    request.Uses world.heap → invariant (world.answer console request).2
  calls {world : World σ} {invocation : Invocation} : invariant world →
    (∀ value ∈ invocation.arguments, world.heap.Has value) →
      allowed (invocation.moment console world) →
        invariant (invocation.moment console world).after

section

variable {σ : Type} {console : Console σ} {allowed : Moment σ → Prop} {invariant : World σ → Prop}
  (kept : Kept console allowed invariant) {world : World σ} (start : invariant world)

include kept start

theorem Course.Grounded.run {ε α : Type} {good : Heap → α → Prop} {known : Heap}
    {course : Course ε α} (grounded : course.Grounded good known)
    (within : known.Within world.heap)
    (permitted : ∀ moment ∈ course.moments console world, allowed moment) :
    invariant (course.action.run console world).2 ∧
      ∀ moment ∈ course.moments console world, invariant moment.before ∧
        ∀ value ∈ moment.arguments, moment.before.heap.Has value := by
  induction grounded generalizing world with
  | done | fail => exact ⟨start, List.forall_mem_nil _⟩
  | @ask known request isOwn next uses _ ih =>
    have later := within.trans (world.grows_own console isOwn).within
    have gives := World.gives_own console (kept.closed start) isOwn
    exact ih _ _ later gives (kept.own start isOwn (uses.mono within)) (.refl _) permitted
  | @call known invocation next there _ ih =>
    rw [moments, List.forall_mem_cons] at permitted
    rw [run_call, moments, List.forall_mem_cons]
    -- cells are never removed, so what was known before is there still
    have present (value) (member : value ∈ invocation.arguments) := (there value member).mono within
    have result := (World.closed_call console (kept.closed start) invocation present).2
    have alters := Operation.alters_action? console world invocation.found
    obtain ⟨ends, rest⟩ := ih _ _ (within.trans alters.within) result
      (kept.calls start present permitted.1) (.refl _) permitted.2
    exact ⟨ends, ⟨start, present⟩, rest⟩

theorem Account.run_grounded {ε α : Type} {action : Action ε α} (account : Account action)
    {good : Heap → α → Prop} (grounded : account.course.Grounded good world.heap)
    (permitted : ∀ moment ∈ account.course.moments console world, allowed moment) :
    invariant (action.run console world).2 ∧
      ∀ moment ∈ account.course.moments console world, invariant moment.before ∧
        ∀ value ∈ moment.arguments, moment.before.heap.Has value := by
  have whole := grounded.run kept start (.refl _) permitted
  rwa [account.faithful] at whole

end

namespace World

variable {σ : Type}

theorem kept_closed (console : Console σ) : Kept console (fun _ => True) Closed where
  closed := id
  own closed := closed_own console closed
  calls closed there _ := (closed_call console closed _ there).1

theorem closed_fresh (state : σ) : (⟨{}, {}, state⟩ : World σ).Closed := by
  refine ⟨fun holder value holds => ?_, fun bound => ?_⟩
  · cases holds with
    | item found | entry found => cases found
  · cases bound

end World

namespace Interpreter

variable {σ : Type} {interpreter : Interpreter σ} (plain : interpreter.catalog.Plain)

include plain

/-- What is kept holds after a call, and before every builtin call that it makes. -/
theorem perform_kept {allowed : Moment σ → Prop} {invariant : World σ → Prop}
    (kept : Kept interpreter.console allowed invariant) {world : World σ}
    (start : invariant world) (call : Call)
    (permitted : ∀ moment ∈ interpreter.moments world call, allowed moment) :
    invariant (interpreter.perform world call) ∧
      ∀ moment ∈ interpreter.moments world call, invariant moment.before ∧
        ∀ value ∈ moment.arguments, moment.before.heap.Has value := by
  cases call with
  | run source =>
    exact (Script.account _ _ source).run_grounded kept start
      (Script.grounded_account plain _ _ source) permitted
  | evaluate fragment =>
    exact (Expression.account _ _ fragment).run_grounded kept start
      (Expression.grounded_account plain _ fragment _) permitted
  | execute line =>
    exact (Statement.account _ _ line).run_grounded kept start
      (Statement.grounded_account plain _ _ line) permitted

/-- What is kept whatever is called holds of every world that a session reaches. -/
theorem session_kept {invariant : World σ → Prop}
    (kept : Kept interpreter.console (fun _ => True) invariant) {world : World σ}
    (start : invariant world) (calls : List Call) :
    invariant (interpreter.session calls world) := by
  induction calls generalizing world with
  | nil => exact start
  | cons call rest ih => exact ih (perform_kept plain kept start call fun _ _ => trivial).1

theorem closed_session (calls : List Call) {world : World σ} (closed : world.Closed) :
    (interpreter.session calls world).Closed :=
  session_kept plain (World.kept_closed _) closed calls

end Interpreter

end LineScript
