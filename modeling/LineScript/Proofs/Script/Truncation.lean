import LineScript.Proofs.Script.Structure

/-! Scripts cut short. A run of the first lines of a script makes the same requests in the same
order as a run of all of them, until it is done. What was cut off may have belonged to the
last clause of a conditional, or have added clauses to it. -/
namespace LineScript

/-- The first physical lines of a text, each with the newline that ends it. -/
def firstLines : Nat → Text → Text
  | _, [] => []
  | 0, _ :: _ => []
  | count + 1, c :: rest => c :: firstLines (if c = '\n' then count else count + 1) rest

theorem firstLines_zero (source : Text) : firstLines 0 source = [] := by
  cases source <;> rfl

theorem firstLines_append {line : Text} (single : '\n' ∉ line) (count : Nat) (rest : Text) :
    firstLines (count + 1) (line ++ rest) = line ++ firstLines (count + 1) rest := by
  induction line with
  | nil => rfl
  | cons c line ih =>
    simp only [List.mem_cons, not_or] at single
    rw [List.cons_append, firstLines, if_neg (Ne.symm single.1), ih single.2, List.cons_append]

theorem physicalLines_firstLines (count : Nat) (source : Text) :
    physicalLines (firstLines count source) = (physicalLines source).take count := by
  obtain ⟨lines, text⟩ := exists_lines source
  induction text generalizing count with
  | nil => rw [firstLines, physicalLines, List.take_nil]
  | @last line single nonempty =>
    cases count with
    | zero => rw [firstLines_zero, physicalLines, List.take_zero]
    | succ count =>
      have whole := firstLines_append single count []
      rw [List.append_nil] at whole
      rw [whole, firstLines, List.append_nil, physicalLines_last single nonempty,
        List.take_succ_cons, List.take_nil]
  | @cons line rest lines single _ ih =>
    cases count with
    | zero => rw [firstLines_zero, physicalLines, List.take_zero]
    | succ count =>
      rw [firstLines_append single, firstLines, if_pos rfl, physicalLines_newline single,
        physicalLines_newline single, ih, List.take_succ_cons]

namespace Script

open LineScript.Action (Begins)
open Assembly (Item takeBlock)
open Structure (branches_otherwise branches_none branches_some runItems_statement
  runItems_conditional)

theorem takeBlock_append_of_rest {indent : Nat} {front : List Item}
    (rest : (takeBlock indent front).2 ≠ []) (back : List Item) :
    takeBlock indent (front ++ back) =
      ((takeBlock indent front).1, (takeBlock indent front).2 ++ back) := by
  fun_induction takeBlock indent front with
  | case1 line items deeper body after block ih =>
    rw [block] at ih
    rw [List.cons_append, takeBlock, if_pos deeper, ih rest]
  | case2 line items stays => rw [List.cons_append, takeBlock, if_neg stays]
  | case3 items other =>
    cases items with
    | nil => exact absurd rfl rest
    | cons item items =>
      cases item with
      | ok line => exact absurd rfl (other line items)
      | error error => rfl

theorem takeBlock_append_of_all {indent : Nat} {front : List Item}
    (all : (takeBlock indent front).2 = []) (back : List Item) :
    takeBlock indent (front ++ back) =
      ((takeBlock indent front).1 ++ (takeBlock indent back).1, (takeBlock indent back).2) := by
  fun_induction takeBlock indent front with
  | case1 line items deeper body after block ih =>
    rw [block] at ih
    rw [List.cons_append, takeBlock, if_pos deeper, ih all]
    rfl
  | case2 line items stays => cases all
  | case3 items other =>
    obtain rfl : items = [] := all
    rfl

theorem exists_branches_cons (indent : Nat) (line : Line) (clause : Clause) (items : List Item) :
    ∃ others, (branches indent line clause items).1 =
      ⟨line, clause, (takeBlock line.indent items).1⟩ :: others := by
  rw [branches]
  split
  · exact ⟨[], rfl⟩
  · split
    · exact ⟨[], rfl⟩
    · exact ⟨_, rfl⟩

theorem nextClause?_append {indent : Nat} {items : List Item} (nonempty : items ≠ [])
    (back : List Item) :
    nextClause? indent (items ++ back) =
      (nextClause? indent items).map fun (line, clause, rest) => (line, clause, rest ++ back) := by
  obtain ⟨item, items, rfl⟩ := List.exists_cons_of_ne_nil nonempty
  cases item with
  | error error => rfl
  | ok line =>
    simp only [List.cons_append, nextClause?]
    repeat' split
    all_goals rfl

/-- One conditional goes on where the other ends: with more lines under its last clause, and
perhaps with more clauses. -/
inductive Prolongs : List Branch → List Branch → Prop where
  | last (line : Line) (clause : Clause) (body more : List Line) (others : List Branch) :
      Prolongs [⟨line, clause, body⟩] (⟨line, clause, body ++ more⟩ :: others)
  | cons (branch : Branch) {chain longer : List Branch} : Prolongs chain longer →
      Prolongs (branch :: chain) (branch :: longer)

/-- A conditional that ends in the first lines stays as it is; one that takes them all may go on
in the lines that follow. -/
theorem branches_append (indent : Nat) (line : Line) (clause : Clause) (front back : List Item) :
    branches indent line clause (front ++ back) =
        ((branches indent line clause front).1, (branches indent line clause front).2 ++ back) ∨
      (branches indent line clause front).2 = [] ∧
        Prolongs (branches indent line clause front).1
          (branches indent line clause (front ++ back)).1 := by
  -- Where the lines under the last clause are all that is left, they may go on.
  have prolonged {line : Line} (clause : Clause) {front : List Item}
      (all : (takeBlock line.indent front).2 = []) :
      Prolongs [⟨line, clause, (takeBlock line.indent front).1⟩]
        (branches indent line clause (front ++ back)).1 := by
    obtain ⟨others, whole⟩ := exists_branches_cons indent line clause (front ++ back)
    rw [whole, takeBlock_append_of_all all]
    exact .last line clause _ _ others
  fun_induction branches indent line clause front with
  | case1 line front block branch =>
    by_cases all : block.2 = []
    · exact .inr ⟨all, prolonged .otherwise all⟩
    · exact .inl (branches_otherwise (takeBlock_append_of_rest all back))
  | case2 line clause front block branch going missing =>
    by_cases all : block.2 = []
    · exact .inr ⟨all, prolonged clause all⟩
    · refine .inl (branches_none (takeBlock_append_of_rest all back) going ?_)
      rw [nextClause?_append all, missing]
      rfl
  | case3 line clause front block branch going next nextClause rest found others ih =>
    have nonempty : block.2 ≠ [] := by
      intro empty
      rw [empty] at found
      cases found
    have onward : nextClause? indent (block.2 ++ back) = some (next, nextClause, rest ++ back) := by
      rw [nextClause?_append nonempty, found]
      rfl
    have whole := branches_some (takeBlock_append_of_rest nonempty back) going onward
    rw [whole]
    rcases ih with same | ⟨all, longer⟩
    · exact .inl (by rw [same])
    · exact .inr ⟨all, .cons branch longer⟩

section

variable {catalog : Catalog} {limit : Nat}

theorem runItems_nil (body : BodyRunner) : runItems catalog limit body [] = pure () := by
  rw [runItems, steps]
  rfl

inductive Blames (error : ScriptError) : Item → Prop where
  | line {line : Line} : error.line = some line.number → Blames error (.ok line)
  | itself : Blames error (.error error)

theorem runItems_cons (body : BodyRunner) (item : Item) :
    (∃ error, Blames error item ∧
        ∀ rest, runItems catalog limit body (item :: rest) = .fail error) ∨
      (∃ line, item = .ok line ∧ ∀ rest, runItems catalog limit body (item :: rest) =
        located line (Statement.execute catalog limit line.text) >>= fun _ =>
          runItems catalog limit body rest) ∨
      ∃ line clause, item = .ok line ∧ ∀ rest, runItems catalog limit body (item :: rest) =
        runBranches catalog limit body (branches line.indent line clause rest).1 >>= fun _ =>
          runItems catalog limit body (branches line.indent line clause rest).2 := by
  cases item with
  | error error =>
    refine .inl ⟨error, .itself, fun rest => ?_⟩
    rw [runItems, steps]
    rfl
  | ok line =>
    cases reads : LineKind.of line.text with
    | error fault =>
      refine .inl ⟨fault.located line.number, .line rfl, fun rest => ?_⟩
      rw [runItems, steps, reads]
      rfl
    | ok kind =>
      match kind with
      | .statement => exact .inr (.inl ⟨line, rfl, runItems_statement reads⟩)
      | .clause (.when condition) =>
        exact .inr (.inr ⟨line, .when condition, rfl, fun _ => runItems_conditional reads rfl⟩)
      | .clause (.orWhen condition) | .clause .otherwise =>
        refine .inl ⟨(Fault.malformed (.orphanClause line.text)).located line.number, .line rfl,
          fun rest => ?_⟩
        rw [runItems, steps, reads]
        rfl

def Prolongable (body : BodyRunner) : Prop :=
  ∀ (line : Line) (lines more : List Line), Begins (body line lines) (body line (lines ++ more))

theorem begins_runBranches {body : BodyRunner} (prolongable : Prolongable body)
    {chain longer : List Branch} (prolongs : Prolongs chain longer) :
    Begins (runBranches catalog limit body chain) (runBranches catalog limit body longer) := by
  induction prolongs with
  | last line clause lines more others =>
    refine Begins.bind _ fun taken => ?_
    cases taken with
    | true => exact prolongable line lines more
    | false => exact .done _ _
  | cons branch _ ih =>
    refine Begins.bind _ fun taken => ?_
    cases taken with
    | true => exact .refl _
    | false => exact ih

theorem begins_runItems {body : BodyRunner} (prolongable : Prolongable body)
    (front back : List Item) :
    Begins (runItems catalog limit body front) (runItems catalog limit body (front ++ back)) := by
  induction size : front.length using Nat.strong_induction_on generalizing front with
  | _ size ih =>
    cases front with
    | nil =>
      rw [runItems_nil]
      exact .done _ _
    | cons item rest =>
      rw [List.length_cons] at size
      rw [List.cons_append]
      rcases runItems_cons body item with
        ⟨error, _, fails⟩ | ⟨line, rfl, runs⟩ | ⟨line, clause, rfl, runs⟩
      · rw [fails, fails]
        exact .fail error
      · rw [runs, runs]
        exact .bind _ fun _ => ih rest.length (by omega) rest rfl
      · have shorter := branches_length_le line.indent line clause rest
        rw [runs, runs]
        -- either the conditional ends within `front`, or `front` ends within the conditional
        rcases branches_append line.indent line clause rest back with same | ⟨all, longer⟩
        · rw [same]
          exact .bind _ fun _ => ih _ (by omega) _ rfl
        · rw [all, runItems_nil, bind_pure_unit]
          exact (begins_runBranches prolongable longer).followed _

theorem prolongable_runBody (room : Nat) : Prolongable (runBody catalog limit room) := by
  induction room with
  | zero => exact fun line lines more => .fail _
  | succ room ih =>
    intro line lines more
    rw [runBody, runBody, List.map_append]
    exact begins_runItems ih _ _

end

end Script

end LineScript
