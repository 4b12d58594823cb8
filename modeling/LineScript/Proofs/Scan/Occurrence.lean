import LineScript.Expression.Form
import LineScript.Proofs.Scan.Split
import LineScript.Proofs.Text.Bytes

/-! Where a pattern is found. The scan tries the patterns where a top-level character stands, and it
looks at the level of that character only. When no pattern has a quote or a bracket in it, all of
what is found is at top level, nothing is found earlier, and of several patterns at one place the
one that is listed first is taken. A list in which no pattern begins with an earlier one gives the
longest of them. -/
namespace LineScript

theorem Text.dropStart?_eq_none_iff {start text : Text} :
    dropStart? start text = none ↔ ¬start <+: text := by
  rw [Option.eq_none_iff_forall_ne_some, List.IsPrefix, not_exists]
  exact forall_congr' fun after => not_congr (dropStart?_eq_some.trans eq_comm)

theorem Text.append_inj_of_byteSize {a b c d : Text} (whole : a ++ b = c ++ d)
    (size : byteSize a = byteSize c) : a = c ∧ b = d := by
  have cut := cutAt?_append a b
  rw [whole, size, cutAt?_append] at cut
  cases cut
  exact ⟨rfl, rfl⟩

namespace Scan

open Text (byteSize)

/-- A pattern of characters that do not change the state of a scan. -/
structure IsPlain (pattern : Text) : Prop where
  solid : pattern ≠ []
  unmarked : ∀ c ∈ pattern, c ∉ marks

/-- A pattern stands at a byte position, with every character of it at top level. -/
def OccursAt (text pattern : Text) (index : Nat) : Prop :=
  ∃ before after, text = before ++ (pattern ++ after) ∧ byteSize before = index ∧
    ∀ front c back, pattern = front ++ c :: back →
      (Depth.after {} (before ++ front)).keepsTop c = true

/-- A pattern that occurs at a place before which none of the patterns does, and the first in the
list of those that occur there. -/
structure Earliest (patterns : List Text) (text : Text) (index : Nat) (pattern : Text) : Prop where
  occurs : OccursAt text pattern index
  least : ∀ other ∈ patterns, ∀ place, OccursAt text other place → index ≤ place
  listed : ∃ earlier later, patterns = earlier ++ pattern :: later ∧
    ∀ other ∈ earlier, ¬OccursAt text other index

theorem IsPlain.occursAt_iff {pattern : Text} (plain : IsPlain pattern) {text : Text}
    {index : Nat} : OccursAt text pattern index ↔
      ∃ before after, text = before ++ (pattern ++ after) ∧ byteSize before = index ∧
        (Depth.after {} before).isTop = true := by
  refine exists_congr fun before => exists_congr fun after => and_congr_right fun _ =>
    and_congr_right fun _ => ⟨fun each => ?_, fun top front c back whole => ?_⟩
  · obtain ⟨c, rest, whole⟩ := List.exists_cons_of_ne_nil plain.solid
    have first := each [] c rest whole
    rw [List.append_nil, Depth.keepsTop, Bool.and_eq_true] at first
    exact first.1
  · have unmarked := plain.unmarked
    simp only [whole, List.mem_append, List.mem_cons, or_imp, forall_and, forall_eq] at unmarked
    have unquoted : (Depth.after {} before).inQuote = false := by
      by_contra quoted
      rw [Depth.isTop_of_inQuote (by simpa using quoted)] at top
      cases top
    rw [Depth.keepsTop_of_not_mem_marks _ unmarked.2.1, Depth.after_append,
      Depth.after_of_unmarked unquoted unmarked.1, top]

theorem IsPlain.occursAt_append_iff {pattern : Text} (plain : IsPlain pattern)
    {before rest : Text} : OccursAt (before ++ rest) pattern (byteSize before) ↔
      (Depth.after {} before).isTop = true ∧ pattern <+: rest := by
  rw [plain.occursAt_iff]
  constructor
  · rintro ⟨front, after, whole, size, top⟩
    obtain ⟨rfl, rfl⟩ := Text.append_inj_of_byteSize whole size.symm
    exact ⟨top, after, rfl⟩
  · rintro ⟨top, after, rfl⟩
    exact ⟨before, after, rfl, rfl, top⟩

theorem matchFirst?_eq_some_iff {patterns : List Text} {text pattern after : Text} :
    matchFirst? patterns text = some (pattern, after) ↔ text = pattern ++ after ∧
      ∃ earlier later, patterns = earlier ++ pattern :: later ∧
        ∀ other ∈ earlier, ¬other <+: text := by
  simp only [matchFirst?, List.findSome?_eq_some_iff, Option.map_eq_none_iff,
    Text.dropStart?_eq_none_iff, Option.map_eq_some_iff, Prod.mk.injEq, Text.dropStart?_eq_some]
  constructor
  · rintro ⟨earlier, _, later, listed, ⟨_, whole, rfl, rfl⟩, first⟩
    exact ⟨whole, earlier, later, listed, first⟩
  · rintro ⟨whole, earlier, later, listed, first⟩
    exact ⟨earlier, pattern, later, listed, ⟨after, whole, rfl, rfl⟩, first⟩

theorem matchFirst?_eq_none_iff {patterns : List Text} {text : Text} :
    matchFirst? patterns text = none ↔ ∀ pattern ∈ patterns, ¬pattern <+: text := by
  rw [matchFirst?, List.findSome?_eq_none_iff]
  simp only [Option.map_eq_none_iff, Text.dropStart?_eq_none_iff]

def begins? (patterns : List Text) (depth : Depth) (text : Text) : Option (Text × Text) :=
  if depth.isTop then matchFirst? patterns text else none

section

variable {patterns : List Text} (plain : ∀ pattern ∈ patterns, IsPlain pattern)

include plain

/-- No plain pattern begins with a mark, so the state of the scan is all that matters. -/
theorem here_eq_begins? (depth : Depth) (c : Char) (rest : Text) :
    (if depth.keepsTop c then matchFirst? patterns (c :: rest) else none) =
      begins? patterns depth (c :: rest) := by
  rw [begins?]
  by_cases mark : c ∈ marks
  · have missing : matchFirst? patterns (c :: rest) = none := by
      refine matchFirst?_eq_none_iff.2 fun pattern member start => ?_
      obtain ⟨d, others, rfl⟩ := List.exists_cons_of_ne_nil (plain _ member).solid
      rw [List.cons_prefix_cons] at start
      exact (plain _ member).unmarked d (by simp) (start.1 ▸ mark)
    rw [missing, ite_self, ite_self]
  · rw [Depth.keepsTop_of_not_mem_marks depth mark]

theorem findFrom_cons_of_some {depth : Depth} {c : Char} {rest pattern after : Text}
    (here : begins? patterns depth (c :: rest) = some (pattern, after)) :
    findFrom patterns depth (c :: rest) = some ⟨[], pattern, after⟩ := by
  rw [findFrom]
  simp only [here_eq_begins? plain, here]

theorem findFrom_cons_of_none {depth : Depth} {c : Char} {rest : Text}
    (missing : begins? patterns depth (c :: rest) = none) :
    findFrom patterns depth (c :: rest) =
      (findFrom patterns (depth.feed c) rest).map (Occurrence.prepend [c]) := by
  rw [findFrom]
  simp only [here_eq_begins? plain, missing]
  rfl

theorem exists_cons_of_begins? {depth : Depth} {text pattern after : Text}
    (here : begins? patterns depth text = some (pattern, after)) :
    ∃ c rest, text = c :: rest := by
  rw [begins?, Option.ite_none_right_eq_some] at here
  obtain ⟨member, whole⟩ := eq_of_matchFirst? here.2
  refine List.exists_cons_of_ne_nil ?_
  rw [whole]
  exact List.append_ne_nil_of_left_ne_nil (plain pattern member).solid after

theorem findFrom_eq_some_iff {depth : Depth} {text before pattern after : Text} :
    findFrom patterns depth text = some ⟨before, pattern, after⟩ ↔
      text = before ++ (pattern ++ after) ∧
      begins? patterns (depth.after before) (pattern ++ after) = some (pattern, after) ∧
      ∀ front back, before = front ++ back → back ≠ [] →
        begins? patterns (depth.after front) (back ++ (pattern ++ after)) = none := by
  constructor
  · intro found
    refine ⟨by simpa using (eq_of_findFrom found).2, ?_⟩
    induction text generalizing depth before with
    | nil => cases found
    | cons c rest ih =>
      cases first : begins? patterns depth (c :: rest) with
      | some here =>
        obtain ⟨taken, following⟩ := here
        rw [findFrom_cons_of_some plain first, Option.some.injEq, Occurrence.mk.injEq] at found
        obtain ⟨rfl, rfl, rfl⟩ := found
        have whole : c :: rest = taken ++ following := by
          rw [begins?, Option.ite_none_right_eq_some] at first
          exact (eq_of_matchFirst? first.2).2
        rw [whole] at first
        refine ⟨first, fun front back split more => ?_⟩
        exact absurd (List.append_eq_nil_iff.1 split.symm).2 more
      | none =>
        rw [findFrom_cons_of_none plain first] at found
        obtain ⟨⟨inner, _, _⟩, later, same⟩ := Option.map_eq_some_iff.1 found
        cases same
        obtain ⟨here, missing⟩ := ih later
        refine ⟨here, fun front back split more => ?_⟩
        cases front with
        | nil =>
          have whole := (eq_of_findFrom later).2
          rw [List.nil_append] at split
          rw [← split]
          simpa [Occurrence.prepend, whole] using first
        | cons d front =>
          obtain ⟨rfl, onward⟩ := List.cons.inj split
          exact missing front back onward more
  · rintro ⟨rfl, here, missing⟩
    obtain ⟨d, others, start⟩ := exists_cons_of_begins? plain here
    have passed := @findFrom_append_of_missing patterns depth before (pattern ++ after) ?_
    · rw [passed, start, findFrom_cons_of_some plain (start ▸ here)]
      simp [Occurrence.prepend]
    · intro front c back whole top
      have nothing := missing front (c :: back) whole (List.cons_ne_nil _ _)
      rw [List.cons_append, ← here_eq_begins? plain, if_pos top] at nothing
      exact nothing

theorem find?_eq_some_iff {text before pattern after : Text} :
    find? patterns text = some ⟨before, pattern, after⟩ ↔
      text = before ++ (pattern ++ after) ∧
      begins? patterns (Depth.after {} before) (pattern ++ after) = some (pattern, after) ∧
      ∀ front back, before = front ++ back → back ≠ [] →
        begins? patterns (Depth.after {} front) (back ++ (pattern ++ after)) = none :=
  findFrom_eq_some_iff plain

theorem begins?_eq_none_iff {before rest : Text} :
    begins? patterns (Depth.after {} before) rest = none ↔
      ∀ pattern ∈ patterns, ¬OccursAt (before ++ rest) pattern (byteSize before) := by
  have unfolded : begins? patterns (Depth.after {} before) rest = none ↔
      ((Depth.after {} before).isTop = true → matchFirst? patterns rest = none) := by
    rw [begins?]
    split <;> simp [*]
  rw [unfolded, matchFirst?_eq_none_iff]
  constructor
  · rintro missing pattern member occurs
    obtain ⟨top, start⟩ := (plain pattern member).occursAt_append_iff.1 occurs
    exact missing top pattern member start
  · rintro missing top pattern member start
    exact missing pattern member ((plain pattern member).occursAt_append_iff.2 ⟨top, start⟩)

theorem begins?_eq_some_iff {before rest pattern after : Text} :
    begins? patterns (Depth.after {} before) rest = some (pattern, after) ↔
      rest = pattern ++ after ∧ OccursAt (before ++ rest) pattern (byteSize before) ∧
      ∃ earlier later, patterns = earlier ++ pattern :: later ∧
        ∀ other ∈ earlier, ¬OccursAt (before ++ rest) other (byteSize before) := by
  rw [begins?, Option.ite_none_right_eq_some, matchFirst?_eq_some_iff]
  constructor
  · rintro ⟨top, rfl, earlier, later, rfl, first⟩
    refine ⟨rfl, ?_, earlier, later, rfl, fun other member occurs => ?_⟩
    · exact (plain pattern (by simp)).occursAt_append_iff.2 ⟨top, List.prefix_append _ _⟩
    · exact first other member ((plain other (by simp [member])).occursAt_append_iff.1 occurs).2
  · rintro ⟨rfl, occurs, earlier, later, rfl, first⟩
    have top := ((plain pattern (by simp)).occursAt_append_iff.1 occurs).1
    refine ⟨top, rfl, earlier, later, rfl, fun other member start => ?_⟩
    exact first other member ((plain other (by simp [member])).occursAt_append_iff.2 ⟨top, start⟩)

theorem earliest_of_find? {text before pattern after : Text}
    (found : find? patterns text = some ⟨before, pattern, after⟩) :
    Earliest patterns text (byteSize before) pattern := by
  obtain ⟨rfl, here, missing⟩ := (find?_eq_some_iff plain).1 found
  obtain ⟨-, occurs, listed⟩ := (begins?_eq_some_iff plain).1 here
  refine ⟨occurs, fun other member place at_place => ?_, listed⟩
  obtain ⟨front, rest, whole, rfl, -⟩ := id at_place
  by_contra earlier
  rcases List.append_eq_append_iff.1 whole with ⟨back, split, -⟩ | ⟨back, split, follows⟩
  · rw [split, Text.byteSize_append] at earlier
    omega
  · have more : back ≠ [] := by
      rintro rfl
      simp [split] at earlier
    refine (begins?_eq_none_iff plain).1 (missing front back split more) other member ?_
    rwa [← List.append_assoc, ← split]

theorem Earliest.exists_find? {text pattern : Text} {index : Nat}
    (first : Earliest patterns text index pattern) :
    ∃ before after, find? patterns text = some ⟨before, pattern, after⟩ ∧
      byteSize before = index := by
  obtain ⟨before, after, rfl, rfl, -⟩ := id first.occurs
  refine ⟨before, after,
    (find?_eq_some_iff plain).2 ⟨rfl, ?_, fun front back split more => ?_⟩, rfl⟩
  · exact (begins?_eq_some_iff plain).2 ⟨rfl, first.occurs, first.listed⟩
  · refine (begins?_eq_none_iff plain).2 fun other member occurs => ?_
    rw [← List.append_assoc, ← split] at occurs
    have least := first.least other member _ occurs
    have size : 0 < byteSize back :=
      Nat.pos_of_ne_zero fun zero => more (Text.byteSize_eq_zero_iff.1 zero)
    rw [split, Text.byteSize_append] at least
    omega

end

/-- Where no pattern begins with an earlier one, the first one that fits is the longest. -/
theorem length_le_of_matchFirst? {patterns : List Text} {text pattern after : Text}
    (apart : patterns.Pairwise fun earlier later => ¬earlier <+: later)
    (taken : matchFirst? patterns text = some (pattern, after)) :
    ∀ other ∈ patterns, other <+: text → other.length ≤ pattern.length := by
  obtain ⟨rfl, earlier, later, rfl, first⟩ := matchFirst?_eq_some_iff.1 taken
  intro other member start
  rw [List.pairwise_append, List.pairwise_cons] at apart
  rcases List.mem_append.1 member with before | here
  · exact absurd start (first other before)
  · rcases List.mem_cons.1 here with rfl | following
    · exact le_rfl
    · exact List.IsPrefix.length_le <|
        (List.prefix_or_prefix_of_prefix start (List.prefix_append pattern after)).resolve_right
          (apart.2.1.1 other following)

theorem length_le_of_find? {patterns : List Text} (plain : ∀ pattern ∈ patterns, IsPlain pattern)
    (apart : patterns.Pairwise fun earlier later => ¬earlier <+: later) {text : Text}
    {found : Occurrence} (first : find? patterns text = some found) :
    ∀ other ∈ patterns, other <+: found.pattern ++ found.after →
      other.length ≤ found.pattern.length := by
  have here := ((find?_eq_some_iff plain).1 first).2.1
  rw [begins?, Option.ite_none_right_eq_some] at here
  exact length_le_of_matchFirst? apart here.2

theorem isPlain_of_mem_operators :
    ∀ operators ∈ [Expression.Connective.words, Expression.Relation.symbols],
      (∀ operator ∈ operators, IsPlain operator) ∧
        operators.Pairwise fun earlier later => ¬earlier <+: later := by
  have solid : ∀ operators ∈ [Expression.Connective.words, Expression.Relation.symbols],
      (∀ operator ∈ operators, operator ≠ [] ∧ operator.all (· ∉ marks) = true) ∧
        operators.Pairwise fun earlier later => ¬earlier <+: later := by
    decide
  intro operators listed
  refine ⟨fun operator member => ?_, (solid operators listed).2⟩
  obtain ⟨nonempty, unmarked⟩ := (solid operators listed).1 operator member
  exact ⟨nonempty, fun c inside => by simpa using List.all_eq_true.1 unmarked c inside⟩

/-- What is found is the first in the list of the patterns that occur, as a whole and at top level,
at the earliest place where one does, and nothing is found only where none occurs. The text before
it ends at top level. Of the operators of the evaluator the longest is found. -/
theorem find?_earliest {patterns : List Text} (plain : ∀ pattern ∈ patterns, IsPlain pattern)
    (text : Text) :
    (∀ index pattern,
      (find? patterns text).map (fun found => (byteSize found.before, found.pattern)) =
          some (index, pattern) ↔ Earliest patterns text index pattern) ∧
      (∀ found, find? patterns text = some found →
        (Depth.after {} found.before).isTop = true) ∧
      ∀ operators ∈ [Expression.Connective.words, Expression.Relation.symbols], ∀ found,
        find? operators text = some found → ∀ operator ∈ operators,
          operator <+: found.pattern ++ found.after →
            operator.length ≤ found.pattern.length := by
  refine ⟨fun index pattern => ⟨fun first => ?_, fun first => ?_⟩, fun found first => ?_, ?_⟩
  · obtain ⟨⟨before, taken, after⟩, here, same⟩ := Option.map_eq_some_iff.1 first
    cases same
    exact earliest_of_find? plain here
  · obtain ⟨before, after, here, rfl⟩ := first.exists_find? plain
    rw [here, Option.map_some]
  · have here := ((find?_eq_some_iff plain).1 first).2.1
    rw [begins?, Option.ite_none_right_eq_some] at here
    exact here.1
  · intro operators listed found first
    obtain ⟨sound, apart⟩ := isPlain_of_mem_operators operators listed
    exact length_le_of_find? sound apart first

theorem find?_earliest_symbols :
    (∀ symbol ∈ Expression.Relation.symbols, IsPlain symbol) ∧
      Earliest Expression.Relation.symbols "\"<\" [<] é <= b".toList 11 ['<', '='] :=
  have plain : ∀ symbol ∈ Expression.Relation.symbols, IsPlain symbol :=
    (isPlain_of_mem_operators _ (by simp)).1
  ⟨plain, ((find?_earliest plain "\"<\" [<] é <= b".toList).1 11 ['<', '=']).1 (by decide)⟩

end Scan

end LineScript
