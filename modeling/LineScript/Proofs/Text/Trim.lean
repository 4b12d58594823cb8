import LineScript.Text.Blank
import Mathlib.Data.List.DropRight

/-! Trimming laws. Blanks around a text are lost, a text with a non-blank character
keeps that side of what it is joined to, and every text is its trimmed form between
two blank texts. Texts whose ends are not blank stay so when they are joined. -/
namespace LineScript.Text

theorem isAllBlank_iff {text : Text} : isAllBlank text ↔ ∀ c ∈ text, isBlank c := by
  simp [isAllBlank]

theorem isAllBlank_nil : isAllBlank [] = true := rfl

@[simp] theorem isAllBlank_append (a b : Text) :
    isAllBlank (a ++ b) = (isAllBlank a && isAllBlank b) := by
  simp [isAllBlank]

@[simp] theorem isAllBlank_cons (c : Char) (text : Text) :
    isAllBlank (c :: text) = (isBlank c && isAllBlank text) := by
  simp [isAllBlank]

theorem not_mem_of_all {p : Char → Bool} {chars : Text} (apart : chars.all fun d => !p d) {c : Char}
    (holds : p c = true) : c ∉ chars := by
  intro member
  have other := List.all_eq_true.1 apart c member
  rw [holds] at other
  cases other

theorem trimStart_eq_nil_iff {text : Text} : trimStart text = [] ↔ isAllBlank text := by
  simp [trimStart, isAllBlank]

theorem trimEnd_eq_nil_iff {text : Text} : trimEnd text = [] ↔ isAllBlank text := by
  simp [trimEnd, isAllBlank]

theorem trimStart_cons {c : Char} (solid : isBlank c = false) (text : Text) :
    trimStart (c :: text) = c :: text := by
  simp [trimStart, solid]

theorem trimStart_blank_append {gap : Text} (blank : isAllBlank gap) (text : Text) :
    trimStart (gap ++ text) = trimStart text :=
  List.dropWhile_append_of_pos (isAllBlank_iff.1 blank)

theorem trimEnd_append_blank {gap : Text} (text : Text) (blank : isAllBlank gap) :
    trimEnd (text ++ gap) = trimEnd text := by
  rw [trimEnd, List.reverse_append, List.dropWhile_append_of_pos, trimEnd]
  intro c member
  exact isAllBlank_iff.1 blank c (List.mem_reverse.1 member)

theorem trimStart_append {a : Text} (solid : isAllBlank a = false) (b : Text) :
    trimStart (a ++ b) = trimStart a ++ b := by
  have kept : trimStart a ≠ [] := by simp [trimStart_eq_nil_iff, solid]
  simp only [trimStart] at kept ⊢
  rw [List.dropWhile_append, if_neg (by simpa using kept)]

theorem trimEnd_append (a : Text) {b : Text} (solid : isAllBlank b = false) :
    trimEnd (a ++ b) = a ++ trimEnd b := by
  have kept : b.reverse.dropWhile isBlank ≠ [] := by
    intro empty
    have blank : isAllBlank b := trimEnd_eq_nil_iff.1 (by simp [trimEnd, empty])
    simp [solid] at blank
  rw [trimEnd, List.reverse_append, List.dropWhile_append, if_neg (by simpa using kept),
    List.reverse_append, List.reverse_reverse, trimEnd]

theorem exists_gap_trimStart (text : Text) :
    ∃ gap, isAllBlank gap ∧ text = gap ++ trimStart text :=
  ⟨text.takeWhile isBlank, by simp [isAllBlank], List.takeWhile_append_dropWhile.symm⟩

theorem exists_trimEnd_gap (text : Text) :
    ∃ gap, isAllBlank gap ∧ text = trimEnd text ++ gap :=
  ⟨text.rtakeWhile isBlank, isAllBlank_iff.2 fun _ => List.mem_rtakeWhile_imp,
    List.rdropWhile_append_rtakeWhile.symm⟩

theorem exists_gaps_trim (text : Text) :
    ∃ before after, isAllBlank before ∧ isAllBlank after ∧ text = before ++ trim text ++ after := by
  obtain ⟨before, blankBefore, first⟩ := exists_gap_trimStart text
  obtain ⟨after, blankAfter, second⟩ := exists_trimEnd_gap (trimStart text)
  refine ⟨before, after, blankBefore, blankAfter, ?_⟩
  rw [List.append_assoc, trim, ← second, ← first]

theorem mem_trim_iff {c : Char} (solid : isBlank c = false) {text : Text} :
    c ∈ trim text ↔ c ∈ text := by
  obtain ⟨before, after, blankBefore, blankAfter, whole⟩ := exists_gaps_trim text
  have outside : ∀ gap : Text, isAllBlank gap → c ∉ gap := by
    intro gap blank member
    rw [isAllBlank_iff.1 blank c member] at solid
    cases solid
  conv_rhs => rw [whole]
  simp [outside before blankBefore, outside after blankAfter]

theorem trim_eq_nil_iff {text : Text} : trim text = [] ↔ isAllBlank text := by
  obtain ⟨gap, blank, whole⟩ := exists_gap_trimStart text
  rw [trim, trimEnd_eq_nil_iff]
  constructor
  · intro empty
    rw [whole, isAllBlank_append, blank, empty]
    rfl
  · intro all
    rw [whole, isAllBlank_append, blank] at all
    simpa using all

theorem length_trim_le (text : Text) : (trim text).length ≤ text.length := by
  obtain ⟨before, after, _, _, whole⟩ := exists_gaps_trim text
  have size := congrArg List.length whole
  simp only [List.length_append] at size
  omega

theorem trim_blank_append {gap : Text} (blank : isAllBlank gap) (text : Text) :
    trim (gap ++ text) = trim text := by
  rw [trim, trimStart_blank_append blank, trim]

theorem trim_append_blank {gap : Text} (text : Text) (blank : isAllBlank gap) :
    trim (text ++ gap) = trim text := by
  by_cases all : isAllBlank text
  · rw [trim_eq_nil_iff.2 all, trim_eq_nil_iff, isAllBlank_append, all, blank]
    rfl
  · rw [trim, trimStart_append (by simpa using all), trimEnd_append_blank _ blank, trim]

theorem trim_trimStart (text : Text) : trim (trimStart text) = trim text := by
  obtain ⟨gap, blank, whole⟩ := exists_gap_trimStart text
  conv_rhs => rw [whole, trim_blank_append blank]

theorem trim_trimEnd (text : Text) : trim (trimEnd text) = trim text := by
  obtain ⟨gap, blank, whole⟩ := exists_trimEnd_gap text
  conv_rhs => rw [whole, trim_append_blank _ blank]

theorem trim_trim (text : Text) : trim (trim text) = trim text :=
  (trim_trimEnd (trimStart text)).trans (trim_trimStart text)

theorem trim_between {a b : Text} (front : isAllBlank a = false) (back : isAllBlank b = false)
    (middle : Text) : trim (a ++ middle ++ b) = trimStart a ++ middle ++ trimEnd b := by
  rw [trim, List.append_assoc, trimStart_append front, ← List.append_assoc, trimEnd_append _ back]

/-- A text whose ends are not blank. -/
def Tight (text : Text) : Prop := text ≠ [] ∧ trim text = text

theorem Tight.ne_nil {text : Text} (tight : Tight text) : text ≠ [] := tight.1

theorem Tight.trim_eq {text : Text} (tight : Tight text) : trim text = text := tight.2

theorem Tight.trimStart_eq {text : Text} (tight : Tight text) : trimStart text = text := by
  obtain ⟨before, _, first⟩ := exists_gap_trimStart text
  obtain ⟨after, _, second⟩ := exists_trimEnd_gap (trimStart text)
  have size := congrArg List.length first
  have trimmed := congrArg List.length second
  have same : (trimEnd (trimStart text)).length = text.length := congrArg List.length tight.2
  simp only [List.length_append] at size trimmed
  have empty : before = [] := List.length_eq_zero_iff.1 (by omega)
  rw [empty] at first
  exact first.symm

theorem Tight.trimEnd_eq {text : Text} (tight : Tight text) : trimEnd text = text := by
  have whole := tight.trim_eq
  rwa [trim, tight.trimStart_eq] at whole

theorem Tight.exists_cons {text : Text} (tight : Tight text) :
    ∃ c rest, text = c :: rest ∧ isBlank c = false := by
  have start := tight.trimStart_eq
  cases text with
  | nil => exact absurd rfl tight.ne_nil
  | cons c rest =>
    refine ⟨c, rest, rfl, ?_⟩
    by_contra blank
    rw [trimStart, List.dropWhile_cons_of_pos (by simpa using blank)] at start
    have size := congrArg List.length start
    have shorter := (List.dropWhile_suffix (l := rest) isBlank).length_le
    simp only [List.length_cons] at size
    omega

theorem Tight.isAllBlank_eq {text : Text} (tight : Tight text) : isAllBlank text = false := by
  obtain ⟨c, rest, rfl, solid⟩ := tight.exists_cons
  simp [solid]

theorem tight_trim {text : Text} (solid : isAllBlank text = false) : Tight (trim text) :=
  ⟨by simp [trim_eq_nil_iff, solid], trim_trim text⟩

theorem tight_of_solid {text : Text} (nonempty : text ≠ [])
    (solid : ∀ c ∈ text, isBlank c = false) : Tight text := by
  have back : trimEnd text = text :=
    List.rdropWhile_eq_self_iff.2 fun kept => by simp [solid _ (List.getLast_mem kept)]
  obtain ⟨c, rest, rfl⟩ := List.exists_cons_of_ne_nil nonempty
  exact ⟨nonempty, by rw [trim, trimStart_cons (solid c (by simp)), back]⟩

theorem Tight.surround {first last : Text} (front : Tight first) (back : Tight last)
    (middle : Text) : Tight (first ++ middle ++ last) := by
  refine ⟨by simp [front.ne_nil], ?_⟩
  rw [trim, List.append_assoc, trimStart_append front.isAllBlank_eq, front.trimStart_eq,
    ← List.append_assoc, trimEnd_append _ back.isAllBlank_eq, back.trimEnd_eq]

theorem Tight.append {first last : Text} (front : Tight first) (back : Tight last) :
    Tight (first ++ last) := by
  simpa using front.surround back []

theorem Tight.trim_gaps {before text after : Text} (tight : Tight text)
    (blankBefore : isAllBlank before) (blankAfter : isAllBlank after) :
    trim (before ++ text ++ after) = text := by
  rw [trim_append_blank _ blankAfter, trim_blank_append blankBefore, tight.trim_eq]

theorem intercalate_concat {gap : Text} {texts : List Text} (nonempty : texts ≠ []) (last : Text) :
    gap.intercalate (texts ++ [last]) = gap.intercalate texts ++ (gap ++ last) := by
  induction texts with
  | nil => exact absurd rfl nonempty
  | cons first others ih =>
    rw [List.cons_append, List.intercalate_cons_of_ne_nil (by simp)]
    by_cases alone : others = []
    · simp [alone]
    · simp only [ih alone, List.intercalate_cons_of_ne_nil alone, List.append_assoc]

theorem tight_intercalate {gap : Text} {texts : List Text} (nonempty : texts ≠ [])
    (tight : ∀ text ∈ texts, Tight text) : Tight (gap.intercalate texts) := by
  induction texts with
  | nil => exact absurd rfl nonempty
  | cons first others ih =>
    rw [List.forall_mem_cons] at tight
    cases others with
    | nil => simpa using tight.1
    | cons second others =>
      rw [List.intercalate_cons_cons]
      exact tight.1.surround (ih (by simp) tight.2) gap

end LineScript.Text
