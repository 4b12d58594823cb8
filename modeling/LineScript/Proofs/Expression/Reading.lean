import LineScript.Proofs.Expression.Shape
import Mathlib.Data.List.Forall2

/-! How written expressions are read. Each form is tried in turn on the bare text; a
text is never taken for an earlier form, and it is cut exactly where its parts were
joined. -/
namespace LineScript.Grammar

open Expression (Connective Relation Form Accessor)
open Scan (Nested Units Apart splitIdentifier)
open Text (isAllBlank isBlank Tight)

def Loose (text : Text) : Prop :=
  ∃ c rest, text = c :: rest ∧ Scan.isIdentifierChar c = false ∧ c ∉ ['(', '.', '[']

namespace Loose

variable {text : Text}

theorem ne_nil (loose : Loose text) : text ≠ [] := by
  obtain ⟨c, rest, rfl, _⟩ := loose
  simp

theorem apart (loose : Loose text) : Apart text := by
  obtain ⟨c, rest, rfl, other, _⟩ := loose
  exact Scan.apart_cons.2 other

theorem append (loose : Loose text) (more : Text) : Loose (text ++ more) := by
  obtain ⟨c, rest, rfl, other⟩ := loose
  exact ⟨c, rest ++ more, rfl, other⟩

theorem gap {gap : Text} (blank : isAllBlank gap) (loose : Loose text) : Loose (gap ++ text) := by
  cases gap with
  | nil => exact loose
  | cons c rest =>
    rw [Text.isAllBlank_cons, Bool.and_eq_true] at blank
    exact ⟨c, rest ++ text, rfl, Scan.not_isIdentifierChar_of_isBlank blank.1,
      Text.not_mem_of_all (by decide) blank.1⟩

theorem symbol (relation : Relation) : Loose relation.symbol := by
  cases relation <;> exact ⟨_, _, rfl, by decide, by decide⟩

theorem word (connective : Connective) : Loose connective.word := by
  cases connective <;> exact ⟨_, _, rfl, by decide, by decide⟩

end Loose

theorem Name.splitIdentifier_append (name : Name) {rest : Text} (apart : Apart rest) :
    splitIdentifier (name.text ++ rest) = (name.text, rest) :=
  Scan.splitIdentifier_eq name.valid apart

theorem Name.text_ne_nil (name : Name) : name.text ≠ [] := by
  obtain ⟨c, rest, whole, _⟩ := name.exists_cons
  simp [whole]

theorem Name.enclosed?_append (name : Name) {opener : Char}
    (other : Scan.isIdentifierStart opener = false) (rest : Text) :
    Scan.enclosed? opener (name.text ++ rest) = none := by
  obtain ⟨c, more, whole, start⟩ := name.exists_cons
  rw [whole, List.cons_append]
  refine Scan.enclosed?_eq_none_of_head ?_ _
  rintro rfl
  rw [start] at other
  cases other

theorem Numeral.exists_cons (numeral : Numeral) :
    ∃ c rest, Text.trim numeral.text = c :: rest ∧ Scan.isIdentifierStart c = false ∧
      c ∉ Scan.marks := by
  obtain ⟨literal, read⟩ := numeral.exists_read
  have numeric := numeral.isNumeric
  obtain ⟨c, rest, whole, _⟩ := numeral.tight.exists_cons
  rw [whole] at read numeric
  exact ⟨c, rest, whole, Decimal.not_isIdentifierStart_of_read? read,
    Text.not_mem_of_all (by decide) (numeric c (by simp))⟩

inductive Access.ReadAs (size : Nat) : Access → Accessor → Prop where
  | property (name : Name) : Access.ReadAs size (.property name) (.property name.label)
  | index {position : Expr} {body : Text} : position.Written body → body.length < size →
      Access.ReadAs size (.index position) (.index body)

theorem Access.Written.accessor? {access : Access} {text : Text} (written : access.Written text)
    {rest : Text} (apart : Apart rest) :
    ∃ accessor, Expression.accessor? (text ++ rest) = some (accessor, rest) ∧
      access.ReadAs text.length accessor := by
  cases written with
  | property name =>
    refine ⟨_, ?_, .property name⟩
    simp only [List.cons_append, Expression.accessor?, name.splitIdentifier_append apart, if_true,
      name.text_ne_nil, if_false, Name.label]
  | index position =>
    refine ⟨_, ?_, .index position (by simp only [List.length_cons, List.length_append]; omega)⟩
    have found := Scan.group?_bracket .square position.nested.loosen rest
    simp only [Scan.Bracket.opener, Scan.Bracket.closer, List.cons_append] at found
    simp only [List.cons_append, Expression.accessor?, found]
    rfl

theorem Access.Written.apart {access : Access} {text : Text} (written : access.Written text)
    (rest : Text) : Apart (text ++ rest) := by
  cases written with
  | property name => exact Scan.apart_cons.2 (by decide)
  | index position => exact Scan.apart_cons.2 (by decide)

theorem Access.Chained.apart {accesses : List Access} {text rest : Text}
    (chained : Access.Chained accesses text) (apart : Apart rest) : Apart (text ++ rest) := by
  cases chained with
  | nil => exact apart
  | cons first others =>
    rw [List.append_assoc]
    exact first.apart _

theorem Access.ReadAs.mono {size more : Nat} {access : Access} {accessor : Accessor}
    (read : access.ReadAs size accessor) (le : size ≤ more) : access.ReadAs more accessor := by
  cases read with
  | property name => exact .property name
  | index position short => exact .index position (Nat.lt_of_lt_of_le short le)

theorem accessors?_cons {text rest : Text} {accessor : Accessor}
    (found : Expression.accessor? text = some (accessor, rest)) :
    Expression.accessors? text = (Expression.accessors? rest).map (accessor :: ·) := by
  have nonempty : text ≠ [] := by
    rintro rfl
    cases found
  rw [Expression.accessors?, if_neg nonempty]
  split
  next missing => rw [found] at missing; cases missing
  next here => rw [found] at here; cases here; rfl

theorem splitIdentifier_nested {avoid text : Text} (nested : Nested avoid text) {rest : Text}
    (apart : Apart rest) : ∃ name tail, text = name ++ tail ∧ Nested avoid tail ∧
      splitIdentifier (text ++ rest) = (name, tail ++ rest) := by
  have inside : ∀ c ∈ (splitIdentifier (text ++ rest)).1, Scan.isIdentifierChar c = true := by
    by_cases unnamed : (splitIdentifier (text ++ rest)).1 = []
    · simp [unnamed]
    · exact Scan.isIdentifierChar_of_isIdentifier (Scan.isIdentifier_of_splitIdentifier unnamed)
  have whole := Scan.splitIdentifier_append (text ++ rest)
  generalize splitIdentifier (text ++ rest) = split at inside whole ⊢
  obtain ⟨name, onward⟩ := split
  dsimp only at inside whole
  obtain ⟨tail, rfl, rfl⟩ : ∃ tail, text = name ++ tail ∧ onward = tail ++ rest := by
    rcases List.append_eq_append_iff.1 whole with ⟨tail, same, onwards⟩ | ⟨more, same, rfl⟩
    · exact ⟨tail, same, onwards⟩
    · cases more with
      | nil => exact ⟨[], by simp [same], rfl⟩
      | cons c more =>
        have member := inside c (by simp [same])
        rw [Scan.apart_cons.1 apart] at member
        cases member
  refine ⟨name, tail, rfl, nested.of_unmarked_append fun c member => ?_, rfl⟩
  exact Text.not_mem_of_all (by decide) (inside c member)

theorem accessor?_nested {avoid text rest tail : Text} {accessor : Accessor}
    (nested : Nested avoid text) (loose : Loose rest)
    (found : Expression.accessor? (text ++ rest) = some (accessor, tail)) :
    ∃ left, Nested avoid left ∧ tail = left ++ rest := by
  cases nested with
  | nil =>
    obtain ⟨c, more, rfl, _, other⟩ := loose
    simp only [List.mem_cons, List.not_mem_nil, or_false, not_or] at other
    simp [Expression.accessor?, other] at found
  | @plain _ c front unmarked _ later =>
    have bracket : c ≠ '[' := by
      rintro rfl
      exact unmarked (by decide)
    obtain ⟨name, left, rfl, inner, split⟩ := splitIdentifier_nested later loose.apart
    simp only [List.cons_append, Expression.accessor?, split, bracket, if_false] at found
    split at found
    · split at found
      · cases found
      · cases found
        exact ⟨left, inner, rfl⟩
    · cases found
  | quoted => simp [Expression.accessor?] at found
  | @group _ body left bracket inner later =>
    have group := Scan.group?_bracket bracket inner (left ++ rest)
    cases bracket with
    | square =>
      simp only [Scan.Bracket.opener, List.cons_append, List.append_assoc, List.nil_append] at group
      simp only [Scan.Bracket.opener, List.cons_append, List.append_assoc, Expression.accessor?,
        group] at found
      cases found
      exact ⟨left, later, rfl⟩
    | paren | curly => simp [Expression.accessor?, Scan.Bracket.opener] at found

theorem accessors?_nested {avoid text rest : Text} (nested : Nested avoid text)
    (loose : Loose rest) : Expression.accessors? (text ++ rest) = none := by
  generalize whole : text ++ rest = joined
  fun_induction Expression.accessors? joined generalizing text with
  | case1 => exact absurd (List.append_eq_nil_iff.1 whole).2 loose.ne_nil
  | case2 => rfl
  | case3 joined nonempty accessor tail found ih =>
    obtain ⟨left, inner, rfl⟩ := accessor?_nested nested loose (whole ▸ found)
    rw [ih inner rfl, Option.map_none]

theorem Access.Chained.accessors? {accesses : List Access} {text rest : Text} (apart : Apart rest)
    (chained : Access.Chained accesses text) :
    ∃ accessors, Expression.accessors? (text ++ rest) =
        (Expression.accessors? rest).map (accessors ++ ·) ∧
      List.Forall₂ (Access.ReadAs text.length) accesses accessors := by
  induction accesses generalizing text with
  | nil =>
    cases chained
    exact ⟨[], by simp, .nil⟩
  | cons _ _ ih =>
    cases chained with
    | cons first others =>
      obtain ⟨accessors, later, reads⟩ := ih others
      obtain ⟨accessor, here, read⟩ := first.accessor? (others.apart apart)
      refine ⟨accessor :: accessors, ?_, .cons (read.mono (by simp)) ?_⟩
      · rw [List.append_assoc, accessors?_cons here, later, Option.map_map]
        rfl
      · exact reads.imp fun _ _ read => read.mono (by simp)

theorem Atom.Written.splitIdentifier {atom : Atom} {text rest : Text}
    (written : atom.Written text) (apart : Apart rest) :
    splitIdentifier (text ++ rest) = ([], text ++ rest) ∨
      (∃ name : Variable, splitIdentifier (text ++ rest) = (name.text, rest)) ∨
      ∃ (name : Name) (c : Char) (tail : Text),
        splitIdentifier (text ++ rest) = (name.text, c :: tail) ∧ c ∈ ['(', '.', '['] := by
  cases written with
  | string content => exact .inl (Scan.splitIdentifier_of_not_start (by decide) _)
  | number numeral _ =>
    obtain ⟨c, more, whole, other, _⟩ := numeral.exists_cons
    rw [whole]
    exact .inl (Scan.splitIdentifier_of_not_start other _)
  | name name => exact .inr (.inl ⟨name, name.splitIdentifier_append apart⟩)
  | @call _ body name _ =>
    have bracket : Apart ('(' :: body ++ [')'] ++ rest) := Scan.apart_cons.2 (by decide)
    rw [List.append_assoc, name.splitIdentifier_append bracket]
    exact .inr (.inr ⟨name, '(', _, rfl, by decide⟩)
  | array _ => exact .inl (Scan.splitIdentifier_of_not_start (by decide) _)
  | object _ => exact .inl (Scan.splitIdentifier_of_not_start (by decide) _)
  | access base first others =>
    rw [List.append_assoc, List.append_assoc, base.splitIdentifier_append (first.apart _)]
    cases first with
    | property name => exact .inr (.inr ⟨base, '.', _, rfl, by decide⟩)
    | index position => exact .inr (.inr ⟨base, '[', _, rfl, by decide⟩)

structure Compound (text : Text) : Prop where
  string : Expression.stringLiteral? text = none
  call : Expression.call? text = none
  array : Scan.enclosed? '[' text = none
  object : Scan.enclosed? '\x7b' text = none
  chain : Expression.chain? text = none

theorem stringLiteral?_eq_none {text : Text} (missing : Scan.enclosed? '"' text = none) :
    Expression.stringLiteral? text = none := by
  rw [Expression.stringLiteral?, missing, Option.map_none]

theorem call?_of_splitIdentifier {text name rest : Text}
    (split : splitIdentifier text = (name, rest)) (missing : Scan.enclosed? '(' rest = none) :
    Expression.call? text = none := by
  simp [Expression.call?, split, missing]

theorem call?_of_no_identifier {text : Text} (split : splitIdentifier text = ([], text)) :
    Expression.call? text = none := by
  simp [Expression.call?, split]

theorem chain?_of_no_identifier {text : Text} (split : splitIdentifier text = ([], text)) :
    Expression.chain? text = none := by
  simp [Expression.chain?, split]

theorem chain?_of_splitIdentifier {text name rest : Text}
    (split : splitIdentifier text = (name, rest)) (missing : Expression.accessors? rest = none) :
    Expression.chain? text = none := by
  simp [Expression.chain?, split, missing]

theorem Compound.of_name (name : Name) {rest : Text} (apart : Apart rest)
    (call : Scan.enclosed? '(' rest = none) (chain : Expression.chain? (name.text ++ rest) = none) :
    Compound (name.text ++ rest) where
  string := stringLiteral?_eq_none (name.enclosed?_append (by decide) rest)
  call := call?_of_splitIdentifier (name.splitIdentifier_append apart) call
  array := name.enclosed?_append (by decide) rest
  object := name.enclosed?_append (by decide) rest
  chain := chain

theorem Compound.of_head {c : Char} (other : Scan.isIdentifierStart c = false)
    (unmarked : c ∉ Scan.marks) (rest : Text) : Compound (c :: rest) := by
  have split := Scan.splitIdentifier_of_not_start other rest
  have apart : ∀ d ∈ Scan.marks, c ≠ d := fun d member same => unmarked (same ▸ member)
  exact ⟨stringLiteral?_eq_none (Scan.enclosed?_eq_none_of_head (apart _ (by decide)) _),
    call?_of_no_identifier split, Scan.enclosed?_eq_none_of_head (apart _ (by decide)) _,
    Scan.enclosed?_eq_none_of_head (apart _ (by decide)) _, chain?_of_no_identifier split⟩

theorem Numeral.compound (numeral : Numeral) : Compound (Text.trim numeral.text) := by
  obtain ⟨c, rest, whole, other, unmarked⟩ := numeral.exists_cons
  rw [whole]
  exact .of_head other unmarked rest

theorem compound_of_nested {avoid text rest : Text} (nested : Nested avoid text)
    (nonempty : text ≠ []) (loose : Loose rest) : Compound (text ++ rest) := by
  obtain ⟨name, tail, rfl, inner, split⟩ := splitIdentifier_nested nested loose.apart
  have closed : Scan.enclosed? '(' (tail ++ rest) = none := by
    by_cases empty : tail = []
    · obtain ⟨c, more, rfl, _, other⟩ := loose
      rw [empty]
      exact Scan.enclosed?_eq_none_of_head (by rintro rfl; simp at other) _
    · exact Scan.enclosed?_nested_append inner empty loose.ne_nil _
  exact ⟨stringLiteral?_eq_none (Scan.enclosed?_nested_append nested nonempty loose.ne_nil _),
    call?_of_splitIdentifier split closed,
    Scan.enclosed?_nested_append nested nonempty loose.ne_nil _,
    Scan.enclosed?_nested_append nested nonempty loose.ne_nil _,
    chain?_of_splitIdentifier split (accessors?_nested inner loose)⟩

theorem Atom.Written.compound {atom : Atom} {text rest : Text} (written : atom.Written text)
    (loose : Loose rest) : Compound (text ++ rest) :=
  compound_of_nested written.nested written.tight.ne_nil loose

def NoWord (text : Text) : Prop :=
  ∀ (connective : Connective) (rest : Text), ' ' :: text ≠ connective.word ++ rest

theorem noWord_nil : NoWord [] := by
  rintro (_ | _) rest <;> simp [Connective.word]

theorem noWord_of_head {c : Char} (other : c ∉ ['r', 'a']) (text : Text) : NoWord (c :: text) := by
  simp only [List.mem_cons, List.not_mem_nil, or_false, not_or] at other
  rintro (_ | _) rest <;> simp [Connective.word, other]

theorem noWord_gap {gap text : Text} (blank : isAllBlank gap) (noWord : NoWord text) :
    NoWord (gap ++ text) := by
  cases gap with
  | nil => exact noWord
  | cons c rest =>
    rw [Text.isAllBlank_cons, Bool.and_eq_true] at blank
    exact noWord_of_head (Text.not_mem_of_all (by decide) blank.1) _

theorem splitIdentifier_of_word {connective : Connective} {text rest : Text}
    (same : ' ' :: text = connective.word ++ rest) :
    ∃ word, connective.word = ' ' :: word ++ [' '] ∧ word ≠ [] ∧
      splitIdentifier text = (word, ' ' :: rest) := by
  have apart : Apart (' ' :: rest) := Scan.apart_cons.2 (by decide)
  cases connective with
  | both =>
    have valid : Scan.isIdentifier ['r', 'a'] = true := by decide
    obtain ⟨-, rfl⟩ := List.cons.inj same
    exact ⟨['r', 'a'], rfl, by simp, Scan.splitIdentifier_eq valid apart⟩
  | either =>
    have valid : Scan.isIdentifier ['a', 't', 'h', 'a', 'w', 'a'] = true := by decide
    obtain ⟨-, rfl⟩ := List.cons.inj same
    exact ⟨['a', 't', 'h', 'a', 'w', 'a'], rfl, by simp, Scan.splitIdentifier_eq valid apart⟩

theorem Atom.Written.noWord {atom : Atom} {text rest : Text} (written : atom.Written text)
    (apart : Apart rest) : NoWord (text ++ rest) := by
  intro connective after same
  obtain ⟨word, spelled, nonempty, split⟩ := splitIdentifier_of_word same
  rcases written.splitIdentifier apart with unnamed | ⟨name, other⟩ | ⟨name, c, tail, other, member⟩
  · rw [split] at unnamed
    exact nonempty (Prod.mk.inj unnamed).1
  · rw [split] at other
    rw [(Prod.mk.inj other).1] at spelled
    exact name.free connective spelled
  · rw [split] at other
    rw [← (List.cons.inj (Prod.mk.inj other).2).1] at member
    simp at member

theorem matchFirst?_words_of_head {c : Char} (other : c ≠ ' ') (rest : Text) :
    Scan.matchFirst? Connective.words (c :: rest) = none := by
  simp [Scan.matchFirst?, Connective.words, Connective.word, Text.dropStart?, Ne.symm other]

theorem NoWord.matchFirst? {text : Text} (noWord : NoWord text) :
    Scan.matchFirst? Connective.words (' ' :: text) = none := by
  rw [Option.eq_none_iff_forall_ne_some]
  rintro ⟨pattern, after⟩ found
  obtain ⟨member, whole⟩ := Scan.eq_of_matchFirst? found
  simp only [Connective.words, List.mem_cons, List.not_mem_nil, or_false] at member
  rcases member with rfl | rfl
  · exact noWord .both after whole
  · exact noWord .either after whole

theorem find?_words_gap {gap text : Text} (blank : isAllBlank gap) (noWord : NoWord text) :
    Scan.find? Connective.words (gap ++ text) =
      (Scan.find? Connective.words text).map (Scan.Occurrence.prepend gap) := by
  induction gap with
  | nil => exact Option.map_id'.symm
  | cons c rest ih =>
    rw [Text.isAllBlank_cons, Bool.and_eq_true] at blank
    have unmarked : c ∉ Scan.marks := Text.not_mem_of_all (by decide) blank.1
    have missing : Scan.matchFirst? Connective.words (c :: (rest ++ text)) = none := by
      by_cases space : c = ' '
      · rw [space]
        exact (noWord_gap blank.2 noWord).matchFirst?
      · exact matchFirst?_words_of_head space _
    rw [List.cons_append, Scan.find?_later unmarked missing, ih blank.2,
      Scan.Occurrence.prepend_prepend]
    rfl

theorem find?_words_nested {text : Text} (nested : Nested [' '] text) (rest : Text) :
    Scan.find? Connective.words (text ++ rest) =
      (Scan.find? Connective.words rest).map (Scan.Occurrence.prepend text) :=
  Scan.find?_nested (fun _ _ other => matchFirst?_words_of_head (by simpa using other) _) nested
    rest

theorem noWord_symbol (relation : Relation) (rest : Text) : NoWord (relation.symbol ++ rest) := by
  cases relation <;> exact noWord_of_head (by decide) _

theorem Atom.Written.find?_words {atom : Atom} {before text after more : Text}
    (blankBefore : isAllBlank before) (written : atom.Written text) (blankAfter : isAllBlank after)
    (apart : Apart more) (noWord : NoWord more) :
    Scan.find? Connective.words (before ++ text ++ after ++ more) =
      (Scan.find? Connective.words more).map
        (Scan.Occurrence.prepend (before ++ text ++ after)) := by
  simp only [List.append_assoc]
  rw [find?_words_gap blankBefore (written.noWord (apart.gap blankAfter)),
    find?_words_nested (written.nested.mono (by decide)), find?_words_gap blankAfter noWord,
    Scan.Occurrence.prepend_prepend, Scan.Occurrence.prepend_prepend, List.append_assoc]

theorem Comparison.Written.find?_words {comparison : Comparison} {text more : Text}
    (apart : Apart more) (noWord : NoWord more) (written : comparison.Written text) :
    Scan.find? Connective.words (text ++ more) =
      (Scan.find? Connective.words more).map (Scan.Occurrence.prepend text) := by
  cases written with
  | atom before inner after => exact inner.find?_words before after apart noWord
  | related relation before left after right =>
    have onward := right.find?_words apart noWord
    rw [List.append_assoc, List.append_assoc,
      left.find?_words before after ((Loose.symbol relation).append _).apart
        (noWord_symbol relation _),
      find?_words_nested (nested_symbol relation (by decide)), onward,
      Scan.Occurrence.prepend_prepend, Scan.Occurrence.prepend_prepend, List.append_assoc,
      List.append_assoc]
termination_by sizeOf comparison

theorem matchFirst?_word (connective : Connective) (rest : Text) :
    Scan.matchFirst? Connective.words (connective.word ++ rest) = some (connective.word, rest) := by
  cases connective <;>
    simp [Scan.matchFirst?, Connective.words, Connective.word, Text.dropStart?]

theorem find?_word (connective : Connective) (rest : Text) :
    Scan.find? Connective.words (connective.word ++ rest) = some ⟨[], connective.word, rest⟩ := by
  have found := matchFirst?_word connective rest
  cases connective <;> exact Scan.find?_here (by decide) found

theorem ofWord_word (connective : Connective) : Connective.ofWord connective.word = connective := by
  cases connective <;> rfl

structure Joined (size : Nat) (part : Connective × Comparison) (read : Connective × Text) :
    Prop where
  connective : part.1 = read.1
  written : part.2.Written read.2
  short : read.2.length < size

theorem Joined.mono {size more : Nat} {part : Connective × Comparison} {read : Connective × Text}
    (joined : Joined size part read) (le : size ≤ more) : Joined more part read :=
  ⟨joined.connective, joined.written, Nat.lt_of_lt_of_le joined.short le⟩

theorem Comparison.Written.find?_words_eq_none {comparison : Comparison} {text : Text}
    (written : comparison.Written text) : Scan.find? Connective.words text = none := by
  have whole := written.find?_words Scan.apart_nil noWord_nil
  rwa [List.append_nil] at whole

theorem Comparison.Written.find?_words_join {comparison : Comparison} {text : Text}
    (written : comparison.Written text) (connective : Connective) (rest : Text) :
    Scan.find? Connective.words (text ++ connective.word ++ rest) =
      some ⟨text, connective.word, rest⟩ := by
  have apart := ((Loose.word connective).append rest).apart
  have noWord : NoWord (connective.word ++ rest) := by
    cases connective <;> exact noWord_of_head (by decide) _
  rw [List.append_assoc, written.find?_words apart noWord, find?_word]
  simp [Scan.Occurrence.prepend]

theorem operandsAfter_of_none {text : Text} (missing : Scan.find? Connective.words text = none)
    (connective : Connective) :
    Expression.operandsAfter connective text = [(connective, text)] := by
  rw [Expression.operandsAfter]
  split
  next => rfl
  next here => rw [missing] at here; cases here

theorem operandsAfter_of_some {text : Text} {found : Scan.Occurrence}
    (here : Scan.find? Connective.words text = some found) (connective : Connective) :
    Expression.operandsAfter connective text =
      (connective, found.before) ::
        Expression.operandsAfter (.ofWord found.pattern) found.after := by
  rw [Expression.operandsAfter]
  split
  next missing => rw [here] at missing; cases missing
  next other => rw [here] at other; cases other; rfl

theorem Term.Written.operandsAfter {first : Comparison} {others : List (Connective × Comparison)}
    {text : Text} (connective : Connective) : Term.Written (.chain first others) text →
      List.Forall₂ (Joined (text.length + 1)) ((connective, first) :: others)
        (Expression.operandsAfter connective text)
  | .one comparison => by
    rw [operandsAfter_of_none comparison.find?_words_eq_none]
    exact .cons ⟨rfl, comparison, by simp⟩ .nil
  | .join next comparison rest => by
    rw [operandsAfter_of_some (comparison.find?_words_join next _), ofWord_word]
    simp only [List.length_append]
    exact .cons ⟨rfl, comparison, by dsimp only; omega⟩
      ((rest.operandsAfter next).imp fun _ _ joined => joined.mono (by omega))

end LineScript.Grammar
