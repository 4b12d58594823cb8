import LineScript.Expression.Evaluate
import LineScript.Proofs.Scan.Identifier
import LineScript.Proofs.Scan.Search
import LineScript.Proofs.Text.Trim

/-! The parts of an expression. Evaluating a fragment evaluates parts of it and no other text,
and each part is shorter than the fragment, however malformed the text may be. -/
namespace LineScript

namespace Scan

theorem splitFrom_ne_nil (delimiter : Char) (depth : Depth) (text : Text) :
    splitFrom delimiter depth text ≠ [] := by
  cases text with
  | nil => simp [splitFrom]
  | cons c rest =>
    have onward := splitFrom_ne_nil delimiter (depth.feed c) rest
    rw [splitFrom]
    split
    · simp
    · simpa using onward

theorem length_of_mem_splitFrom {delimiter : Char} {depth : Depth} {text part : Text}
    (member : part ∈ splitFrom delimiter depth text) :
    part.length + (splitFrom delimiter depth text).length ≤ text.length + 1 := by
  induction text generalizing depth part with
  | nil =>
    obtain rfl := List.mem_singleton.1 member
    rfl
  | cons c rest ih =>
    obtain ⟨first, others, parts⟩ :=
      List.exists_cons_of_ne_nil (splitFrom_ne_nil delimiter (depth.feed c) rest)
    have bound (other : Text) (there : other ∈ first :: others) := ih (parts ▸ there)
    have head := bound first List.mem_cons_self
    rw [splitFrom]
    rw [splitFrom] at member
    rw [parts] at bound head member ⊢
    simp only [List.length_cons] at bound head ⊢
    split at member
    next here =>
      rw [if_pos here]
      rcases List.mem_cons.1 member with rfl | there
      · simp only [List.length_nil, List.length_cons]
        omega
      · have := bound part there
        simp only [List.length_cons]
        omega
    next here =>
      rw [if_neg here, List.length_modifyHead]
      rcases List.mem_cons.1 member with rfl | there
      · simp only [List.length_cons]
        omega
      · have := bound part (List.mem_cons_of_mem _ there)
        simp only [List.length_cons]
        omega

theorem length_le_of_mem_split {delimiter : Char} {text part : Text}
    (member : part ∈ split delimiter text) : part.length ≤ text.length := by
  have bound := length_of_mem_splitFrom member
  have positive := List.length_pos_of_mem member
  rw [split] at positive
  omega

theorem length_lt_of_mem_split {delimiter : Char} {text part : Text}
    (member : part ∈ split delimiter text) (several : 1 < (split delimiter text).length) :
    part.length < text.length := by
  have bound := length_of_mem_splitFrom member
  rw [split] at several
  omega

theorem length_of_enclosed? {opener : Char} {text body : Text}
    (found : enclosed? opener text = some body) : text.length = body.length + 2 := by
  obtain ⟨closer, opened⟩ := group?_of_enclosed? found
  have whole := congrArg List.length (eq_of_group? opened)
  simpa using whole

theorem length_lt_of_find? {patterns : List Text} {text : Text} {found : Occurrence}
    (here : find? patterns text = some found) (solid : [] ∉ patterns) :
    found.before.length < text.length ∧ found.after.length < text.length := by
  obtain ⟨member, whole⟩ := eq_of_find? here
  have nonempty : found.pattern ≠ [] := fun empty => solid (empty ▸ member)
  have positive := List.length_pos_iff.2 nonempty
  rw [whole]
  simp only [List.length_append]
  omega

end Scan

namespace Expression

inductive Form.Part (part : Text) : Form → Prop where
  | addend {operands : List Text} : part ∈ operands → Form.Part part (.sum operands)
  | argument {name : String} {list : Text} {parts : List Text} : arguments list = .ok parts →
      part ∈ parts → Form.Part part (.call name list)
  | item {body : Text} {parts : List Text} : items body = .ok parts → part ∈ parts →
      Form.Part part (.array body)
  | value {body text : Text} {parts : List Text} {key : String} : items body = .ok parts →
      text ∈ parts → pair text = .ok (key, part) → Form.Part part (.object body)
  | index {base : String} {accessors : List Accessor} : .index part ∈ accessors →
      Form.Part part (.chain base accessors)
  | first {others : List (Connective × Text)} : Form.Part part (.logical part others)
  | other {first : Text} {connective : Connective} {others : List (Connective × Text)} :
      (connective, part) ∈ others → Form.Part part (.logical first others)
  | left {relation : Relation} {right : Text} : Form.Part part (.comparison part relation right)
  | right {relation : Relation} {left : Text} : Form.Part part (.comparison left relation part)

theorem length_le_of_mem_trimmed {delimiter : Char} {text part : Text}
    (member : part ∈ (Scan.split delimiter text).map Text.trim) : part.length ≤ text.length := by
  obtain ⟨whole, there, rfl⟩ := List.mem_map.1 member
  exact Nat.le_trans (Text.length_trim_le whole) (Scan.length_le_of_mem_split there)

theorem arguments_eq_ok {list : Text} {parts : List Text} (read : arguments list = .ok parts) :
    (Text.isAllBlank list = true ∧ parts = []) ∨
      (Text.isAllBlank list = false ∧ parts = (Scan.split ',' list).map Text.trim ∧
        ∀ part ∈ Scan.split ',' list, Text.isAllBlank part = false) := by
  rw [arguments] at read
  split at read
  next blank =>
    cases read
    exact .inl ⟨blank, rfl⟩
  next solid =>
    dsimp only at read
    split at read
    next => cases read
    next full =>
      cases read
      refine .inr ⟨by simpa using solid, rfl, ?_⟩
      simpa [Text.trim_eq_nil_iff] using full

theorem length_le_of_arguments {list part : Text} {parts : List Text}
    (read : arguments list = .ok parts) (member : part ∈ parts) : part.length ≤ list.length := by
  rcases arguments_eq_ok read with ⟨_, rfl⟩ | ⟨_, rfl, _⟩
  · cases member
  · exact length_le_of_mem_trimmed member

theorem mem_of_mem_dropTrailing {parts : List Text} {part : Text}
    (member : part ∈ dropTrailing parts) : part ∈ parts := by
  rw [dropTrailing] at member
  split at member
  · exact List.dropLast_subset _ member
  · exact member

theorem length_le_of_items {body part : Text} {parts : List Text}
    (read : items body = .ok parts) (member : part ∈ parts) : part.length ≤ body.length := by
  rw [items] at read
  split at read
  next =>
    cases read
    cases member
  next =>
    dsimp only at read
    split at read
    · cases read
    · cases read
      exact length_le_of_mem_trimmed (mem_of_mem_dropTrailing member)

theorem length_lt_of_pair {text part : Text} {key : String}
    (read : pair text = .ok (key, part)) : part.length < text.length := by
  rw [pair] at read
  split at read
  next => cases read
  next found here =>
    cases named : Expression.key (Text.trim found.before) with
    | error fault =>
      rw [named] at read
      cases read
    | ok label =>
      rw [named] at read
      cases read
      exact (Scan.length_lt_of_find? here (by simp)).2

theorem call?_eq_some_iff {text list : Text} {name : String} :
    call? text = some (name, list) ↔ ∃ group, Scan.isIdentifier name.toList = true ∧
      text = name.toList ++ group ∧ Scan.enclosed? '(' group = some list := by
  constructor
  · intro found
    rw [call?] at found
    dsimp only at found
    split at found
    next => cases found
    next named =>
      obtain ⟨body, enclosed, same⟩ := Option.map_eq_some_iff.1 found
      cases same
      rw [String.toList_ofList]
      exact ⟨_, Scan.isIdentifier_of_splitIdentifier named,
        (Scan.splitIdentifier_append text).symm, enclosed⟩
  · rintro ⟨group, valid, rfl, enclosed⟩
    have apart : Scan.Apart group := by
      obtain ⟨closer, opened⟩ := Scan.group?_of_enclosed? enclosed
      rw [Scan.eq_of_group? opened]
      exact Scan.apart_cons.2 rfl
    have named : name.toList ≠ [] := by
      intro empty
      rw [empty] at valid
      cases valid
    simp only [call?, Scan.splitIdentifier_eq valid apart, named, if_false, enclosed,
      Option.map_some, String.ofList_toList]

theorem length_lt_of_call? {text list : Text} {name : String}
    (found : call? text = some (name, list)) : list.length < text.length := by
  obtain ⟨group, _, rfl, enclosed⟩ := call?_eq_some_iff.1 found
  have inner := Scan.length_of_enclosed? enclosed
  rw [List.length_append]
  omega

theorem length_lt_of_index {text tail part : Text}
    (found : accessor? text = some (.index part, tail)) : part.length < text.length := by
  cases text with
  | nil => cases found
  | cons c rest =>
    rw [accessor?] at found
    split at found
    next =>
      dsimp only at found
      split at found <;> cases found
    next =>
      split at found
      next =>
        obtain ⟨group, opened, same⟩ := Option.map_eq_some_iff.1 found
        cases same
        have whole := congrArg List.length (Scan.eq_of_group? opened)
        simp only [List.cons_append, List.length_cons, List.length_append] at whole ⊢
        omega
      next => cases found

theorem length_lt_of_accessors? {text part : Text} {accessors : List Accessor}
    (found : accessors? text = some accessors) (member : .index part ∈ accessors) :
    part.length < text.length := by
  fun_induction accessors? text generalizing accessors with
  | case1 =>
    cases found
    cases member
  | case2 => cases found
  | case3 text nonempty accessor tail here ih =>
    obtain ⟨others, later, rfl⟩ := Option.map_eq_some_iff.1 found
    rcases List.mem_cons.1 member with rfl | there
    · exact length_lt_of_index here
    · exact Nat.lt_trans (ih later there) (length_lt_of_accessor? here)

theorem length_lt_of_chain? {text part : Text} {base : String} {accessors : List Accessor}
    (found : chain? text = some (base, accessors)) (member : .index part ∈ accessors) :
    part.length < text.length := by
  rw [chain?] at found
  dsimp only at found
  split at found
  next => cases found
  next =>
    obtain ⟨others, later, same⟩ := Option.map_eq_some_iff.1 found
    cases same
    have inner := length_lt_of_accessors? later member
    have whole := congrArg List.length (Scan.splitIdentifier_append text)
    rw [List.length_append] at whole
    omega

theorem solid_words : [] ∉ Connective.words := by decide

theorem solid_symbols : [] ∉ Relation.symbols := by decide

theorem length_le_of_operandsAfter {connective : Connective} {text : Text}
    {part : Connective × Text} (member : part ∈ operandsAfter connective text) :
    part.2.length ≤ text.length := by
  fun_induction operandsAfter connective text with
  | case1 connective text missing =>
    obtain rfl := List.mem_singleton.1 member
    exact Nat.le_refl _
  | case2 connective text found here ih =>
    have shorter := Scan.length_lt_of_find? here solid_words
    rcases List.mem_cons.1 member with rfl | there
    · exact shorter.1.le
    · exact Nat.le_trans (ih there) shorter.2.le

theorem length_lt_of_part_operand {text part : Text} (inside : (Form.ofOperand text).Part part) :
    part.length < text.length := by
  unfold Form.ofOperand at inside
  split at inside
  next found =>
    cases inside with
    | argument read member =>
      exact Nat.lt_of_le_of_lt (length_le_of_arguments read member) (length_lt_of_call? found)
  split at inside
  next found =>
    have whole := Scan.length_of_enclosed? found
    cases inside with
    | item read member =>
      have inner := length_le_of_items read member
      omega
  split at inside
  next found =>
    have whole := Scan.length_of_enclosed? found
    cases inside with
    | value read member paired =>
      have inner := length_le_of_items read member
      have shorter := length_lt_of_pair paired
      omega
  split at inside
  next found =>
    cases inside with
    | index member => exact length_lt_of_chain? found member
  split at inside
  next found =>
    obtain ⟨occurrence, here, same⟩ := Option.map_eq_some_iff.1 found
    cases same
    have shorter := Scan.length_lt_of_find? here solid_words
    cases inside with
    | first => exact shorter.1
    | other member => exact Nat.lt_of_le_of_lt (length_le_of_operandsAfter member) shorter.2
  split at inside
  next found =>
    obtain ⟨occurrence, here, same⟩ := Option.map_eq_some_iff.1 found
    cases same
    have shorter := Scan.length_lt_of_find? here solid_symbols
    cases inside with
    | left => exact shorter.1
    | right => exact shorter.2
  split at inside
  next => cases inside
  split at inside
  next => cases inside
  next => cases inside

/-- Every part of a fragment is shorter than the fragment. -/
theorem Form.Part.length_lt {text part : Text}
    (inside : (Form.ofFragment (Text.trim text)).Part part) : part.length < text.length := by
  refine Nat.lt_of_lt_of_le ?_ (Text.length_trim_le text)
  generalize Text.trim text = text at inside
  unfold Form.ofFragment at inside
  split at inside
  next => cases inside
  split at inside
  next => cases inside
  split at inside
  next parts =>
    cases inside with
    | addend member =>
      rw [← parts] at member
      exact Scan.length_lt_of_mem_split member (by rw [parts]; simp)
  next => exact length_lt_of_part_operand inside

end Expression

end LineScript
