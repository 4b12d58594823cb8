import LineScript.Proofs.Builtin.Search

/-! Splitting and replacing. A text is cut at the occurrences of a delimiter, from the left and
without overlap. The pieces joined with the delimiter are the text, and joined with another text
they are what the replacement of the delimiter gives. -/
namespace LineScript

namespace Text

variable {needle delimiter text piece : Text}

theorem contains_iff : contains needle text = true ↔ needle <:+: text := by
  rw [contains]
  cases found : cut? needle text with
  | none =>
    refine iff_of_false Bool.false_ne_true ?_
    rintro ⟨before, after, rfl⟩
    exact not_prefix_of_cut?_eq_none found before.length ⟨after, by simp⟩
  | some parts => exact iff_of_true rfl ⟨parts.1, parts.2, (eq_of_cut? found).symm⟩

theorem not_infix_of_cut?_eq_none (missing : cut? needle text = none) : ¬needle <:+: text := by
  rw [← contains_iff, contains, missing]
  exact Bool.false_ne_true

theorem position?_eq_some {place : Nat} (here : needle <+: text.drop place)
    (first : ∀ earlier < place, ¬needle <+: text.drop earlier) :
    position? needle text = some place := by
  cases found : position? needle text with
  | none => exact absurd here (not_prefix_of_cut?_eq_none (Option.map_eq_none_iff.1 found) place)
  | some other =>
    obtain ⟨_, there, before⟩ := position?_spec found
    rcases Nat.lt_trichotomy other place with less | rfl | more
    · exact absurd there (first other less)
    · rfl
    · exact absurd here (before place more)

/-- What stands before the first occurrence, with the occurrence, holds no earlier one, even if
occurrences overlap. -/
theorem position?_of_cut? {before after : Text}
    (found : cut? needle text = some (before, after)) :
    position? needle (before ++ needle) = some before.length := by
  refine position?_eq_some (by simp) fun earlier less occurs => ?_
  refine not_prefix_of_cut? found less ?_
  rw [eq_of_cut? found, List.drop_append_of_le_length (by simp; omega)]
  exact occurs.trans (List.prefix_append _ _)

theorem not_infix_of_cut? {before after : Text} (solid : needle ≠ [])
    (found : cut? needle text = some (before, after)) : ¬needle <:+: before := by
  rintro ⟨front, back, rfl⟩
  have positive := List.length_pos_iff.2 solid
  have less : front.length < (front ++ needle ++ back).length := by
    simp
    omega
  refine not_prefix_of_cut? found less ?_
  exact ⟨back ++ (needle ++ after), by simp [eq_of_cut? found]⟩

theorem split_ne_nil (delimiter text : Text) : split delimiter text ≠ [] := by
  rw [split]
  split
  · simp
  · split <;> simp

theorem intercalate_split (delimiter text : Text) :
    delimiter.intercalate (split delimiter text) = text := by
  fun_induction split delimiter text with
  | case1 text nothing => simp
  | case2 text solid missing => simp
  | case3 text solid before after found ih =>
    rw [List.intercalate_cons_of_ne_nil (split_ne_nil delimiter after), ih, ← eq_of_cut? found]

theorem not_infix_of_mem_split (solid : delimiter ≠ []) (member : piece ∈ split delimiter text) :
    ¬delimiter <:+: piece := by
  fun_induction split delimiter text with
  | case1 text nothing => exact absurd nothing solid
  | case2 text _ missing =>
    rw [List.mem_singleton.1 member]
    exact not_infix_of_cut?_eq_none missing
  | case3 text _ before after found ih =>
    rcases List.mem_cons.1 member with rfl | later
    · exact not_infix_of_cut? solid found
    · exact ih later

theorem position?_of_mem_dropLast_split (member : piece ∈ (split delimiter text).dropLast) :
    position? delimiter (piece ++ delimiter) = some piece.length := by
  fun_induction split delimiter text with
  | case1 text nothing => cases member
  | case2 text _ missing => cases member
  | case3 text _ before after found ih =>
    rw [List.dropLast_cons_of_ne_nil (split_ne_nil delimiter after)] at member
    rcases List.mem_cons.1 member with rfl | later
    · exact position?_of_cut? found
    · exact ih later

theorem split_of_not_infix (missing : ¬delimiter <:+: text) : split delimiter text = [text] := by
  rw [split]
  split
  · rfl
  · split
    next => rfl
    next found => exact absurd ⟨_, _, (eq_of_cut? found).symm⟩ missing

/-- Replacing goes along the pieces: it stops where splitting stops, and at each occurrence that
splitting takes out it puts in the replacement. -/
theorem replace_eq_intercalate (solid : delimiter ≠ []) (replacement text : Text) :
    replace delimiter replacement text = replacement.intercalate (split delimiter text) := by
  fun_induction split delimiter text with
  | case1 text nothing => exact absurd nothing solid
  | case2 text _ missing =>
    rw [replace, if_neg solid, List.intercalate_singleton]
    split
    next => rfl
    next found => simp [missing] at found
  | case3 text _ before after found ih =>
    rw [replace, if_neg solid, List.intercalate_cons_of_ne_nil (split_ne_nil delimiter after), ← ih]
    split
    next missing => simp [missing] at found
    next first last here =>
      cases here.symm.trans found
      rfl

theorem interleave_eq (filler text : Text) :
    interleave filler text = text.flatMap (fun c => filler ++ [c]) ++ filler := by
  induction text with
  | nil => rfl
  | cons c text ih => simp [interleave, ih]

end Text

/-- A call that gives a new array of the items in every world and asks for nothing else. -/
def Catalog.GivesArray (catalog : Catalog) (name : String) (arguments items : List Value) : Prop :=
  catalog.invoke name arguments = Action.newArray items

namespace Catalog

structure Splits (text delimiter : String) (pieces : List String) : Prop where
  separates : standard.GivesArray "tukra" [.text text, .text delimiter] (pieces.map .text)
  nonempty : pieces ≠ []
  joined : delimiter.intercalate pieces = text
  clean : ∀ piece ∈ pieces, ¬delimiter.toList <:+: piece.toList ∧
    standard.Gives "chhaina" [.text piece, .text delimiter] (.boolean false)
  /-- Each occurrence is the leftmost one behind those before it: behind the last of them, the
  delimiter is not found before the end of the piece. -/
  leftmost : ∀ piece ∈ pieces.dropLast,
    Text.position? delimiter.toList (piece ++ delimiter).toList = some piece.length
  replaced (replacement : String) :
    standard.Gives "badal" [.text text, .text delimiter, .text replacement]
      (.text (replacement.intercalate pieces))
  same : standard.Gives "badal" [.text text, .text delimiter, .text delimiter] (.text text)
  unchanged (replacement : String) :
    standard.Gives "chhaina" [.text text, .text delimiter] (.boolean false) →
      standard.Gives "badal" [.text text, .text delimiter, .text replacement] (.text text)

structure Spells (text : String) (pieces : List String) : Prop where
  separates : standard.GivesArray "tukra" [.text text, .text ""] (pieces.map .text)
  singles : pieces = text.toList.map String.singleton
  /-- The replacement stands before every character and at the end. -/
  replaced (replacement : String) : standard.Gives "badal" [.text text, .text "", .text replacement]
    (.text (String.join (pieces.map (replacement ++ ·)) ++ replacement))

theorem gives_pieces (text delimiter : String) :
    standard.GivesArray "tukra" [.text text, .text delimiter]
      ((Operation.pieces text.toList delimiter.toList).map fun piece =>
        .text (String.ofList piece)) :=
  rfl

theorem gives_replacement (text delimiter replacement : String) :
    standard.Gives "badal" [.text text, .text delimiter, .text replacement]
      (.text (String.ofList
        (Text.replace delimiter.toList replacement.toList text.toList))) :=
  rfl

theorem gives_contains_false_iff {text needle : String} :
    standard.Gives "chhaina" [.text text, .text needle] (.boolean false) ↔
      ¬needle.toList <:+: text.toList := by
  rw [← Text.contains_iff, Bool.not_eq_true]
  constructor
  · intro gives
    injection gives.symm.trans (gives_contains text needle) with value
    injection value with found
    exact found.symm
  · intro missing
    have gives := gives_contains text needle
    rwa [missing] at gives

theorem intercalate_ofList (separator : String) (pieces : List Text) :
    separator.intercalate (pieces.map String.ofList) =
      String.ofList (separator.toList.intercalate pieces) := by
  have same : String.toList ∘ String.ofList = id := funext fun _ => String.toList_ofList
  rw [← String.toList_inj, String.toList_ofList, String.toList_intercalate, List.map_map, same,
    List.map_id]

section

variable {delimiter : String} (solid : delimiter ≠ "") (text : String)

include solid

theorem gives_replacement_pieces (replacement : String) :
    standard.Gives "badal" [.text text, .text delimiter, .text replacement]
      (.text (replacement.intercalate
        ((Text.split delimiter.toList text.toList).map String.ofList))) := by
  have gives := gives_replacement text delimiter replacement
  rwa [Text.replace_eq_intercalate (by simpa using solid), ← intercalate_ofList] at gives

theorem splits : Splits text delimiter
    ((Text.split delimiter.toList text.toList).map String.ofList) := by
  have nonempty : delimiter.toList ≠ [] := by simpa using solid
  have joined : delimiter.intercalate
      ((Text.split delimiter.toList text.toList).map String.ofList) = text := by
    rw [intercalate_ofList, Text.intercalate_split, String.ofList_toList]
  refine ⟨?_, ?_, joined, ?_, ?_, gives_replacement_pieces solid text, ?_, ?_⟩
  · have gives := gives_pieces text delimiter
    rwa [Operation.pieces, if_neg nonempty, ← Function.comp_def, ← List.map_map] at gives
  · simpa using Text.split_ne_nil delimiter.toList text.toList
  · rw [List.forall_mem_map]
    intro piece member
    rw [gives_contains_false_iff, String.toList_ofList, and_self]
    exact Text.not_infix_of_mem_split nonempty member
  · rw [← List.map_dropLast, List.forall_mem_map]
    intro piece member
    rw [String.toList_append, String.toList_ofList, String.length_ofList]
    exact Text.position?_of_mem_dropLast_split member
  · have gives := gives_replacement_pieces solid text delimiter
    rwa [joined] at gives
  · intro replacement missing
    have gives := gives_replacement_pieces solid text replacement
    rwa [Text.split_of_not_infix (gives_contains_false_iff.1 missing), List.map_singleton,
      String.intercalate_singleton, String.ofList_toList] at gives

end

theorem spells (text : String) : Spells text (text.toList.map String.singleton) where
  separates := by
    have gives := gives_pieces text ""
    simpa [Operation.pieces, Function.comp_def] using gives
  singles := rfl
  replaced replacement := by
    have gives := gives_replacement text "" replacement
    have same : String.ofList (Text.replace "".toList replacement.toList text.toList) =
        String.join ((text.toList.map String.singleton).map (replacement ++ ·)) ++ replacement := by
      rw [← String.toList_inj, String.toList_ofList, String.toList_append, String.toList_join,
        Text.replace, if_pos (by simp), Text.interleave_eq, List.map_map, List.flatMap_map]
      simp
    rwa [same] at gives

end Catalog

/-- Splitting and replacing agree, at every delimiter. -/
theorem split_agrees (text delimiter : String) :
    (delimiter ≠ "" → ∃ pieces, Catalog.Splits text delimiter pieces) ∧
      ∃ pieces, Catalog.Spells text pieces :=
  ⟨fun solid => ⟨_, Catalog.splits solid text⟩, _, Catalog.spells text⟩

end LineScript
