import LineScript.Builtin.Catalog
import LineScript.Proofs.Decimal.Count

/-! Searching, slicing and measuring texts. All three count characters, so that the slice which
begins at the position of a needle and has its length is the needle, and no slice of that length
begins earlier with the same result. -/
namespace LineScript

namespace Text

variable {needle text : Text}

theorem dropStart?_eq_none (missing : dropStart? needle text = none) : ¬needle <+: text := by
  rintro ⟨after, rfl⟩
  rw [dropStart?_eq_some.2 rfl] at missing
  cases missing

theorem not_prefix_of_cut? {before after : Text}
    (found : cut? needle text = some (before, after)) {place : Nat}
    (earlier : place < before.length) : ¬needle <+: text.drop place := by
  induction text generalizing before place with
  | nil =>
    simp only [cut?, Option.map_eq_some_iff, Prod.mk.injEq] at found
    obtain ⟨_, _, rfl, _⟩ := found
    cases earlier
  | cons c text ih =>
    rw [cut?] at found
    split at found
    next =>
      obtain ⟨rfl, _⟩ := found
      cases earlier
    next other =>
      simp only [Option.map_eq_some_iff, Prod.exists, Prod.mk.injEq] at found
      obtain ⟨front, _, inner, rfl, rfl⟩ := found
      cases place with
      | zero => exact dropStart?_eq_none other
      | succ place => exact ih inner (Nat.lt_of_succ_lt_succ earlier)

theorem not_prefix_of_cut?_eq_none (missing : cut? needle text = none) (place : Nat) :
    ¬needle <+: text.drop place := by
  induction text generalizing place with
  | nil =>
    rw [List.drop_nil]
    exact dropStart?_eq_none (Option.map_eq_none_iff.1 missing)
  | cons c text ih =>
    rw [cut?] at missing
    split at missing
    next => cases missing
    next other =>
      cases place with
      | zero => exact dropStart?_eq_none other
      | succ place => exact ih (Option.map_eq_none_iff.1 missing) place

theorem contains_eq_isSome (needle text : Text) :
    contains needle text = (position? needle text).isSome := by
  rw [contains, position?, Option.isSome_map]

theorem position?_spec {place : Nat} (found : position? needle text = some place) :
    place + needle.length ≤ text.length ∧ needle <+: text.drop place ∧
      ∀ earlier < place, ¬needle <+: text.drop earlier := by
  rw [position?, Option.map_eq_some_iff, Prod.exists] at found
  obtain ⟨before, after, cut, rfl⟩ := found
  have whole := eq_of_cut? cut
  refine ⟨by simp [whole], ⟨after, by simp [whole]⟩, fun earlier => not_prefix_of_cut? cut⟩

end Text

namespace Operation

open Double (Counts)

theorem sliceOf_comm (text : Text) (a b : Float) : sliceOf text a b = sliceOf text b a := by
  rw [sliceOf, sliceOf, Nat.max_comm, Nat.min_comm]

theorem sliceOf_eq {text : Text} {a b : Float} {start width : Nat} (first : Counts a start)
    (last : Counts b (start + width)) (inside : start + width ≤ text.length) :
    sliceOf text a b = (text.drop start).take width := by
  simp only [sliceOf, Double.clamp_of_counts first, Double.clamp_of_counts last]
  rw [Nat.min_eq_left inside, Nat.min_eq_left (by omega), Nat.max_eq_right (by omega),
    Nat.min_eq_left (by omega), List.drop_take, Nat.add_sub_cancel_left]

theorem sliceOf_eq_iff {text needle : Text} {a b : Float} {start : Nat} (first : Counts a start)
    (last : Counts b (start + needle.length)) (inside : start + needle.length ≤ text.length) :
    sliceOf text a b = needle ↔ needle <+: text.drop start := by
  rw [sliceOf_eq first last inside, List.prefix_iff_eq_take, eq_comm]

theorem sliceOf_append {text : Text} {start stop : Float} (first : Counts start 0)
    (last : Counts stop text.length) (cut : Float) :
    sliceOf text start cut ++ sliceOf text cut stop = text := by
  have bound := Double.clamp_le text.length cut
  simp only [sliceOf, Double.clamp_of_counts first, Double.clamp_of_counts last]
  simp [Nat.min_eq_left bound, Nat.max_eq_right bound]

end Operation

/-- A call that gives the value in every world and asks nothing of the world. -/
def Catalog.Gives (catalog : Catalog) (name : String) (arguments : List Value) (value : Value) :
    Prop :=
  catalog.invoke name arguments = .done value

namespace Catalog

open Double (Counts)

section

variable (text needle : String)

theorem gives_length : standard.Gives "lambai" [.text text] (.number (Float.ofNat text.length)) :=
  rfl

theorem gives_slice (a b : Float) : standard.Gives "tola" [.text text, .number a, .number b]
    (.text (String.ofList (Operation.sliceOf text.toList a b))) :=
  rfl

theorem gives_contains : standard.Gives "chhaina" [.text text, .text needle]
    (.boolean (Text.contains needle.toList text.toList)) :=
  rfl

theorem gives_position : standard.Gives "khoj" [.text text, .text needle]
    (.number (match Text.position? needle.toList text.toList with
      | some index => Float.ofNat index
      | none => -1.0)) :=
  rfl

end

/-- What the four functions on texts say about one another, given the lengths of a text and a
needle, the position of the needle and whether the text contains it. -/
structure Searches (text needle : String) (size width place : Float) (found : Bool) : Prop where
  measures : standard.Gives "lambai" [.text text] (.number size) ∧ Counts size text.length
  spans : standard.Gives "lambai" [.text needle] (.number width) ∧ Counts width needle.length
  locates : standard.Gives "khoj" [.text text, .text needle] (.number place)
  contains : standard.Gives "chhaina" [.text text, .text needle] (.boolean found)
  /-- Minus one stands for a needle that the text does not contain, and for nothing else. -/
  missing : place = -1.0 ↔ found = false
  /-- Then no slice inside the text is the needle. -/
  absent (index : Nat) (start : Float) : found = false → Counts start index →
    index + needle.length ≤ text.length →
      ¬standard.Gives "tola" [.text text, .number start, .number (start + width)] (.text needle)
  /-- Otherwise the position is a whole number from which on the needle fits into the text. The
  slice there is the needle, and no slice of that length that begins earlier is. -/
  present : found = true → ∃ index : Nat, Counts place index ∧
    index + needle.length ≤ text.length ∧
    standard.Gives "tola" [.text text, .number place, .number (place + width)] (.text needle) ∧
    ∀ (earlier : Nat) (start : Float), earlier < index → Counts start earlier →
      ¬standard.Gives "tola" [.text text, .number start, .number (start + width)] (.text needle)
  swapped (a b : Float) : standard.invoke "tola" [.text text, .number a, .number b] =
    standard.invoke "tola" [.text text, .number b, .number a]
  rejoined (cut : Float) : ∃ front back : String,
    standard.Gives "tola" [.text text, .number 0, .number cut] (.text front) ∧
    standard.Gives "tola" [.text text, .number cut, .number size] (.text back) ∧
    front ++ back = text

theorem slice_swapped (text : String) (a b : Float) :
    standard.invoke "tola" [.text text, .number a, .number b] =
      standard.invoke "tola" [.text text, .number b, .number a] := by
  have gives := gives_slice text b a
  rw [Operation.sliceOf_comm] at gives
  exact (gives_slice text a b).trans gives.symm

section

variable {text : String} (short : text.length < 2 ^ 53)

include short

theorem slice_rejoined (cut : Float) : ∃ front back : String,
    standard.Gives "tola" [.text text, .number 0, .number cut] (.text front) ∧
    standard.Gives "tola" [.text text, .number cut, .number (Float.ofNat text.length)]
      (.text back) ∧ front ++ back = text := by
  have zero : Counts 0 0 := Double.counts_ofNat (by decide)
  have size : Counts (Float.ofNat text.length) text.toList.length := by
    rw [String.length_toList]
    exact Double.counts_ofNat short
  refine ⟨_, _, gives_slice text 0 cut, gives_slice text cut _, ?_⟩
  rw [← String.ofList_append, Operation.sliceOf_append zero size, String.ofList_toList]

theorem gives_slice_iff {needle : String} {start width : Float} {index : Nat}
    (counts : Counts start index) (spans : Counts width needle.length)
    (inside : index + needle.length ≤ text.length) :
    standard.Gives "tola" [.text text, .number start, .number (start + width)] (.text needle) ↔
      needle.toList <+: text.toList.drop index := by
  have stop := Double.counts_add counts spans (Nat.lt_of_le_of_lt inside short)
  rw [← String.length_toList, ← String.length_toList] at inside
  rw [← String.length_toList] at stop
  rw [← Operation.sliceOf_eq_iff counts stop inside]
  constructor
  · intro gives
    injection gives.symm.trans (gives_slice text start (start + width)) with value
    injection value with same
    rw [same, String.toList_ofList]
  · intro same
    have gives := gives_slice text start (start + width)
    rwa [same, String.ofList_toList] at gives

end

end Catalog

/-- In every text of a length that is a double one finds every such needle where it is. -/
theorem search_agrees {text needle : String} (short : text.length < 2 ^ 53)
    (brief : needle.length < 2 ^ 53) :
    ∃ size width place found, Catalog.Searches text needle size width place found := by
  have size := Double.counts_ofNat short
  have width := Double.counts_ofNat brief
  have contains := Catalog.gives_contains text needle
  rw [Text.contains_eq_isSome] at contains
  have fits {index : Nat} (position : Text.position? needle.toList text.toList = some index) :
      index + needle.length ≤ text.length := by
    rw [← String.length_toList, ← String.length_toList]
    exact (Text.position?_spec position).1
  refine ⟨_, _, _, _, ⟨Catalog.gives_length text, size⟩, ⟨Catalog.gives_length needle, width⟩,
    Catalog.gives_position text needle, contains, ?_, fun index start missing counts inside => ?_,
    fun found => ?_, Catalog.slice_swapped text, Catalog.slice_rejoined short⟩
  · cases position : Text.position? needle.toList text.toList with
    | none => exact iff_of_true rfl rfl
    | some index =>
      have inside := fits position
      exact iff_of_false (Double.ofNat_ne_minus_one (by omega)) nofun
  · rw [Catalog.gives_slice_iff short counts width inside]
    have nowhere := Option.isNone_iff_eq_none.1 (Option.isSome_eq_false_iff.1 missing)
    exact Text.not_prefix_of_cut?_eq_none (Option.map_eq_none_iff.1 nowhere) index
  · obtain ⟨index, position⟩ := Option.isSome_iff_exists.1 found
    obtain ⟨-, here, earlier⟩ := Text.position?_spec position
    have inside := fits position
    have place : Double.Counts (Float.ofNat index) index := Double.counts_ofNat (by omega)
    simp only [position]
    refine ⟨index, place, inside, (Catalog.gives_slice_iff short place width inside).2 here, ?_⟩
    intro other start less counts
    rw [Catalog.gives_slice_iff short counts width (by omega)]
    exact earlier other less

theorem search_agrees_wide :
    let text := "éxé😀é😀"
    let needle := "é😀"
    Catalog.standard.Gives "khoj" [.text text, .text needle] (.number 2) ∧
      Catalog.standard.Gives "tola" [.text text, .number 2, .number 4] (.text needle) ∧
      ¬Catalog.standard.Gives "tola" [.text text, .number 0, .number 2] (.text needle) := by
  intro text needle
  obtain ⟨size, width, place, found, agrees⟩ :=
    search_agrees (show text.length < 2 ^ 53 by decide) (show needle.length < 2 ^ 53 by decide)
  have position : Text.position? needle.toList text.toList = some 2 := by decide +kernel
  have locates : Catalog.standard.Gives "khoj" [.text text, .text needle] (.number 2) := by
    have gives := Catalog.gives_position text needle
    rwa [position] at gives
  have contains : Catalog.standard.Gives "chhaina" [.text text, .text needle] (.boolean true) := by
    have gives := Catalog.gives_contains text needle
    rwa [Text.contains_eq_isSome, position] at gives
  have spans : Catalog.standard.Gives "lambai" [.text needle] (.number 2) := by
    have gives := Catalog.gives_length needle
    rwa [show needle.length = 2 by decide] at gives
  have sums : (2 : Float) + 2 = 4 ∧ (0 : Float) + 2 = 2 := by decide +kernel
  cases agrees.locates.symm.trans locates
  cases agrees.contains.symm.trans contains
  cases agrees.spans.1.symm.trans spans
  obtain ⟨index, counts, _, here, earlier⟩ := agrees.present rfl
  have two : Double.Counts 2 2 := Double.counts_ofNat (by decide)
  cases two.symm.trans counts
  have start := earlier 0 0 (by decide) (Double.counts_ofNat (by decide))
  rw [sums.1] at here
  rw [sums.2] at start
  exact ⟨locates, here, start⟩

end LineScript
