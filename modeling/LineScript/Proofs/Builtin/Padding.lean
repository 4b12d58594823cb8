import LineScript.Proofs.Builtin.Search
import LineScript.Proofs.Decimal.Exact

/-! Padding. A text is brought up to a length by repeating another text and cutting it off, on the
right or on the left; the same characters are filled in on both sides. -/
namespace LineScript

namespace Operation

theorem exists_fill_succ {pad : Array Char} (solid : 0 < pad.size) (count : Nat) :
    ∃ c, pad[count % pad.size]? = some c ∧ fill pad (count + 1) = (fill pad count).push c := by
  have next := Array.getElem?_eq_getElem (Nat.mod_lt count solid)
  refine ⟨_, next, ?_⟩
  rw [fill, Nat.fold_succ, ← fill, next, Option.elim_some]

theorem length_fill {pad : Array Char} (solid : 0 < pad.size) (count : Nat) :
    (fill pad count).length = count := by
  induction count with
  | zero => rfl
  | succ count ih =>
    obtain ⟨c, -, step⟩ := exists_fill_succ solid count
    rw [step, String.length_push, ih]

theorem getElem?_fill {pad : Array Char} (solid : 0 < pad.size) {index count : Nat}
    (less : index < count) : (fill pad count).toList[index]? = pad[index % pad.size]? := by
  induction count with
  | zero => cases less
  | succ count ih =>
    obtain ⟨c, next, step⟩ := exists_fill_succ solid count
    have size : (fill pad count).toList.length = count := by
      rw [String.length_toList, length_fill solid]
    rw [step, String.toList_push]
    rcases Nat.lt_succ_iff_lt_or_eq.1 less with earlier | rfl
    · rw [List.getElem?_append_left (size.symm ▸ earlier), ih earlier]
    · rw [List.getElem?_append_right size.le, size, Nat.sub_self, next]
      rfl

theorem fillFor_empty (text : String) (target : Float) : fillFor text target "" = "" :=
  if_pos rfl

theorem size_pos {pad : String} (solid : pad ≠ "") : 0 < pad.toList.toArray.size := by
  simpa [Nat.pos_iff_ne_zero] using solid

section

variable {text pad : String} {target : Float} (inside : ¬Float.ofNat maxPaddedLength < target)

include inside

theorem fillFor_eq_fill (solid : pad ≠ "") : fillFor text target pad =
    fill pad.toList.toArray (Double.truncated target - text.length) := by
  rw [fillFor, if_neg solid, Double.clamp_eq_truncated (by decide) inside]

theorem length_fillFor (solid : pad ≠ "") :
    (fillFor text target pad).length = Double.truncated target - text.length := by
  rw [fillFor_eq_fill inside solid, length_fill (size_pos solid)]

theorem getElem?_fillFor {index : Nat} (bound : index < (fillFor text target pad).length) :
    (fillFor text target pad).toList[index]? = pad.toList[index % pad.length]? := by
  have solid : pad ≠ "" := by
    rintro rfl
    rw [fillFor_empty] at bound
    cases bound
  rw [length_fillFor inside solid] at bound
  rw [fillFor_eq_fill inside solid, getElem?_fill (size_pos solid) bound, List.getElem?_toArray,
    List.size_toArray, String.length_toList]

theorem fillFor_eq_empty (long : pad ≠ "" → Double.truncated target ≤ text.length) :
    fillFor text target pad = "" := by
  by_cases blank : pad = ""
  · rw [blank, fillFor_empty]
  · rw [← String.length_eq_zero_iff, length_fillFor inside blank]
    exact Nat.sub_eq_zero_of_le (long blank)

end

end Operation

/-- A call that fails in every world before it asks for anything. -/
def Catalog.Refuses (catalog : Catalog) (name : String) (arguments : List Value)
    (code : ErrorCode) : Prop :=
  ∃ fault, catalog.invoke name arguments = .fail fault ∧ fault.code = code

namespace Catalog

structure Pads (text pad : String) (target : Float) (fill : String) : Prop where
  right : standard.Gives "padDaya" [.text text, .number target, .text pad] (.text (text ++ fill))
  left : standard.Gives "padBaya" [.text text, .number target, .text pad] (.text (fill ++ text))
  empty : pad = "" → fill = ""
  size : pad ≠ "" → fill.length = Double.truncated target - text.length
  /-- The pad begins anew each time that it ends. -/
  cycle : ∀ index < fill.length, fill.toList[index]? = pad.toList[index % pad.length]?
  /-- The length that the language itself gives for the results. -/
  measured : pad ≠ "" → ∀ padded ∈ [text ++ fill, fill ++ text],
    standard.Gives "lambai" [.text padded]
      (.number (Float.ofNat (max text.length (Double.truncated target))))
  again : ∀ padded ∈ [text ++ fill, fill ++ text],
    standard.Gives "padDaya" [.text padded, .number target, .text pad] (.text padded) ∧
      standard.Gives "padBaya" [.text padded, .number target, .text pad] (.text padded)

section

variable (text pad : String) {target : Float}

theorem refuses_padding (large : Float.ofNat maxPaddedLength < target) :
    standard.Refuses "padDaya" [.text text, .number target, .text pad] .outOfRange ∧
      standard.Refuses "padBaya" [.text text, .number target, .text pad] .outOfRange := by
  have fails (side : Operation) : side.padding (.text text) (.number target) (.text pad) =
      .error (.outOfRange (.padding side target)) := by
    rw [Operation.padding]
    exact if_pos large
  refine ⟨⟨.outOfRange (.padding .padRight target), ?_, rfl⟩,
    .outOfRange (.padding .padLeft target), ?_, rfl⟩
  · change Action.ofExcept (Operation.padTextRight _ _ _) = _
    rw [Operation.padTextRight, fails]
    rfl
  · change Action.ofExcept (Operation.padTextLeft _ _ _) = _
    rw [Operation.padTextLeft, fails]
    rfl

variable (inside : ¬Float.ofNat maxPaddedLength < target)

include inside

theorem gives_padded :
    standard.Gives "padDaya" [.text text, .number target, .text pad]
        (.text (text ++ Operation.fillFor text target pad)) ∧
      standard.Gives "padBaya" [.text text, .number target, .text pad]
        (.text (Operation.fillFor text target pad ++ text)) := by
  have succeeds (side : Operation) : side.padding (.text text) (.number target) (.text pad) =
      .ok (text, Operation.fillFor text target pad) := by
    rw [Operation.padding]
    exact if_neg inside
  constructor
  · change Action.ofExcept (Operation.padTextRight _ _ _) = _
    rw [Operation.padTextRight, succeeds]
    rfl
  · change Action.ofExcept (Operation.padTextLeft _ _ _) = _
    rw [Operation.padTextLeft, succeeds]
    rfl

theorem pads : Pads text pad target (Operation.fillFor text target pad) := by
  have size (solid : pad ≠ "") :
      (Operation.fillFor text target pad).length = Double.truncated target - text.length :=
    Operation.length_fillFor inside solid
  have long (solid : pad ≠ "") : ∀ padded ∈ [text ++ Operation.fillFor text target pad,
      Operation.fillFor text target pad ++ text],
        padded.length = max text.length (Double.truncated target) := by
    have filled := size solid
    simp
    omega
  refine ⟨(gives_padded text pad inside).1, (gives_padded text pad inside).2, ?_, size,
    fun index bound => Operation.getElem?_fillFor inside bound, fun solid padded member => ?_,
    fun padded member => ?_⟩
  · rintro rfl
    exact Operation.fillFor_empty text target
  · rw [← long solid padded member]
    exact gives_length padded
  · have unpadded : Operation.fillFor padded target pad = "" :=
      Operation.fillFor_eq_empty inside fun solid => by
        rw [long solid padded member]
        exact Nat.le_max_right _ _
    have gives := gives_padded padded pad inside
    simpa [unpadded] using gives

end

end Catalog

/-- Targets above the greatest length are refused; every other target is met exactly. -/
theorem padding_exact (text pad : String) (target : Float) :
    if 16777216 < target then
      Catalog.standard.Refuses "padDaya" [.text text, .number target, .text pad] .outOfRange ∧
        Catalog.standard.Refuses "padBaya" [.text text, .number target, .text pad] .outOfRange
    else ∃ fill, Catalog.Pads text pad target fill := by
  split
  next large => exact Catalog.refuses_padding text pad large
  next inside => exact ⟨_, Catalog.pads text pad inside⟩

end LineScript
