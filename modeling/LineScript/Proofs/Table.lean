import LineScript.Table
import Mathlib.Data.List.Forall2
import Mathlib.Data.List.Induction
import Mathlib.Data.List.Nodup

/-! What is in a table, and tables made of lists of pairs. A key that occurs in several pairs keeps
the place of the first and takes the value of the last. -/
namespace LineScript.Table

variable {α : Type}

theorem mem_of_get? {name : String} {value : α} {table : Table α}
    (found : table.get? name = some value) : (name, value) ∈ table := by
  induction table with
  | nil => cases found
  | cons entry rest ih =>
    obtain ⟨key, other⟩ := entry
    rw [get?] at found
    split at found
    next same =>
      cases found
      rw [same]
      exact List.mem_cons_self
    next => exact List.mem_cons_of_mem _ (ih found)

theorem mem_values_insert {name : String} {value new : α} {table : Table α}
    (member : value ∈ (table.insert name new).values) : value = new ∨ value ∈ table.values := by
  induction table with
  | nil => exact .inl (List.mem_singleton.1 member)
  | cons entry rest ih =>
    obtain ⟨key, other⟩ := entry
    rw [insert] at member
    split at member
    · rcases List.mem_cons.1 member with rfl | old
      · exact .inl rfl
      · exact .inr (List.mem_cons_of_mem _ old)
    · rcases List.mem_cons.1 member with rfl | later
      · exact .inr List.mem_cons_self
      · exact (ih later).imp_right (List.mem_cons_of_mem _)

theorem get?_eq_none {table : Table α} {key : String} (missing : key ∉ table.keys) :
    table.get? key = none := by
  cases found : table.get? key with
  | none => rfl
  | some value => exact absurd (List.mem_map_of_mem (mem_of_get? found)) missing

theorem get?_of_mem {table : Table α} (distinct : table.keys.Nodup) {entry : String × α}
    (member : entry ∈ table) : table.get? entry.1 = some entry.2 := by
  induction table with
  | nil => cases member
  | cons first rest ih =>
    obtain ⟨fresh, later⟩ := List.nodup_cons.1 distinct
    rcases List.mem_cons.1 member with rfl | inside
    · simp [get?]
    · have different : first.1 ≠ entry.1 := fun same =>
        fresh (same ▸ List.mem_map_of_mem inside)
      rw [get?, if_neg different]
      exact ih later inside

theorem mem_keys_iff {key : String} {table : Table α} :
    key ∈ table.keys ↔ ∃ value, (key, value) ∈ table := by
  simp [keys]

section Distinct

variable {table : Table α} (distinct : table.keys.Nodup)

include distinct

theorem get?_eq_some_iff {key : String} {value : α} :
    table.get? key = some value ↔ (key, value) ∈ table :=
  ⟨mem_of_get?, fun member => get?_of_mem distinct member⟩

theorem eq_of_mem {key : String} {value other : α} (member : (key, value) ∈ table)
    (again : (key, other) ∈ table) : value = other :=
  Option.some.inj ((get?_of_mem distinct member).symm.trans (get?_of_mem distinct again))

theorem get?_eq_of_perm {other : Table α} (permuted : table.Perm other) (key : String) :
    table.get? key = other.get? key := by
  have apart : other.keys.Nodup := (permuted.map Prod.fst).nodup distinct
  ext value
  rw [get?_eq_some_iff distinct, get?_eq_some_iff apart, permuted.mem_iff]

end Distinct

/-- The table of a list of pairs, entered from the first to the last. -/
def ofPairs (pairs : List (String × α)) : Table α :=
  pairs.foldl (fun table pair => table.insert pair.1 pair.2) []

/-- The last pair with a key has this value. -/
def Last (pairs : List (String × α)) (key : String) (value : α) : Prop :=
  ∃ before after, pairs = before ++ (key, value) :: after ∧ key ∉ after.map Prod.fst

theorem ofPairs_concat (pairs : List (String × α)) (key : String) (value : α) :
    ofPairs (pairs ++ [(key, value)]) = (ofPairs pairs).insert key value := by
  simp [ofPairs]

theorem keys_insert (name : String) (value : α) (table : Table α) :
    (table.insert name value).keys =
      if name ∈ table.keys then table.keys else table.keys ++ [name] := by
  induction table with
  | nil => rfl
  | cons entry rest ih =>
    obtain ⟨key, old⟩ := entry
    by_cases same : key = name
    · simp [insert, same, keys]
    · by_cases later : name ∈ rest.map Prod.fst <;>
        simp_all [insert, keys, Ne.symm same]

theorem keys_ofPairs (pairs : List (String × α)) :
    (ofPairs pairs).keys = (pairs.map Prod.fst).eraseDups := by
  induction pairs using List.reverseRecOn with
  | nil => rfl
  | append_singleton pairs pair ih =>
    obtain ⟨key, value⟩ := pair
    rw [ofPairs_concat, keys_insert, ih, List.map_append, List.eraseDups_append]
    by_cases old : key ∈ pairs.map Prod.fst
    · rw [if_pos (List.mem_eraseDups.2 old)]
      simp [List.removeAll, old]
    · rw [if_neg (mt List.mem_eraseDups.1 old)]
      simp [List.removeAll, old, List.eraseDups_cons]

theorem nodup_keys_insert {table : Table α} (distinct : table.keys.Nodup) (name : String)
    (value : α) : (table.insert name value).keys.Nodup := by
  rw [keys_insert]
  split
  next => exact distinct
  next new => exact List.concat_eq_append ▸ (List.nodup_concat _ name).2 ⟨new, distinct⟩

theorem nodup_keys_ofPairs (pairs : List (String × α)) : (ofPairs pairs).keys.Nodup := by
  induction pairs using List.reverseRecOn with
  | nil => exact List.nodup_nil
  | append_singleton pairs pair ih =>
    rw [ofPairs_concat]
    exact nodup_keys_insert ih pair.1 pair.2

theorem last_concat {pairs : List (String × α)} {key other : String} {new value : α} :
    Last (pairs ++ [(key, new)]) other value ↔
      if key = other then new = value else Last pairs other value := by
  constructor
  · rintro ⟨before, after, whole, absent⟩
    rcases List.eq_nil_or_concat' after with rfl | ⟨after, final, rfl⟩
    · obtain ⟨-, same⟩ := List.append_inj' whole rfl
      cases same
      exact (if_pos rfl).symm ▸ rfl
    · rw [← List.cons_append, ← List.append_assoc] at whole
      obtain ⟨rfl, same⟩ := List.append_inj' whole rfl
      cases same
      simp only [List.map_append, List.mem_append, not_or] at absent
      have different : key ≠ other := fun same => absent.2 (by simp [same])
      exact (if_neg different).symm ▸ ⟨before, after, rfl, absent.1⟩
  · split
    next same =>
      rintro rfl
      exact ⟨pairs, [], by rw [same], by simp⟩
    next different =>
      rintro ⟨before, after, rfl, absent⟩
      refine ⟨before, after ++ [(key, new)], by simp, ?_⟩
      simpa [Ne.symm different] using absent

theorem get?_ofPairs {pairs : List (String × α)} {key : String} {value : α} :
    (ofPairs pairs).get? key = some value ↔ Last pairs key value := by
  induction pairs using List.reverseRecOn with
  | nil => simp [ofPairs, get?, Last]
  | append_singleton pairs pair ih =>
    obtain ⟨other, new⟩ := pair
    rw [ofPairs_concat, get?_insert, last_concat]
    split
    next => exact Option.some_inj
    next => exact ih

theorem forall₂_last (pairs : List (String × α)) :
    List.Forall₂ (Last pairs) (ofPairs pairs).keys (ofPairs pairs).values := by
  rw [keys, values, List.forall₂_map_left_iff, List.forall₂_map_right_iff, List.forall₂_same]
  intro entry member
  exact get?_ofPairs.1 (get?_of_mem (nodup_keys_ofPairs pairs) member)

end LineScript.Table
