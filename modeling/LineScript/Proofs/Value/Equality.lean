import LineScript.Proofs.Decimal.Exact
import LineScript.Proofs.Value.Acyclic
import LineScript.Proofs.Value.Keyed

/-! Equality of structure. The keys of an object are distinct, so that two objects are equal
exactly if they have the same keys and equal values under each of them. From this form, in which
the order of the entries does not occur, equality is symmetric and transitive and does not see how
entries are ordered; it is reflexive on the trees that have no NaN in them. Values on a heap are
equal if their trees are. -/
namespace LineScript

open Relation (ReflTransGen TransGen)

namespace Tree

def kind : Tree → Kind
  | number _ => .number
  | text _ => .text
  | boolean _ => .boolean
  | array _ => .array
  | object _ => .object
  | undefined => .undefined

inductive WellFormed (sound : Float → Prop) : Tree → Prop where
  | number {x : Float} : sound x → WellFormed sound (number x)
  | text (s : String) : WellFormed sound (text s)
  | boolean (b : Bool) : WellFormed sound (boolean b)
  | array {items : List Tree} : (∀ item ∈ items, WellFormed sound item) →
      WellFormed sound (array items)
  | object {entries : List (String × Tree)} : (Table.keys entries).Nodup →
      (∀ entry ∈ entries, WellFormed sound entry.2) → WellFormed sound (object entries)
  | undefined : WellFormed sound undefined

theorem kind_eq_of_equals {tree other : Tree} (same : tree.equals other = true) :
    tree.kind = other.kind := by
  cases tree <;> cases other <;> first | rfl | simp [equals] at same

theorem entriesWithin_iff {entries others : List (String × Tree)} :
    entriesWithin others entries = true ↔ ∀ entry ∈ entries, ∃ other,
      Table.get? entry.1 others = some other ∧ entry.2.equals other = true := by
  induction entries with
  | nil => simp [entriesWithin]
  | cons entry rest ih =>
    obtain ⟨key, value⟩ := entry
    rw [entriesWithin, Bool.and_eq_true, ih, List.forall_mem_cons]
    refine and_congr_left fun _ => ?_
    cases Table.get? key others <;> simp

theorem equals_object_iff {entries others : List (String × Tree)}
    (distinct : (Table.keys entries).Nodup) (apart : (Table.keys others).Nodup) :
    (object entries).equals (object others) = true ↔
      (Table.keys entries).Perm (Table.keys others) ∧ ∀ key value other,
        (key, value) ∈ entries → (key, other) ∈ others → value.equals other = true := by
  rw [equals, Bool.and_eq_true, beq_iff_eq, entriesWithin_iff]
  constructor
  · rintro ⟨size, within⟩
    have inside : Table.keys entries ⊆ Table.keys others := by
      intro key member
      obtain ⟨value, listed⟩ := Table.mem_keys_iff.1 member
      obtain ⟨other, found, -⟩ := within _ listed
      exact Table.mem_keys_iff.2 ⟨other, Table.mem_of_get? found⟩
    refine ⟨(distinct.subperm inside).perm_of_length_le ?_, ?_⟩
    · simp [Table.keys, size]
    · intro key value other listed facing
      obtain ⟨third, found, same⟩ := within _ listed
      rwa [Table.eq_of_mem apart facing (Table.mem_of_get? found)]
  · rintro ⟨permuted, each⟩
    refine ⟨by simpa [Table.keys] using permuted.length_eq, fun entry listed => ?_⟩
    have member := permuted.mem_iff.1 (Table.mem_keys_iff.2 ⟨entry.2, listed⟩)
    obtain ⟨other, facing⟩ := Table.mem_keys_iff.1 member
    exact ⟨other, Table.get?_of_mem apart facing, each entry.1 entry.2 other listed facing⟩

section Equivalence

variable {sound : Float → Prop}

theorem equalItems_refl {items : List Tree} (each : ∀ item ∈ items, item.equals item = true) :
    equalItems items items = true := by
  induction items with
  | nil => rw [equalItems]
  | cons item rest ih =>
    rw [List.forall_mem_cons] at each
    rw [equalItems, each.1, ih each.2, Bool.and_self]

theorem WellFormed.equals_refl {tree : Tree}
    (whole : tree.WellFormed fun x => x.isNaN = false) : tree.equals tree = true := by
  induction whole with
  | number sound => rw [equals, Double.beq_self sound]
  | text s | boolean b => rw [equals, beq_self_eq_true]
  | array _ ih => rw [equals, equalItems_refl ih]
  | @object entries distinct _ ih =>
    refine (equals_object_iff distinct distinct).2 ⟨.refl _, fun key value other listed again => ?_⟩
    rw [← Table.eq_of_mem distinct listed again]
    exact ih _ listed
  | undefined => rw [equals]

theorem equalItems_symm {items others : List Tree} (well : ∀ other ∈ others, other.WellFormed sound)
    (each : ∀ item ∈ items, ∀ other, WellFormed sound other → item.equals other = true →
      other.equals item = true) (same : equalItems items others = true) :
    equalItems others items = true := by
  induction items generalizing others with
  | nil =>
    cases others with
    | nil => exact same
    | cons => simp [equalItems] at same
  | cons item rest ih =>
    cases others with
    | nil => simp [equalItems] at same
    | cons other others =>
      rw [List.forall_mem_cons] at well each
      rw [equalItems, Bool.and_eq_true] at same ⊢
      exact ⟨each.1 other well.1 same.1, ih well.2 each.2 same.2⟩

theorem WellFormed.equals_symm {tree other : Tree} (whole : tree.WellFormed sound)
    (well : other.WellFormed sound) (same : tree.equals other = true) :
    other.equals tree = true := by
  induction whole generalizing other with
  | number =>
    cases well <;> cases kind_eq_of_equals same
    rw [equals] at same ⊢
    exact Double.beq_symm same
  | text | boolean =>
    cases well <;> cases kind_eq_of_equals same
    rw [equals, beq_iff_eq] at same ⊢
    exact same.symm
  | array _ ih =>
    cases well <;> cases kind_eq_of_equals same
    next each =>
      rw [equals] at same ⊢
      exact equalItems_symm each (fun item member other => ih item member) same
  | object distinct _ ih =>
    cases well <;> cases kind_eq_of_equals same
    next apart each =>
      rw [equals_object_iff distinct apart] at same
      refine (equals_object_iff apart distinct).2 ⟨same.1.symm, ?_⟩
      intro key other value facing listed
      exact ih _ listed (each _ facing) (same.2 key value other listed facing)
  | undefined =>
    cases well <;> cases kind_eq_of_equals same
    exact same

theorem equalItems_trans {items others thirds : List Tree}
    (well : ∀ other ∈ others, other.WellFormed sound)
    (last : ∀ third ∈ thirds, third.WellFormed sound)
    (each : ∀ item ∈ items, ∀ other third, WellFormed sound other → WellFormed sound third →
      item.equals other = true → other.equals third = true → item.equals third = true)
    (first : equalItems items others = true) (second : equalItems others thirds = true) :
    equalItems items thirds = true := by
  induction items generalizing others thirds with
  | nil =>
    cases others with
    | nil => exact second
    | cons => simp [equalItems] at first
  | cons item rest ih =>
    cases others with
    | nil => simp [equalItems] at first
    | cons other others =>
      cases thirds with
      | nil => simp [equalItems] at second
      | cons third thirds =>
        rw [List.forall_mem_cons] at well last each
        rw [equalItems, Bool.and_eq_true] at first second ⊢
        exact ⟨each.1 other third well.1 last.1 first.1 second.1,
          ih well.2 last.2 each.2 first.2 second.2⟩

theorem WellFormed.equals_trans {tree other third : Tree} (whole : tree.WellFormed sound)
    (well : other.WellFormed sound) (last : third.WellFormed sound)
    (first : tree.equals other = true) (second : other.equals third = true) :
    tree.equals third = true := by
  induction whole generalizing other third with
  | number =>
    cases well <;> cases kind_eq_of_equals first
    cases last <;> cases kind_eq_of_equals second
    rw [equals] at first second ⊢
    exact Double.beq_trans first second
  | text | boolean =>
    cases well <;> cases kind_eq_of_equals first
    cases last <;> cases kind_eq_of_equals second
    rw [equals, beq_iff_eq] at first second ⊢
    exact first.trans second
  | array _ ih =>
    cases well <;> cases kind_eq_of_equals first
    next each =>
      cases last <;> cases kind_eq_of_equals second
      next all =>
        rw [equals] at first second ⊢
        exact equalItems_trans each all (fun item member other third => ih item member) first second
  | object distinct _ ih =>
    cases well <;> cases kind_eq_of_equals first
    next apart each =>
      cases last <;> cases kind_eq_of_equals second
      next single all =>
        rw [equals_object_iff distinct apart] at first
        rw [equals_object_iff apart single] at second
        refine (equals_object_iff distinct single).2 ⟨first.1.trans second.1, ?_⟩
        intro key value third listed beyond
        have member := first.1.mem_iff.1 (Table.mem_keys_iff.2 ⟨value, listed⟩)
        obtain ⟨other, facing⟩ := Table.mem_keys_iff.1 member
        exact ih _ listed (each _ facing) (all _ beyond)
          (first.2 key value other listed facing) (second.2 key other third facing beyond)
  | undefined =>
    cases well <;> cases kind_eq_of_equals first
    exact second

end Equivalence

section Order

def Indistinct (tree other : Tree) : Prop :=
  ∀ third, tree.equals third = other.equals third ∧ third.equals tree = third.equals other

theorem Indistinct.refl (tree : Tree) : tree.Indistinct tree := fun _ => ⟨rfl, rfl⟩

theorem equalItems_congr {items others : List Tree} (each : List.Forall₂ Indistinct items others)
    (thirds : List Tree) : equalItems items thirds = equalItems others thirds ∧
      equalItems thirds items = equalItems thirds others := by
  induction each generalizing thirds with
  | nil => exact ⟨rfl, rfl⟩
  | cons first _ ih =>
    cases thirds with
    | nil => simp [equalItems]
    | cons third thirds =>
      simp only [equalItems, (first third).1, (first third).2, (ih thirds).1, (ih thirds).2,
        and_self]

theorem Indistinct.array {items others : List Tree}
    (each : List.Forall₂ Indistinct items others) : (array items).Indistinct (array others) := by
  intro third
  cases third with
  | array thirds =>
    simp only [equals]
    exact equalItems_congr each thirds
  | _ => simp [equals]

def Matching : List (String × Tree) → List (String × Tree) → Prop :=
  List.Forall₂ fun entry other => entry.1 = other.1 ∧ entry.2.Indistinct other.2

theorem entriesWithin_of_perm {entries others : List (String × Tree)}
    (permuted : entries.Perm others) (table : List (String × Tree)) :
    entriesWithin table entries = entriesWithin table others := by
  rw [Bool.eq_iff_iff, entriesWithin_iff, entriesWithin_iff]
  simp only [permuted.mem_iff]

theorem Matching.entriesWithin {entries others : List (String × Tree)}
    (matching : Matching entries others) (table : List (String × Tree)) :
    entriesWithin table entries = entriesWithin table others := by
  induction matching with
  | nil => rfl
  | @cons entry other _ _ first _ ih =>
    obtain ⟨key, value⟩ := entry
    obtain ⟨_, facing⟩ := other
    obtain ⟨rfl, same⟩ := first
    simp only [Tree.entriesWithin, ih, (same _).1]

theorem Matching.get? {entries others : List (String × Tree)} (matching : Matching entries others)
    (key : String) :
    Option.Rel Indistinct (Table.get? key entries) (Table.get? key others) := by
  induction matching with
  | nil => exact .none
  | @cons entry other _ _ first _ ih =>
    obtain ⟨_, value⟩ := entry
    obtain ⟨_, facing⟩ := other
    obtain ⟨rfl, same⟩ := first
    simp only [Table.get?]
    split
    next => exact .some same
    next => exact ih

theorem entriesWithin_congr {table other : List (String × Tree)}
    (each : ∀ key, Option.Rel Indistinct (Table.get? key table) (Table.get? key other))
    (entries : List (String × Tree)) :
    entriesWithin table entries = entriesWithin other entries := by
  induction entries with
  | nil => rfl
  | cons entry rest ih =>
    obtain ⟨key, value⟩ := entry
    simp only [entriesWithin, ih]
    have here := each key
    generalize Table.get? key table = found, Table.get? key other = facing at here ⊢
    cases here with
    | none => rfl
    | some same => simp only [(same value).2]

/-- Entries are compared by their keys, so that their order cannot be seen. -/
theorem Indistinct.object {entries middle others : List (String × Tree)}
    (distinct : (Table.keys entries).Nodup) (permuted : entries.Perm middle)
    (matching : Matching middle others) : (object entries).Indistinct (object others) := by
  intro third
  cases third with
  | object table =>
    have size : entries.length = others.length := permuted.length_eq.trans matching.length_eq
    have table_eq (key : String) :
        Option.Rel Indistinct (Table.get? key entries) (Table.get? key others) := by
      rw [Table.get?_eq_of_perm distinct permuted]
      exact matching.get? key
    simp only [equals, size, entriesWithin_of_perm permuted, matching.entriesWithin,
      entriesWithin_congr table_eq, and_self]
  | _ => simp [equals]

/-- The entries of any objects in the tree are permuted. -/
inductive Rearranged : Tree → Tree → Prop where
  | number (x : Float) : Rearranged (number x) (number x)
  | text (s : String) : Rearranged (text s) (text s)
  | boolean (b : Bool) : Rearranged (boolean b) (boolean b)
  | array {items others : List Tree} : items.length = others.length →
      (∀ pair ∈ items.zip others, Rearranged pair.1 pair.2) →
        Rearranged (array items) (array others)
  | object {entries middle others : List (String × Tree)} : entries.Perm middle →
      Table.keys middle = Table.keys others →
        (∀ pair ∈ middle.zip others, Rearranged pair.1.2 pair.2.2) →
          Rearranged (object entries) (object others)
  | undefined : Rearranged undefined undefined

theorem Rearranged.indistinct {sound : Float → Prop} {tree other : Tree}
    (rearranged : tree.Rearranged other) (whole : tree.WellFormed sound) :
    tree.Indistinct other := by
  induction rearranged with
  | number | text | boolean | undefined => exact .refl _
  | array size _ ih =>
    cases whole with
    | array each =>
      refine .array (List.forall₂_iff_zip.2 ⟨size, fun {item other} pair => ?_⟩)
      exact ih (item, other) pair (each item (List.of_mem_zip pair).1)
  | object permuted same _ ih =>
    cases whole with
    | object distinct each =>
      rw [Table.keys, Table.keys, ← List.forall₂_eq_eq_eq, List.forall₂_map_left_iff,
        List.forall₂_map_right_iff, List.forall₂_iff_zip] at same
      refine .object distinct permuted (List.forall₂_iff_zip.2 ⟨same.1, ?_⟩)
      intro entry other pair
      have member := permuted.mem_iff.2 (List.of_mem_zip pair).1
      exact ⟨same.2 pair, ih (entry, other) pair (each entry member)⟩

end Order

end Tree

namespace Heap

variable {heap : Heap}

theorem Keyed.wellFormed_unfold (keyed : heap.Keyed) {sound : Float → Prop} {value : Value}
    (numbers : ∀ x, ReflTransGen heap.Holds value (.number x) → sound x) (depth : Nat) :
    (heap.unfold depth value).WellFormed sound := by
  induction depth generalizing value with
  | zero =>
    cases value <;> rw [unfold]
    case number x => exact .number (numbers x .refl)
    all_goals constructor
  | succ depth ih =>
    cases value <;> rw [unfold]
    case number x => exact .number (numbers x .refl)
    case array cell =>
      refine .array (List.forall_mem_map.2 fun item member => ih fun x path => ?_)
      exact numbers x (path.head (holds_of_mem_items member))
    case object cell =>
      refine .object ?_ (List.forall_mem_map.2 fun entry member => ih fun x path => ?_)
      · simpa [Table.keys, Function.comp_def] using keyed.nodup_entries cell
      · exact numbers x (path.head (holds_of_mem_entries member))
    all_goals constructor

theorem kind_tree {value : Value} (has : heap.Has value) :
    (heap.tree value).kind = value.kind := by
  cases value with
  | array cell | object cell =>
    rw [Has] at has
    obtain ⟨size, bound⟩ : ∃ size, heap.size = size + 1 := ⟨heap.size - 1, by rw [Heap.size]; omega⟩
    rw [tree, bound, unfold]
    rfl
  | _ =>
    rw [tree, unfold]
    rfl

theorem equals_of_isPlain {a b : Value} (first : a.IsPlain) (second : b.IsPlain) :
    heap.equals a b = a.sameAs b := by
  cases a <;> cases first <;> cases b <;> cases second <;>
    simp [equals, tree, unfold, Tree.equals, Value.sameAs]

/-- The entries of objects stand in another order, and nothing else is different. -/
structure Reorders (heap other : Heap) : Prop where
  arrays : other.arrays = heap.arrays
  count : other.objects.length = heap.objects.length
  entries (cell : Nat) : (heap.entries cell).Perm (other.entries cell)

theorem Reorders.rearranged {other : Heap} (reorders : heap.Reorders other) (depth : Nat)
    (value : Value) : (heap.unfold depth value).Rearranged (other.unfold depth value) := by
  induction depth generalizing value with
  | zero => cases value <;> rw [unfold, unfold] <;> constructor
  | succ depth ih =>
    cases value <;> rw [unfold, unfold]
    case array cell =>
      rw [items, items, reorders.arrays]
      refine .array (by simp) ?_
      rw [List.zip_map']
      exact List.forall_mem_map.2 fun item _ => ih item
    case object cell =>
      refine .object ((reorders.entries cell).map _) ?_ ?_
      · simp [Table.keys, Function.comp_def]
      · rw [List.zip_map']
        exact List.forall_mem_map.2 fun entry _ => ih entry.2
    all_goals constructor

theorem Reorders.size_eq {other : Heap} (reorders : heap.Reorders other) :
    other.size = heap.size := by
  rw [size, size, reorders.arrays, reorders.count]

/-- A value that is there, from which no circle is reached and no NaN. -/
structure Regular (heap : Heap) (value : Value) : Prop where
  present : heap.Has value
  acyclic : heap.AcyclicFrom value
  numeric (x : Float) : ReflTransGen heap.Holds value (.number x) → x.isNaN = false

theorem Regular.wellFormed_tree {value : Value} (regular : heap.Regular value)
    (keyed : heap.Keyed) : (heap.tree value).WellFormed fun x => x.isNaN = false :=
  keyed.wellFormed_unfold regular.numeric heap.size

structure EqualityCoherent (heap : Heap) : Prop where
  /-- Regular values are compared as a whole. -/
  whole {a : Value} : heap.Regular a → heap.Unfolds a
  refl {a : Value} : heap.Regular a → heap.equals a a = true
  symm {a b : Value} : heap.Regular a → heap.Regular b → heap.equals a b = true →
    heap.equals b a = true
  trans {a b c : Value} : heap.Regular a → heap.Regular b → heap.Regular c →
    heap.equals a b = true → heap.equals b c = true → heap.equals a c = true
  /-- What is the same is equal. -/
  of_sameAs {a b : Value} : heap.Regular a → heap.Regular b → a.sameAs b = true →
    heap.equals a b = true
  /-- The order of entries does not count, when they are permuted where they are, -/
  reordered {other : Heap} : heap.Reorders other → ∀ a b, other.equals a b = heap.equals a b
  /-- and when one of two values is replaced with a rearranged copy. -/
  rearranged {a copy : Value} : (heap.tree a).Rearranged (heap.tree copy) → ∀ b,
    heap.equals copy b = heap.equals a b ∧ heap.equals b copy = heap.equals b a
  kinds {a b : Value} : heap.Has a → heap.Has b → a.kind ≠ b.kind → heap.equals a b = false
  plain {a b : Value} : a.IsPlain → b.IsPlain → heap.equals a b = a.sameAs b

theorem equals_of_sameAs {a b : Value} (reflexive : heap.equals a a = true)
    (same : a.sameAs b = true) : heap.equals a b = true := by
  by_cases plain : a.IsPlain ∧ b.IsPlain
  · rwa [equals_of_isPlain plain.1 plain.2]
  · obtain rfl : a = b := by
      cases a <;> cases b <;> simp_all [Value.sameAs, Value.IsPlain]
    exact reflexive

theorem Valid.equalityCoherent (valid : heap.Valid) : heap.EqualityCoherent where
  whole regular := regular.acyclic.unfolds valid.closed regular.present
  refl regular := (regular.wellFormed_tree valid.keyed).equals_refl
  symm first second same := (first.wellFormed_tree valid.keyed).equals_symm
    (second.wellFormed_tree valid.keyed) same
  trans first second third := (first.wellFormed_tree valid.keyed).equals_trans
    (second.wellFormed_tree valid.keyed) (third.wellFormed_tree valid.keyed)
  of_sameAs regular _ same :=
    equals_of_sameAs (regular.wellFormed_tree valid.keyed).equals_refl same
  reordered {other} reorders a b := by
    have anything (value : Value) : (heap.tree value).WellFormed fun _ => True :=
      valid.keyed.wellFormed_unfold (fun _ _ => trivial) heap.size
    rw [equals, equals, tree, tree, reorders.size_eq]
    have left := (reorders.rearranged heap.size a).indistinct (anything a)
    have right := (reorders.rearranged heap.size b).indistinct (anything b)
    rw [← (left _).1, ← (right _).2]
    rfl
  rearranged {a copy} rearranged b := by
    have anything : (heap.tree a).WellFormed fun _ => True :=
      valid.keyed.wellFormed_unfold (fun _ _ => trivial) heap.size
    obtain ⟨left, right⟩ := rearranged.indistinct anything (heap.tree b)
    exact ⟨left.symm, right.symm⟩
  kinds {a b} first second different := by
    rw [← kind_tree first, ← kind_tree second] at different
    exact Bool.eq_false_iff.2 fun same => different (Tree.kind_eq_of_equals same)
  plain := equals_of_isPlain

def twinHeap : Heap where
  arrays := [[.number 1, .text "x"]]
  objects := [[("a", .array 0), ("b", .array 0)], [("b", .array 0), ("a", .array 0)]]

theorem valid_twinHeap : twinHeap.Valid :=
  @Interpreter.valid_session _ (Interpreter.inMemory .standard 256) Catalog.plain_standard
    [.execute "rakha(\"xs\", [1, \"x\"])".toList,
      .execute "rakha(\"first\", \x7b\"a\": xs, \"b\": xs\x7d)".toList,
      .execute "rakha(\"second\", \x7b\"b\": xs, \"a\": xs\x7d)".toList] {}

theorem equalityCoherent_twin : twinHeap.Valid ∧ twinHeap.Regular (.object 0) ∧
    twinHeap.equals (.object 1) (.object 0) = true ∧
      (Value.object 1).sameAs (.object 0) = false := by
  have shared : twinHeap.Shows {} (.array 0) (.array [.number 1, .text "x"]) :=
    .array (Nat.zero_le 0) rfl (.cons (.number 1) (.cons (.text "x") .nil))
  have shows : twinHeap.Shows {} (.object 0)
      (.object [("a", .array [.number 1, .text "x"]), ("b", .array [.number 1, .text "x"])]) :=
    .object (Nat.zero_le 0) rfl (.cons shared (.cons shared .nil))
  have copies : twinHeap.Shows {} (.object 1)
      (.object [("b", .array [.number 1, .text "x"]), ("a", .array [.number 1, .text "x"])]) :=
    .object (Nat.zero_le 1) rfl (.cons shared (.cons shared .nil))
  have regular : twinHeap.Regular (.object 0) := by
    refine ⟨Nat.two_pos, shows.acyclicFrom, fun x path => ?_⟩
    obtain same | ⟨holder, _, holds⟩ := ReflTransGen.cases_tail path
    · cases same
    · cases holds with
      | item found member =>
        have listed := List.mem_of_getElem? found
        obtain rfl : x = 1 := by simp_all [twinHeap]
        decide
      | entry found member =>
        have listed := List.mem_of_getElem? found
        simp only [twinHeap, List.mem_cons, List.not_mem_nil, or_false] at listed
        rcases listed with rfl | rfl <;> simp at member
  have coherent := valid_twinHeap.equalityCoherent
  refine ⟨valid_twinHeap, regular, ?_, rfl⟩
  refine ((coherent.rearranged ?_ (.object 0)).1).trans (coherent.refl regular)
  rw [shows.tree_eq, copies.tree_eq]
  have array : Tree.Rearranged (.array [.number 1, .text "x"]) (.array [.number 1, .text "x"]) :=
    .array rfl (List.forall_mem_cons.2 ⟨.number 1, List.forall_mem_singleton.2 (.text "x")⟩)
  exact .object (.swap ..) rfl (List.forall_mem_cons.2 ⟨array, List.forall_mem_singleton.2 array⟩)

end Heap

end LineScript
