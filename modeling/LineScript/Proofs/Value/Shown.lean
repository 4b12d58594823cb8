import LineScript.Value.Heap
import Mathlib.Data.Fintype.Card

/-! Values that stand for finite trees. A value shows a tree when the cells below it unfold to
that tree. Such a value cannot reach one of its cells from itself, so the tree is no higher than
the heap has cells, and what is printed is the whole tree. -/
namespace LineScript

namespace Tree

mutual

def height : Tree → Nat
  | array items => heightOfItems items + 1
  | object entries => heightOfEntries entries + 1
  | _ => 0

def heightOfItems : List Tree → Nat
  | [] => 0
  | item :: rest => max item.height (heightOfItems rest)

def heightOfEntries : List (String × Tree) → Nat
  | [] => 0
  | (_, value) :: rest => max value.height (heightOfEntries rest)

end

end Tree

namespace Heap

mutual

/-- The tree of a value, made of cells that a heap `floor` does not have. Above the empty floor
any cells will do. -/
inductive Shows (heap floor : Heap) : Value → Tree → Prop where
  | number (x : Float) : Shows heap floor (.number x) (.number x)
  | text (s : String) : Shows heap floor (.text s) (.text s)
  | boolean (b : Bool) : Shows heap floor (.boolean b) (.boolean b)
  | undefined : Shows heap floor .undefined .undefined
  | array {cell : Nat} {items : List Value} {trees : List Tree} :
      floor.arrays.length ≤ cell → heap.arrays[cell]? = some items →
        ShowsItems heap floor items trees → Shows heap floor (.array cell) (.array trees)
  | object {cell : Nat} {entries : Table Value} {trees : List (String × Tree)} :
      floor.objects.length ≤ cell → heap.objects[cell]? = some entries →
        ShowsEntries heap floor entries trees → Shows heap floor (.object cell) (.object trees)

inductive ShowsItems (heap floor : Heap) : List Value → List Tree → Prop where
  | nil : ShowsItems heap floor [] []
  | cons {value : Value} {tree : Tree} {values : List Value} {trees : List Tree} :
      Shows heap floor value tree → ShowsItems heap floor values trees →
        ShowsItems heap floor (value :: values) (tree :: trees)

inductive ShowsEntries (heap floor : Heap) : Table Value → List (String × Tree) → Prop where
  | nil : ShowsEntries heap floor [] []
  | cons {key : String} {value : Value} {tree : Tree} {entries : Table Value}
      {trees : List (String × Tree)} :
      Shows heap floor value tree → ShowsEntries heap floor entries trees →
        ShowsEntries heap floor ((key, value) :: entries) ((key, tree) :: trees)

end

variable {heap floor : Heap}

mutual

theorem Shows.unfold {value : Value} {tree : Tree} {depth : Nat} (deep : tree.height ≤ depth) :
    heap.Shows floor value tree → heap.unfold depth value = tree
  | .number _ | .text _ | .boolean _ | .undefined => by simp [Heap.unfold]
  | .array _ found items => by
    rw [Tree.height] at deep
    obtain ⟨depth, rfl⟩ : ∃ below, depth = below + 1 := ⟨depth - 1, by omega⟩
    rw [Heap.unfold, Heap.items, found, Option.getD_some, items.unfold (by omega)]
  | .object _ found entries => by
    rw [Tree.height] at deep
    obtain ⟨depth, rfl⟩ : ∃ below, depth = below + 1 := ⟨depth - 1, by omega⟩
    rw [Heap.unfold, Heap.entries, found, Option.getD_some, entries.unfold (by omega)]

theorem ShowsItems.unfold {values : List Value} {trees : List Tree} {depth : Nat}
    (deep : Tree.heightOfItems trees ≤ depth) :
    heap.ShowsItems floor values trees → values.map (heap.unfold depth) = trees
  | .nil => rfl
  | .cons first rest => by
    rw [Tree.heightOfItems, Nat.max_le] at deep
    rw [List.map_cons, first.unfold deep.1, rest.unfold deep.2]

theorem ShowsEntries.unfold {entries : Table Value} {trees : List (String × Tree)} {depth : Nat}
    (deep : Tree.heightOfEntries trees ≤ depth) : heap.ShowsEntries floor entries trees →
      entries.map (fun (key, value) => (key, heap.unfold depth value)) = trees
  | .nil => rfl
  | .cons first rest => by
    rw [Tree.heightOfEntries, Nat.max_le] at deep
    simp only [List.map_cons, first.unfold deep.1, rest.unfold deep.2]

end

theorem Shows.unique {value : Value} {tree other : Tree} (first : heap.Shows floor value tree)
    (second : heap.Shows floor value other) : tree = other := by
  rw [← first.unfold (Nat.le_max_left tree.height other.height),
    second.unfold (Nat.le_max_right tree.height other.height)]

def cellAt (heap : Heap) (place : Nat) : Value :=
  if place < heap.arrays.length then .array place else .object (place - heap.arrays.length)

/-- Some cell shows a tree of a given height. -/
def Reaches (heap floor : Heap) (height : Nat) : Prop :=
  ∃ place : Fin heap.size, ∃ tree, heap.Shows floor (heap.cellAt place) tree ∧ tree.height = height

theorem reaches_array {cell : Nat} {items : List Value} (found : heap.arrays[cell]? = some items)
    {tree : Tree} (whole : heap.Shows floor (.array cell) tree) :
    heap.Reaches floor tree.height := by
  have bound := (List.getElem?_eq_some_iff.1 found).1
  refine ⟨⟨cell, Nat.lt_add_right _ bound⟩, tree, ?_, rfl⟩
  rwa [cellAt, if_pos bound]

theorem reaches_object {cell : Nat} {entries : Table Value}
    (found : heap.objects[cell]? = some entries) {tree : Tree}
    (whole : heap.Shows floor (.object cell) tree) : heap.Reaches floor tree.height := by
  have bound := (List.getElem?_eq_some_iff.1 found).1
  refine ⟨⟨heap.arrays.length + cell, Nat.add_lt_add_left bound _⟩, tree, ?_, rfl⟩
  rwa [cellAt, if_neg (Nat.not_lt.2 (Nat.le_add_right _ _)), Nat.add_sub_cancel_left]

mutual

theorem Shows.reaches {value : Value} {tree : Tree} {height : Nat} (positive : 0 < height)
    (below : height ≤ tree.height) : heap.Shows floor value tree → heap.Reaches floor height
  | .number _ | .text _ | .boolean _ | .undefined => by
    rw [Tree.height] at below
    · omega
    all_goals simp
  | .array fresh found items => by
    rcases Nat.lt_or_eq_of_le below with lower | rfl
    · exact items.reaches positive (by rw [Tree.height] at lower; omega)
    · exact reaches_array found (.array fresh found items)
  | .object fresh found entries => by
    rcases Nat.lt_or_eq_of_le below with lower | rfl
    · exact entries.reaches positive (by rw [Tree.height] at lower; omega)
    · exact reaches_object found (.object fresh found entries)

theorem ShowsItems.reaches {values : List Value} {trees : List Tree} {height : Nat}
    (positive : 0 < height) (below : height ≤ Tree.heightOfItems trees) :
    heap.ShowsItems floor values trees → heap.Reaches floor height
  | .nil => by
    rw [Tree.heightOfItems] at below
    omega
  | .cons first rest => by
    rw [Tree.heightOfItems, le_max_iff] at below
    exact below.elim (first.reaches positive ·) (rest.reaches positive ·)

theorem ShowsEntries.reaches {entries : Table Value} {trees : List (String × Tree)} {height : Nat}
    (positive : 0 < height) (below : height ≤ Tree.heightOfEntries trees) :
    heap.ShowsEntries floor entries trees → heap.Reaches floor height
  | .nil => by
    rw [Tree.heightOfEntries] at below
    omega
  | .cons first rest => by
    rw [Tree.heightOfEntries, le_max_iff] at below
    exact below.elim (first.reaches positive ·) (rest.reaches positive ·)

end

/-- Different heights need different cells, so a tree is no higher than the heap has cells. -/
theorem Shows.height_le {value : Value} {tree : Tree} (whole : heap.Shows floor value tree) :
    tree.height ≤ heap.size := by
  have every (level : Fin tree.height) : heap.Reaches floor (level + 1) :=
    whole.reaches (Nat.succ_pos _) level.isLt
  choose place shown unfolds high using every
  have apart : Function.Injective place := by
    intro first second same
    have one := unfolds first
    rw [same] at one
    have trees := one.unique (unfolds second)
    have heights := high first
    rw [trees, high second] at heights
    exact Fin.ext (by omega)
  simpa using Fintype.card_le_of_injective place apart

/-- What a script prints of a value is its whole tree. -/
theorem Shows.tree_eq {value : Value} {tree : Tree} (whole : heap.Shows floor value tree) :
    heap.tree value = tree :=
  whole.unfold whole.height_le

structure Grows (before after : Heap) : Prop where
  arrays : before.arrays <+: after.arrays
  objects : before.objects <+: after.objects

theorem Grows.refl (heap : Heap) : heap.Grows heap := ⟨List.prefix_rfl, List.prefix_rfl⟩

theorem Grows.trans {first second third : Heap} (before : first.Grows second)
    (after : second.Grows third) : first.Grows third :=
  ⟨before.arrays.trans after.arrays, before.objects.trans after.objects⟩

theorem getElem?_of_grown {α : Type} {before after : List α} (grows : before <+: after)
    {cell : Nat} {content : α} (found : before[cell]? = some content) :
    after[cell]? = some content := by
  obtain ⟨bound, rfl⟩ := List.getElem?_eq_some_iff.1 found
  exact List.prefix_iff_getElem?.1 grows cell bound

mutual

theorem Shows.mono {larger lower : Heap} (grows : heap.Grows larger) (sinks : lower.Grows floor)
    {value : Value} {tree : Tree} : heap.Shows floor value tree → larger.Shows lower value tree
  | .number x => .number x
  | .text s => .text s
  | .boolean b => .boolean b
  | .undefined => .undefined
  | .array fresh found items =>
    .array (Nat.le_trans sinks.arrays.length_le fresh) (getElem?_of_grown grows.arrays found)
      (items.mono grows sinks)
  | .object fresh found entries =>
    .object (Nat.le_trans sinks.objects.length_le fresh) (getElem?_of_grown grows.objects found)
      (entries.mono grows sinks)

theorem ShowsItems.mono {larger lower : Heap} (grows : heap.Grows larger)
    (sinks : lower.Grows floor) {values : List Value} {trees : List Tree} :
    heap.ShowsItems floor values trees → larger.ShowsItems lower values trees
  | .nil => .nil
  | .cons first rest => .cons (first.mono grows sinks) (rest.mono grows sinks)

theorem ShowsEntries.mono {larger lower : Heap} (grows : heap.Grows larger)
    (sinks : lower.Grows floor) {entries : Table Value} {trees : List (String × Tree)} :
    heap.ShowsEntries floor entries trees → larger.ShowsEntries lower entries trees
  | .nil => .nil
  | .cons first rest => .cons (first.mono grows sinks) (rest.mono grows sinks)

end

end Heap

end LineScript
