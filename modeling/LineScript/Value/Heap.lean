import LineScript.Value.Basic
import LineScript.Value.Tree

/-! The heap holds the cells of arrays and objects, each numbered in the order of
allocation. Cells of arrays grow and shrink at the end; cells of objects never
change. -/
namespace LineScript

structure Heap where
  arrays : List (List Value) := []
  objects : List (Table Value) := []

namespace Heap

def items (heap : Heap) (cell : Nat) : List Value := heap.arrays[cell]?.getD []

def entries (heap : Heap) (cell : Nat) : Table Value := heap.objects[cell]?.getD []

def size (heap : Heap) : Nat := heap.arrays.length + heap.objects.length

def newArray (items : List Value) (heap : Heap) : Value × Heap :=
  (.array heap.arrays.length, { heap with arrays := heap.arrays ++ [items] })

def newObject (entries : Table Value) (heap : Heap) : Value × Heap :=
  (.object heap.objects.length, { heap with objects := heap.objects ++ [entries] })

def append (cell : Nat) (item : Value) (heap : Heap) : Heap :=
  { heap with arrays := heap.arrays.modify cell (· ++ [item]) }

/-- Takes the last item out of an array; an empty array stays as it is. -/
def removeLast (cell : Nat) (heap : Heap) : Option Value × Heap :=
  ((heap.items cell).getLast?, { heap with arrays := heap.arrays.modify cell List.dropLast })

/-- Unfolds a value through at most `depth` cells on a path; what lies deeper is
left undefined. -/
def unfold (heap : Heap) : Nat → Value → Tree
  | _, .number x => .number x
  | _, .text s => .text s
  | _, .boolean b => .boolean b
  | _, .undefined => .undefined
  | 0, .array _ | 0, .object _ => .undefined
  | depth + 1, .array cell => .array ((heap.items cell).map (heap.unfold depth))
  | depth + 1, .object cell =>
    .object ((heap.entries cell).map fun (key, value) => (key, heap.unfold depth value))

/-- The tree of a value. On a heap without cycles no path is longer than the
number of cells, so nothing is cut off. A value that is reached from itself has
no finite tree, and to write it out in full never ends; here its tree is cut at
that depth, and a program that writes it out goes on. -/
def tree (heap : Heap) (value : Value) : Tree := heap.unfold heap.size value

def text (heap : Heap) : Value → Text
  | .number x => Number.text x
  | .text s => s.toList
  | .boolean b => Tree.booleanText b
  | .array cell => (heap.tree (.array cell)).compact
  | .object cell => (heap.tree (.object cell)).indented 0
  | .undefined => "undefined".toList

def equals (heap : Heap) (a b : Value) : Bool := (heap.tree a).equals (heap.tree b)

end Heap

end LineScript
