import LineScript.Proofs.Value.Grounded

/-! The keys of objects. The entries of an object are entered in a table one by one, and no call
changes an object that is there, so that no object on the heap of a session repeats a key. -/
namespace LineScript

namespace Heap

/-- No object repeats a key. -/
def Keyed (heap : Heap) : Prop := ∀ entries ∈ heap.objects, (Table.keys entries).Nodup

/-- Every handle leads to a cell, and no object repeats a key. -/
structure Valid (heap : Heap) : Prop where
  closed : heap.Closed
  keyed : heap.Keyed

variable {heap : Heap} (keyed : heap.Keyed)

include keyed

theorem Keyed.newObject {entries : Table Value} (distinct : entries.keys.Nodup) :
    (heap.newObject entries).2.Keyed :=
  List.forall_mem_append.2 ⟨keyed, List.forall_mem_singleton.2 distinct⟩

theorem Keyed.nodup_entries (cell : Nat) : (heap.entries cell).keys.Nodup := by
  rw [entries]
  cases found : heap.objects[cell]? with
  | none => exact List.nodup_nil
  | some entries => exact keyed entries (List.mem_of_getElem? found)

end Heap

namespace World

variable {σ : Type} (console : Console σ)

theorem keyed_own {world : World σ} (keyed : world.heap.Keyed) {request : Request}
    (own : request.IsOwn) (uses : request.Uses world.heap) :
    (world.answer console request).2.heap.Keyed := by
  cases request with
  | readBindings | readHeap | newArray items => exact keyed
  | newObject entries => exact keyed.newObject uses.1
  | _ => cases own

theorem kept_keyed : Kept console (fun _ => True) fun world => world.Closed ∧ world.heap.Keyed where
  closed := And.left
  own start isOwn uses :=
    ⟨closed_own console start.1 isOwn uses, keyed_own console start.2 isOwn uses⟩
  calls {world invocation} start there _ := by
    refine ⟨(closed_call console start.1 invocation there).1, ?_⟩
    rw [Heap.Keyed]
    exact (Operation.alters_action? console world invocation.found).objects_eq ▸ start.2

end World

theorem Interpreter.valid_session {σ : Type} {interpreter : Interpreter σ}
    (plain : interpreter.catalog.Plain) (calls : List Call) (state : σ) :
    (interpreter.session calls ⟨{}, {}, state⟩).heap.Valid := by
  have kept := session_kept plain (World.kept_keyed interpreter.console)
    ⟨World.closed_fresh state, List.forall_mem_nil _⟩ calls
  exact ⟨kept.1.heap, kept.2⟩

end LineScript
