/-! Tables from names to values that keep the order of first insertion. Writing an
existing name replaces its value where it stands. -/
namespace LineScript

abbrev Table (α : Type) := List (String × α)

namespace Table

def get? (name : String) : Table α → Option α
  | [] => none
  | (key, value) :: rest => if key = name then some value else get? name rest

def insert (name : String) (value : α) : Table α → Table α
  | [] => [(name, value)]
  | (key, old) :: rest =>
    if key = name then (key, value) :: rest else (key, old) :: insert name value rest

def contains (name : String) (table : Table α) : Bool := (get? name table).isSome

def keys (table : Table α) : List String := table.map Prod.fst

def values (table : Table α) : List α := table.map Prod.snd

theorem get?_insert (name other : String) (value : α) (table : Table α) :
    get? other (insert name value table) =
      if name = other then some value else get? other table := by
  induction table with
  | nil => simp [insert, get?]
  | cons entry rest ih =>
    obtain ⟨key, old⟩ := entry
    by_cases same : key = name
    · subst same
      by_cases asked : key = other <;> simp [insert, get?, asked]
    · by_cases asked : key = other
      · subst asked
        simp [insert, get?, same, Ne.symm same]
      · simp [insert, get?, same, asked, ih]

end Table

end LineScript
