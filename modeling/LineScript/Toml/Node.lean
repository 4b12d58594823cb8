import LineScript.Table
import LineScript.Text.Blank

/-! The tables of a settings document and the rules by which they may be extended.
A value is written once; a table is opened by one header; a table made by dotted
keys can only be extended by dotted keys. -/
namespace LineScript.Toml

inductive Scalar where
  | integer (value : Int)
  | boolean (value : Bool)
  | string (value : Text)
  | other
deriving DecidableEq, Repr

/-- How a table came about: by its own header, as a step of another header's
path, or by a dotted key. -/
inductive Origin where
  | header
  | implied
  | dotted
deriving DecidableEq, Repr

inductive Node where
  | scalar (value : Scalar)
  | table (origin : Origin) (entries : List (String × Node))
  | tables (items : List (List (String × Node)))

abbrev Entries := Table Node

abbrev Change := Origin → Entries → Option Entries

/-- Changes the table at the end of a path, making tables on the way. The path
leads into the last of an array of tables. -/
def change (dotted : Bool) (apply : Change) : List String → Change
  | [], origin, entries => apply origin entries
  | name :: path, _, entries =>
    match entries.get? name with
    | none => do
      let origin := if dotted then Origin.dotted else .implied
      let inner ← change dotted apply path origin []
      return entries.insert name (.table origin inner)
    | some (.table origin inner) => do
      if dotted && origin == .header then none
      let inner ← change dotted apply path origin inner
      return entries.insert name (.table origin inner)
    | some (.tables items) => do
      let inner ← change dotted apply path .header (items.getLast?.getD [])
      return entries.insert name (.tables (items.dropLast ++ [inner]))
    | some (.scalar _) => none

/-- Opens a table. A table that only stood on another header's path may be opened
once. -/
def openTable (name : String) : Change := fun _ entries =>
  match entries.get? name with
  | none => some (entries.insert name (.table .header []))
  | some (.table .implied inner) => some (entries.insert name (.table .header inner))
  | some _ => none

/-- Opens a further table of an array of tables. -/
def openArray (name : String) : Change := fun _ entries =>
  match entries.get? name with
  | none => some (entries.insert name (.tables [[]]))
  | some (.tables items) => some (entries.insert name (.tables (items ++ [[]])))
  | some _ => none

/-- Gives a value to a name that has none. Dotted and plain keys do not mix in one
table. -/
def assign (plain : Bool) (name : String) (value : Scalar) : Change := fun origin entries =>
  if (origin == .dotted) == plain || entries.contains name then none
  else some (entries.insert name (.scalar value))

def splitLast? (path : List String) : Option (List String × String) :=
  path.getLast?.map fun name => (path.dropLast, name)

def assignKey (key : List String) (value : Scalar) : Change := fun origin entries => do
  let (path, name) ← splitLast? key
  change true (assign path.isEmpty name value) path origin entries

end LineScript.Toml
