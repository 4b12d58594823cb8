import LineScript.CommandLine.Path

/-! A directory tree in memory, read as a file system reads it. Every path is
relative to the root of the tree. -/
namespace LineScript

inductive ReadError where
  | notFound
  | isDirectory
  | notDirectory
  | badEncoding
  | other (message : String)
deriving DecidableEq, Repr

def ReadError.message : ReadError → String
  | notFound => "No such file or directory (os error 2)"
  | isDirectory => "Is a directory (os error 21)"
  | notDirectory => "Not a directory (os error 20)"
  | badEncoding => "stream did not contain valid UTF-8"
  | other message => message

inductive Entry where
  | file (bytes : ByteArray)
  | directory

/-- The names that lead to each file and to each directory listed on its own.
Directories on the way are implied. -/
structure FileTree where
  entries : List (List Text × Entry) := []

namespace FileTree

/-- The tree with the given paths; a path that ends in a slash is a directory. -/
def ofPaths (files : List (Text × ByteArray)) : FileTree where
  entries := files.map fun (path, bytes) =>
    let names := (Path.parts path).filter Path.isNamed
    (names, if path.getLast? = some '/' then .directory else .file bytes)

def at? (tree : FileTree) (names : List Text) : Option Entry :=
  if names = [] then some .directory
  else
    match tree.entries.find? fun entry => entry.1 == names with
    | some (_, entry) => some entry
    | none =>
      if tree.entries.any fun entry => names.isPrefixOf entry.1 then some .directory else none

def follow (tree : FileTree) (names : List Text) (entry : Entry) :
    List Text → Except ReadError (List Text × Entry)
  | [] => .ok (names, entry)
  | part :: rest =>
    match entry with
    | .file _ => .error .notDirectory
    | .directory =>
      if !Path.isNamed part then tree.follow names entry rest
      else
        let names? :=
          if part != ['.', '.'] then some (names ++ [part])
          else if names = [] then none
          else some names.dropLast
        match names?.bind fun names => (tree.at? names).map (names, ·) with
        | some (names, entry) => tree.follow names entry rest
        | none => .error .notFound

def resolve (tree : FileTree) (path : Text) : Except ReadError (List Text × Entry) :=
  if path.head? = some '/' then .error .notFound else tree.follow [] .directory (Path.parts path)

def isFile (tree : FileTree) (path : Text) : Bool :=
  match tree.resolve path with
  | .ok (_, .file _) => true
  | _ => false

def decode (bytes : ByteArray) : Except ReadError Text :=
  match String.fromUTF8? bytes with
  | some text => .ok text.toList
  | none => .error .badEncoding

def readText (tree : FileTree) (path : Text) : Except ReadError Text := do
  match ← tree.resolve path with
  | (_, .file bytes) => decode bytes
  | (_, .directory) => .error .isDirectory

def childName? (names entry : List Text) : Option Text :=
  if names.isPrefixOf entry then entry[names.length]? else none

def list (tree : FileTree) (path : Text) : Except ReadError (List Text) := do
  match ← tree.resolve path with
  | (names, .directory) =>
    return (tree.entries.filterMap fun entry => childName? names entry.1).eraseDups
  | (_, .file _) => .error .notDirectory

end FileTree

end LineScript
