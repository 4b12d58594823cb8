import LineScript.Text.Search

/-! Paths of files: their parts, their last name and its extension. -/
namespace LineScript.Path

def parts (path : Text) : List Text := Text.split ['/'] path

def isNamed (part : Text) : Bool := part != [] && part != ['.']

/-- The last name of a path. Empty parts and single dots are passed over, and two
dots are no name. -/
def fileName? (path : Text) : Option Text :=
  ((parts path).filter isNamed).getLast?.filter (· != ['.', '.'])

/-- What follows the last dot of a name, unless nothing precedes it. -/
def nameExtension? (name : Text) : Option Text :=
  let backward := name.reverse
  match backward.dropWhile (· != '.') with
  | _ :: _ :: _ => some (backward.takeWhile (· != '.')).reverse
  | _ => none

def extension? (path : Text) : Option Text := (fileName? path).bind nameExtension?

def sourceExtension : Text := ['b', 'h', 'n']

def isSource (path : Text) : Bool := extension? path == some sourceExtension

def join (directory name : Text) : Text :=
  if directory.getLast? = some '/' then directory ++ name else directory ++ '/' :: name

end LineScript.Path
