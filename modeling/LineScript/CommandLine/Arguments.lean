import LineScript.Text.Search

/-! Arguments of the two commands. Both take one path and the option `--config`;
an argument that does not fit is refused. -/
namespace LineScript.CommandLine

structure Arguments where
  path : Option Text := none
  config : Option Text := none

inductive Intent where
  | run (arguments : Arguments)
  | help
  | version
  | refused

structure Flags where
  version : Bool

def isFlag (argument : Text) : Bool := argument.head? == some '-' && argument.length > 1

def withPath (arguments : Arguments) (path : Text) : Option Arguments :=
  if arguments.path.isSome || path.isEmpty then none else some { arguments with path }

def withConfig (arguments : Arguments) (path : Text) : Option Arguments :=
  if arguments.config.isSome || path.isEmpty then none else some { arguments with config := path }

/-- After `--` every argument is a path. -/
def readPaths (arguments : Arguments) : List Text → Intent
  | [] => .run arguments
  | path :: rest =>
    match withPath arguments path with
    | some arguments => readPaths arguments rest
    | none => .refused

/-- The first letter of a group of one-letter flags decides. -/
def readLetters (flags : Flags) : Text → Intent
  | 'h' :: _ => .help
  | 'V' :: _ => if flags.version then .version else .refused
  | _ => .refused

def read (flags : Flags) (arguments : Arguments) : List Text → Intent
  | [] => .run arguments
  | argument :: rest =>
    if argument = "--".toList then readPaths arguments rest
    else if argument = "--help".toList then .help
    else if argument = "--version".toList && flags.version then .version
    else if argument = "--config".toList then
      match rest with
      | path :: rest =>
        if isFlag path then .refused
        else
          match withConfig arguments path with
          | some arguments => read flags arguments rest
          | none => .refused
      | [] => .refused
    else
      match Text.dropStart? "--config=".toList argument with
      | some path =>
        match withConfig arguments path with
        | some arguments => read flags arguments rest
        | none => .refused
      | none =>
        if Text.startsWith "--".toList argument then .refused
        else if isFlag argument then readLetters flags (argument.drop 1)
        else
          match withPath arguments argument with
          | some arguments => read flags arguments rest
          | none => .refused

inductive Plan where
  | inform (text : String)
  | refuse (message : String) (exit : Nat)
  | run (path : Text) (config : Option Text)

end LineScript.CommandLine
