import LineScript.Toml.Document

/-! Settings of the interpreter. Each setting has a default, settings with other
names are ignored, and a setting with a value of the wrong type makes the whole
document unusable. -/
namespace LineScript

structure Config where
  maxDepth : Nat := 256
  completionMessage : Bool := true
  logFilter : Option String := none
deriving DecidableEq, Repr

namespace Config

def natural? : Toml.Node → Option Nat
  | .scalar (.integer n) => if 0 ≤ n then some n.toNat else none
  | _ => none

def boolean? : Toml.Node → Option Bool
  | .scalar (.boolean b) => some b
  | _ => none

def string? : Toml.Node → Option String
  | .scalar (.string text) => some (String.ofList text)
  | _ => none

/-- A setting that is absent has its default; one that is present must be
readable. -/
def setting (entries : Toml.Entries) (name : String) (read : Toml.Node → Option α) (default : α) :
    Option α :=
  match entries.get? name with
  | none => some default
  | some node => read node

def ofEntries? (entries : Toml.Entries) : Option Config := do
  let maxDepth ← setting entries "max_depth" natural? 256
  let completionMessage ← setting entries "completion_message" boolean? true
  let logFilter ← setting entries "log_filter" (fun node => (string? node).map some) none
  return { maxDepth, completionMessage, logFilter }

def parse? (text : Text) : Option Config := (Toml.parse? text).bind ofEntries?

/-- The filter for log messages: the first environment variable that is set and
not blank, else the configured filter, else warnings. -/
def logDirective (environment : List (Option String)) (configured : Option String) : String :=
  let chosen := environment.findSome? fun setting =>
    setting.filter fun directive => !Text.isAllBlank directive.toList
  (chosen.or configured).getD "warn"

end Config

end LineScript
