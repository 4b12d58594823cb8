import LineScript.Error
import LineScript.Table

/-! Names bound by a script. Variables and constants live in two tables, and a
name is never in both. -/
namespace LineScript

structure Bindings where
  mutable : Table Value := []
  immutable : Table Value := []

namespace Bindings

def get? (bindings : Bindings) (name : String) : Option Value :=
  (bindings.mutable.get? name).or (bindings.immutable.get? name)

def isConstant (bindings : Bindings) (name : String) : Bool := bindings.immutable.contains name

/-- Creates or overwrites a variable. -/
def setVariable (bindings : Bindings) (name : String) (value : Value) : Except Fault Bindings :=
  if bindings.immutable.contains name then .error (.constantChanged name)
  else .ok { bindings with mutable := bindings.mutable.insert name value }

/-- Creates a constant under a name that is not bound yet. -/
def setConstant (bindings : Bindings) (name : String) (value : Value) : Except Fault Bindings :=
  if bindings.mutable.contains name || bindings.immutable.contains name then
    .error (.alreadyDefined name)
  else .ok { bindings with immutable := bindings.immutable.insert name value }

end Bindings

end LineScript
