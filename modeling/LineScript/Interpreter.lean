import LineScript.Console
import LineScript.Script.Run

/-! An interpreter: a console, a catalog of builtins and a nesting limit. Calls on
one interpreter share a world, and a call that fails leaves behind whatever it
had done. -/
namespace LineScript

structure Interpreter (σ : Type) where
  console : Console σ
  catalog : Catalog := .standard
  limit : Nat := 256

namespace Interpreter

variable (interpreter : Interpreter σ)

def run (source : Text) : World σ → Except ScriptError Unit × World σ :=
  (Script.run interpreter.catalog interpreter.limit source).run interpreter.console

def evaluate (fragment : Text) : World σ → Except Fault Value × World σ :=
  (Expression.evaluate interpreter.catalog interpreter.limit fragment).run interpreter.console

def execute (line : Text) : World σ → Except Fault Value × World σ :=
  (Statement.execute interpreter.catalog interpreter.limit line).run interpreter.console

def invoke (name : String) (arguments : List Value) : World σ → Except Fault Value × World σ :=
  (interpreter.catalog.invoke name arguments).run interpreter.console

def lookup (name : String) : World σ → Except Fault Value × World σ :=
  (interpreter.catalog.lookup name).run interpreter.console

end Interpreter

end LineScript
