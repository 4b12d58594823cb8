import LineScript.Builtin.Operation
import LineScript.Text.Quoted
import LineScript.Value.Basic
import LineScript.Value.Number

/-! Why a script fails. A fault is a cause; its message and its code are functions
of the cause. A script error is a fault's code and message together with the line
it was found on. -/
namespace LineScript

inductive Malformed where
  | emptyExpression
  | missingAddend
  | missingOperand
  | unreadable (fragment : Text)
  | emptyArgument (list : Text)
  | emptyElement (body : Text)
  | notPair (text : Text)
  | badKey (text : Text)
  | notStatement (line : Text)
  | missingCondition (keyword : Text)
  | orphanClause (line : Text)
  | unclosedLiteral
  | deepExpression
  | deepBlock

inductive Mismatch where
  | functionAsValue (name : String)
  | property (name : String) (found : Kind)
  | notIndexable (found : Kind)
  | indexKind (found : Kind)
  | order (left right : Kind)
  | argument (operation : Operation) (position : Nat) (expected found : Kind)
  | bindingName (operation : Operation) (text : Text)

inductive OutOfRange where
  | property (name : String)
  | index (position : Float) (size : Nat)
  | padding (operation : Operation) (target : Float)

inductive Fault where
  | malformed (cause : Malformed)
  | arity (name : String) (expected : Arity) (found : Nat)
  | undefinedVariable (name : String)
  | undefinedFunction (name : String)
  | constantChanged (name : String)
  | alreadyDefined (name : String)
  | mismatch (cause : Mismatch)
  | outOfRange (cause : OutOfRange)
  | divisionByZero
  | moduloByZero
  | notANumber (answer : Text)
  | unknownCommand (name : String)
  | console (message : String)

def maxPaddedLength : Nat := 16777216

def Malformed.message : Malformed → String
  | emptyExpression => "empty expression"
  | missingAddend => "missing operand for +"
  | missingOperand => "operator is missing an operand"
  | unreadable fragment => "unable to evaluate expression: " ++ String.ofList fragment
  | emptyArgument list => "empty argument in (" ++ String.ofList list ++ ")"
  | emptyElement body => "empty element in collection literal: " ++ String.ofList body
  | notPair text => "expected key: value, got " ++ String.ofList text
  | badKey text => "invalid object key: " ++ String.ofList text
  | notStatement line => "Unable to parse line: " ++ String.ofList line
  | missingCondition keyword => String.ofList keyword ++ " clause needs a condition"
  | orphanClause line => String.ofList line ++ " has no matching yadi clause"
  | unclosedLiteral => "unclosed bracket or brace at end of file"
  | deepExpression => "expression nested too deeply"
  | deepBlock => "conditional blocks nested too deeply"

def Mismatch.message : Mismatch → String
  | functionAsValue name => name ++ " is a builtin function and cannot be used as a value"
  | property name found => "cannot read property " ++ name ++ " of " ++ found.name
  | notIndexable found => "cannot index into " ++ found.name
  | indexKind found => "array index must be a number, got " ++ found.name
  | order left right => "cannot order " ++ left.name ++ " against " ++ right.name
  | argument operation position expected found =>
    operation.name ++ " expects " ++ expected.withArticle ++ " as argument " ++
      toString (position + 1) ++ ", got " ++ found.name
  | bindingName operation text =>
    operation.name ++ " needs an identifier as the binding name, got " ++
      String.ofList (Text.quoted text)

def OutOfRange.message : OutOfRange → String
  | property name => "property " ++ name ++ " does not exist"
  | index position size =>
    "index " ++ String.ofList (Number.text position) ++ " is outside 0.." ++ toString size
  | padding operation target =>
    operation.name ++ " target length " ++ String.ofList (Number.plainText target) ++
      " exceeds " ++ toString maxPaddedLength

def Fault.message : Fault → String
  | malformed cause => "Syntax error: " ++ cause.message
  | arity name expected found =>
    name ++ " expects " ++ expected.text ++ " argument(s), got " ++ toString found
  | undefinedVariable name => "Variable " ++ name ++ " is not defined."
  | undefinedFunction name => "Function " ++ name ++ " is not defined."
  | constantChanged name => name ++ " is a constant and cannot be changed."
  | alreadyDefined name => name ++ " is already defined."
  | mismatch cause => "Type error: " ++ cause.message
  | outOfRange cause => "Range error: " ++ cause.message
  | divisionByZero => "Division by zero."
  | moduloByZero => "Modulo by zero."
  | notANumber answer => "Input is not a valid number: " ++ String.ofList (Text.quoted answer)
  | unknownCommand name => "Unknown command: " ++ name
  | console message => "Console error: " ++ message

inductive ErrorCode where
  | malformed | arity | undefinedName | reassignment | mismatch | outOfRange | arithmetic
  | inputFormat | unknownCommand | console
deriving DecidableEq, Repr

namespace ErrorCode

def all : List ErrorCode :=
  [malformed, arity, undefinedName, reassignment, mismatch, outOfRange, arithmetic, inputFormat,
    unknownCommand, console]

def text : ErrorCode → String
  | malformed => "E001"
  | arity => "E002"
  | undefinedName => "E003"
  | reassignment => "E004"
  | mismatch => "E005"
  | outOfRange => "E006"
  | arithmetic => "E007"
  | inputFormat => "E008"
  | unknownCommand => "E009"
  | console => "E010"

def kind : ErrorCode → String
  | malformed => "SyntaxError"
  | arity => "ArityError"
  | undefinedName => "UndefinedNameError"
  | reassignment => "ReassignmentError"
  | mismatch => "TypeError"
  | outOfRange => "RangeError"
  | arithmetic => "ArithmeticError"
  | inputFormat => "InputFormatError"
  | unknownCommand => "UnknownCommandError"
  | console => "IoError"

def ofText? (text : String) : Option ErrorCode := all.find? (·.text == text)

end ErrorCode

def Fault.code : Fault → ErrorCode
  | malformed _ => .malformed
  | arity .. => .arity
  | undefinedVariable _ | undefinedFunction _ => .undefinedName
  | constantChanged _ | alreadyDefined _ => .reassignment
  | mismatch _ => .mismatch
  | outOfRange _ => .outOfRange
  | divisionByZero | moduloByZero => .arithmetic
  | notANumber _ => .inputFormat
  | unknownCommand _ => .unknownCommand
  | console _ => .console

structure ScriptError where
  code : ErrorCode
  message : String
  line : Option Nat := none
deriving DecidableEq, Repr

namespace ScriptError

/-- Gives the error a line unless it already has one. -/
def atLine (error : ScriptError) (line : Nat) : ScriptError :=
  { error with line := some (error.line.getD line) }

def display (error : ScriptError) : String :=
  match error.line with
  | some line => "line " ++ toString line ++ ": " ++ error.message
  | none => error.message

end ScriptError

def Fault.located (fault : Fault) (line : Nat) : ScriptError :=
  ScriptError.atLine ⟨fault.code, fault.message, none⟩ line

end LineScript
