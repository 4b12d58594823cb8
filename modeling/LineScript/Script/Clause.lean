import LineScript.Error
import LineScript.Scan.Identifier
import LineScript.Text.Search

/-! Clauses of a conditional: a keyword, a condition and a closing colon. A line
of any other shape is a statement. -/
namespace LineScript

inductive Clause where
  | when (condition : Text)
  | orWhen (condition : Text)
  | otherwise
deriving DecidableEq, Repr

inductive LineKind where
  | clause (clause : Clause)
  | statement
deriving DecidableEq, Repr

namespace Clause

def whenKeyword : Text := ['y', 'a', 'd', 'i']

def orWhenKeyword : Text := ['a', 't', 'h', 'a', 'w', 'a']

def otherwiseKeyword : Text := ['a', 'r', 'u']

/-- What follows a keyword that stands as a word of its own. -/
def afterKeyword? (keyword head : Text) : Option Text :=
  match Text.dropStart? keyword head with
  | none => none
  | some rest => if rest.head?.any Scan.isIdentifierChar then none else some (Text.trim rest)

def withCondition (keyword condition : Text) (clause : Clause) : Except Fault LineKind :=
  if condition = [] then .error (.malformed (.missingCondition keyword)) else .ok (.clause clause)

/-- The text before a colon that ends the line. -/
def head? (text : Text) : Option Text :=
  if text.getLast? = some ':' then some (Text.trimEnd text.dropLast) else none

def ofHead (head : Text) : Except Fault LineKind :=
  if head = otherwiseKeyword then .ok (.clause .otherwise)
  else
    match afterKeyword? whenKeyword head with
    | some condition => withCondition whenKeyword condition (.when condition)
    | none =>
      match afterKeyword? orWhenKeyword head with
      | some condition => withCondition orWhenKeyword condition (.orWhen condition)
      | none => .ok .statement

end Clause

def LineKind.of (text : Text) : Except Fault LineKind :=
  match Clause.head? (Text.trim text) with
  | some head => Clause.ofHead head
  | none => .ok .statement

end LineScript
