/-! Values of the language. Arrays and objects are handles to cells of a heap, so
two values may share one cell. -/
namespace LineScript

inductive Value where
  | number (value : Float)
  | text (value : String)
  | boolean (value : Bool)
  | array (cell : Nat)
  | object (cell : Nat)
  | undefined

instance : Inhabited Value := ⟨.undefined⟩

inductive Kind where
  | number
  | text
  | boolean
  | array
  | object
  | undefined
deriving DecidableEq, Repr

def Kind.name : Kind → String
  | number => "number"
  | text => "string"
  | boolean => "boolean"
  | array => "array"
  | object => "object"
  | undefined => "undefined"

def Kind.withArticle : Kind → String
  | array => "an array"
  | object => "an object"
  | kind => "a " ++ kind.name

namespace Value

def kind : Value → Kind
  | number _ => .number
  | text _ => .text
  | boolean _ => .boolean
  | array _ => .array
  | object _ => .object
  | undefined => .undefined

def isTruthy : Value → Bool
  | number x => !(x == 0.0) && !x.isNaN
  | text s => s != ""
  | boolean b => b
  | array _ | object _ => true
  | undefined => false

def number? : Value → Option Float
  | number x => some x
  | _ => none

/-- Equality without conversion between kinds. Arrays and objects are equal only
to themselves. -/
def sameAs : Value → Value → Bool
  | number x, number y => x == y
  | text s, text t => s == t
  | boolean a, boolean b => a == b
  | array c, array d => c == d
  | object c, object d => c == d
  | undefined, undefined => true
  | _, _ => false

def orderNumbers (x y : Float) : Option Ordering :=
  if x < y then some .lt
  else if y < x then some .gt
  else if x == y then some .eq
  else none

def orderTexts (s t : String) : Ordering :=
  if s < t then .lt else if s = t then .eq else .gt

def orderBooleans (a b : Bool) : Ordering :=
  match a, b with
  | false, true => .lt
  | true, false => .gt
  | _, _ => .eq

/-- The order of two values of one orderable kind. The inner option is empty when
a NaN is involved, the outer one when the values cannot be ordered at all. -/
def order? : Value → Value → Option (Option Ordering)
  | number x, number y => some (orderNumbers x y)
  | text s, text t => some (some (orderTexts s t))
  | boolean a, boolean b => some (some (orderBooleans a b))
  | _, _ => none

end Value

end LineScript
