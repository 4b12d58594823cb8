/-! The operations that scripts can call, the names they go by and the number of
arguments they take. -/
namespace LineScript

inductive Operation where
  | bind | bindConstant
  | print | askText | askNumber
  | add | subtract | multiply | divide | modulo
  | both | either | negate
  | concat | length | slice | replace | upper | lower | contains | split | trim
  | position | reverse | padRight | padLeft | wordCount
  | listLength | listAppend | listRemoveLast | objectKeys | objectValues
deriving DecidableEq, Repr

inductive Effect where
  | pure | binding | console
deriving DecidableEq, Repr

inductive Arity where
  | exactly (count : Nat)
  | anyNumber
deriving DecidableEq, Repr

def Arity.accepts : Arity → Nat → Bool
  | exactly expected, count => expected == count
  | anyNumber, _ => true

def Arity.text : Arity → String
  | exactly count => toString count
  | anyNumber => "any number of"

namespace Operation

def all : List Operation :=
  [bind, bindConstant, print, askText, askNumber, add, subtract, multiply, divide, modulo, both,
    either, negate, concat, length, slice, replace, upper, lower, contains, split, trim, position,
    reverse, padRight, padLeft, wordCount, listLength, listAppend, listRemoveLast, objectKeys,
    objectValues]

def name : Operation → String
  | bind => "rakha"
  | bindConstant => "sadai_rakha"
  | print => "bhanai"
  | askText => "sodhString"
  | askNumber => "sodhNumber"
  | add => "jod"
  | subtract => "ghata"
  | multiply => "guna"
  | divide => "bhaag"
  | modulo => "shesh"
  | both => "ra"
  | either => "athawa"
  | negate => "hoina"
  | concat => "jodString"
  | length => "lambai"
  | slice => "tola"
  | replace => "badal"
  | upper => "thuloAkshar"
  | lower => "sanoAkshar"
  | contains => "chhaina"
  | split => "tukra"
  | trim => "safa"
  | position => "khoj"
  | reverse => "ulto"
  | padRight => "padDaya"
  | padLeft => "padBaya"
  | wordCount => "shabdaGanti"
  | listLength => "lambaiList"
  | listAppend => "thapList"
  | listRemoveLast => "hatauList"
  | objectKeys => "chaabiList"
  | objectValues => "maanList"

def arity : Operation → Arity
  | print => .anyNumber
  | askText | askNumber | negate | length | upper | lower | trim | reverse | wordCount
  | listLength | listRemoveLast | objectKeys | objectValues => .exactly 1
  | bind | bindConstant | add | subtract | multiply | divide | modulo | both | either | concat
  | contains | split | position | listAppend => .exactly 2
  | slice | replace | padRight | padLeft => .exactly 3

def effect : Operation → Effect
  | bind | bindConstant => .binding
  | print | askText | askNumber => .console
  | _ => .pure

end Operation

end LineScript
