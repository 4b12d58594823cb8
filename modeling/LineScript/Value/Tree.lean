import LineScript.Table
import LineScript.Value.Number

/-! Values unfolded into trees. A tree has a compact and an indented text, and
trees are compared by structure: the order of an object's entries does not
count. -/
namespace LineScript

inductive Tree where
  | number (value : Float)
  | text (value : String)
  | boolean (value : Bool)
  | array (items : List Tree)
  | object (entries : List (String × Tree))
  | undefined

namespace Tree

def escapeChar (c : Char) : Text :=
  if c = '"' then ['\\', '"']
  else if c = '\\' then ['\\', '\\']
  else if c = '\n' then ['\\', 'n']
  else if c = '\r' then ['\\', 'r']
  else if c = '\t' then ['\\', 't']
  else if c.toNat = 0x08 then ['\\', 'b']
  else if c.toNat = 0x0C then ['\\', 'f']
  else if c.toNat < 0x20 then
    ['\\', 'u', '0', '0', Nat.digitChar (c.toNat / 16), Nat.digitChar (c.toNat % 16)]
  else [c]

/-- A text in double quotes; only quotes, backslashes and control characters are
escaped. -/
def quote (text : Text) : Text := '"' :: text.flatMap escapeChar ++ ['"']

def booleanText (b : Bool) : Text := if b then "true".toList else "false".toList

def commaSeparated (parts : List Text) : Text := [','].intercalate parts

mutual

def compact : Tree → Text
  | number x => Number.nestedText x
  | text s => quote s.toList
  | boolean b => booleanText b
  | array items => '[' :: commaSeparated (compactItems items) ++ [']']
  | object entries => '\x7b' :: commaSeparated (compactEntries entries) ++ ['\x7d']
  | undefined => "null".toList

def compactItems : List Tree → List Text
  | [] => []
  | item :: rest => item.compact :: compactItems rest

def compactEntries : List (String × Tree) → List Text
  | [] => []
  | (key, value) :: rest => (quote key.toList ++ ':' :: value.compact) :: compactEntries rest

end

def newLine (level : Nat) : Text := '\n' :: List.replicate (2 * level) ' '

/-- Lines of a bracketed list, one part to a line at `level + 1`. -/
def indentedLines (level : Nat) (parts : List Text) : Text :=
  commaSeparated (parts.map (newLine (level + 1) ++ ·)) ++ newLine level

mutual

/-- The text with one item to a line, two blanks to a level. -/
def indented (level : Nat) : Tree → Text
  | number x => Number.nestedText x
  | text s => quote s.toList
  | boolean b => booleanText b
  | array [] => "[]".toList
  | array (first :: rest) =>
    '[' :: indentedLines level (indentedItems (level + 1) (first :: rest)) ++ [']']
  | object [] => ['\x7b', '\x7d']
  | object (first :: rest) =>
    '\x7b' :: indentedLines level (indentedEntries (level + 1) (first :: rest)) ++ ['\x7d']
  | undefined => "null".toList

def indentedItems (level : Nat) : List Tree → List Text
  | [] => []
  | item :: rest => item.indented level :: indentedItems level rest

def indentedEntries (level : Nat) : List (String × Tree) → List Text
  | [] => []
  | (key, value) :: rest =>
    (quote key.toList ++ ':' :: ' ' :: value.indented level) :: indentedEntries level rest

end

mutual

/-- Equality of structure. Objects are equal when they have the same keys with
equal values, in any order. -/
def equals : Tree → Tree → Bool
  | number x, number y => x == y
  | text s, text t => s == t
  | boolean a, boolean b => a == b
  | array items, array others => equalItems items others
  | object entries, object others =>
    entries.length == others.length && entriesWithin others entries
  | undefined, undefined => true
  | _, _ => false

def equalItems : List Tree → List Tree → Bool
  | [], [] => true
  | item :: rest, other :: others => item.equals other && equalItems rest others
  | _, _ => false

def entriesWithin (others : List (String × Tree)) : List (String × Tree) → Bool
  | [] => true
  | (key, value) :: rest =>
    (match Table.get? key others with
      | some other => value.equals other
      | none => false) && entriesWithin others rest

end

end Tree

end LineScript
