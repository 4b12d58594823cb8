import LineScript.Toml.Scalar

/-! Settings documents: lines with a key and a value, headers that open tables,
comments and blank lines. -/
namespace LineScript.Toml

abbrev Reader := StateT Text Option

def rest : Reader Text := get

def expect (c : Char) : Reader Unit := do
  set (← Toml.expect? c (← rest))

def nextIs (c : Char) : Reader Bool := return (← rest).head? == some c

def accept (c : Char) : Reader Bool := do
  if ← nextIs c then
    expect c
    return true
  else return false

def isBlank (c : Char) : Bool := c == ' ' || c == '\t'

def skipBlanks : Reader Unit := modify (List.dropWhile isBlank)

def skipComment : Reader Unit := do
  if ← accept '#' then modify (List.dropWhile isAllowed)

def isBareKeyChar (c : Char) : Bool := c.isAlphanum || c == '_' || c == '-'

def simpleKey : Reader String := do
  let text ← rest
  match text with
  | '"' :: _ | '\'' :: _ =>
    let (content, rest) ← quoted? text
    set rest
    return String.ofList content
  | _ =>
    let name := text.takeWhile isBareKeyChar
    if name.isEmpty then failure
    set (text.drop name.length)
    return String.ofList name

/-- The most levels to which values may be nested, and the most names of a key. -/
def maxNesting : Nat := 79

def key : (most : Nat) → Reader (List String)
  | 0 => failure
  | most + 1 => do
    skipBlanks
    let name ← simpleKey
    skipBlanks
    if ← accept '.' then return name :: (← key most) else return [name]

/-- Blanks, comments and line breaks between the items of an array. -/
def skipLines : Nat → Reader Unit
  | 0 => return
  | fuel + 1 => do
    skipBlanks
    skipComment
    match dropBreak? (← rest) with
    | some text =>
      set text
      skipLines fuel
    | none => return

/-- The items of an array after its opening bracket; a last comma is allowed. -/
def arrayItems (value : Reader Scalar) : Nat → Reader Unit
  | 0 => failure
  | fuel + 1 => do
    let size := (← rest).length
    skipLines size
    if ← accept ']' then return
    let _ ← value
    skipLines size
    if ← accept ',' then arrayItems value fuel else expect ']'

def pair (value : Reader Scalar) : Reader (List String × Scalar) := do
  let names ← key maxNesting
  expect '='
  skipBlanks
  return (names, ← value)

/-- The pairs of an inline table after its opening brace; they stand on one line
without a last comma. -/
def inlinePairs (value : Reader Scalar) : Nat → Entries → Reader Unit
  | 0, _ => failure
  | fuel + 1, entries => do
    let (names, item) ← pair value
    let entries ← assignKey names item .header entries
    skipBlanks
    if ← accept ',' then inlinePairs value fuel entries else expect '\x7d'

/-- A value that holds no others: a string or a word. -/
def plain : Reader Scalar := do
  let text ← rest
  match text with
  | '"' :: _ | '\'' :: _ =>
    let (content, rest) ← string? text
    set rest
    return .string content
  | _ =>
    let (word, rest) := splitWord text
    let item ← scalar? word
    set rest
    return item

def value : (depth : Nat) → Reader Scalar
  | 0 => plain
  | depth + 1 => do
    let text ← rest
    match text with
    | '[' :: rest =>
      set rest
      arrayItems (value depth) text.length
      return .other
    | '\x7b' :: rest =>
      set rest
      skipBlanks
      if ← accept '\x7d' then return .other
      inlinePairs (value depth) text.length []
      return .other
    | _ => plain

structure Document where
  root : Entries := []
  current : List String := []

namespace Document

def assign (document : Document) (names : List String) (item : Scalar) : Option Document := do
  let root ← change false (assignKey names item) document.current .header document.root
  return { document with root }

def openAt (document : Document) (path : List String) (opening : String → Change) :
    Option Document := do
  let (parents, name) ← splitLast? path
  let root ← change false (opening name) parents .header document.root
  return ⟨root, path⟩

end Document

def header (document : Document) : Reader Document := do
  expect '['
  if ← accept '[' then
    let path ← key maxNesting
    expect ']'
    expect ']'
    document.openAt path openArray
  else
    let path ← key maxNesting
    expect ']'
    document.openAt path openTable

def line (document : Document) : Reader Document := do
  skipBlanks
  match (← rest).head? with
  | none | some '#' | some '\n' | some '\r' => return document
  | some '[' => header document
  | some _ =>
    let (names, item) ← pair (value maxNesting)
    document.assign names item

def lines : Nat → Document → Reader Document
  | 0, _ => failure
  | fuel + 1, document => do
    let document ← line document
    skipBlanks
    skipComment
    match ← rest with
    | [] => return document
    | text =>
      set (← dropBreak? text)
      lines fuel document

/-- The root table of a document. A byte order mark before it is passed over. -/
def parse? (text : Text) : Option Entries :=
  let text := if text.head? = some (Char.ofNat 0xFEFF) then text.drop 1 else text
  ((lines (text.length + 1) {}).run text).map fun (document, _) => document.root

end LineScript.Toml
