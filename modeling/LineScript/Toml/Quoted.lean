import LineScript.Text.Search

/-! Quoted strings of settings documents, on one line or on several, with or
without escapes. Each reader gives the content and what follows the closing
quotes. -/
namespace LineScript.Toml

def isAllowed (c : Char) : Bool :=
  c == '\t' || (0x20 ≤ c.toNat && c.toNat != 0x7F)

def hexValue? (c : Char) : Option Nat :=
  if c.isDigit then some (c.toNat - '0'.toNat)
  else if 'a' ≤ c ∧ c ≤ 'f' then some (c.toNat - 'a'.toNat + 10)
  else if 'A' ≤ c ∧ c ≤ 'F' then some (c.toNat - 'A'.toNat + 10)
  else none

def codePoint? (digits : List Char) : Option Char := do
  let values ← digits.mapM hexValue?
  let code := values.foldl (fun sum value => 16 * sum + value) 0
  if Nat.isValidChar code then some (Char.ofNat code) else none

def simpleEscape? (c : Char) : Option Char :=
  match c with
  | 'b' => some (Char.ofNat 0x08)
  | 't' => some '\t'
  | 'n' => some '\n'
  | 'f' => some (Char.ofNat 0x0C)
  | 'r' => some '\r'
  | '"' => some '"'
  | '\\' => some '\\'
  | _ => none

/-- The character of an escape and the number of characters that spell it after
the backslash. -/
def escape? : Text → Option (Char × Nat)
  | 'u' :: rest => if rest.length < 4 then none else (codePoint? (rest.take 4)).map (·, 5)
  | 'U' :: rest => if rest.length < 8 then none else (codePoint? (rest.take 8)).map (·, 9)
  | c :: _ => (simpleEscape? c).map (·, 1)
  | [] => none

def dropBreak? : Text → Option Text
  | '\n' :: rest => some rest
  | '\r' :: '\n' :: rest => some rest
  | _ => none

/-- Passes over blanks and line breaks. A carriage return alone is neither. -/
def skipBreaks : Text → Text
  | ' ' :: rest | '\t' :: rest | '\n' :: rest => skipBreaks rest
  | '\r' :: '\n' :: rest => skipBreaks rest
  | text => text

/-- The number of characters from a backslash at the end of a line to the next
character that is not blank. -/
def lineJoin? (text : Text) : Option Nat :=
  match dropBreak? (text.dropWhile fun c => c == ' ' || c == '\t') with
  | some rest => some (text.length - (skipBreaks rest).length)
  | none => none

def prepend (c : Char) : Text × Text → Text × Text := fun (content, rest) => (c :: content, rest)

/-- Reads up to the closing quote. `skip` characters have been dealt with and are
passed over. -/
def basicFrom : (skip : Nat) → Text → Option (Text × Text)
  | _, [] => none
  | skip + 1, _ :: rest => basicFrom skip rest
  | 0, c :: rest =>
    if c = '"' then some ([], rest)
    else if c = '\\' then
      match escape? rest with
      | some (e, size) => (basicFrom size rest).map (prepend e)
      | none => none
    else if isAllowed c then (basicFrom 0 rest).map (prepend c)
    else none

def literal : Text → Option (Text × Text)
  | [] => none
  | c :: rest =>
    if c = '\'' then some ([], rest)
    else if isAllowed c then (literal rest).map (prepend c)
    else none

/-- The closing quotes of a string of several lines: three, and up to two more
that belong to the content. -/
def closing? (quote : Char) (text : Text) : Option (Text × Text) :=
  let quotes := text.takeWhile (· == quote)
  if quotes.length < 3 then none
  else if quotes.length > 5 then none
  else some (quotes.drop 3, text.drop quotes.length)

def blockBasicFrom : (skip : Nat) → Text → Option (Text × Text)
  | _, [] => none
  | skip + 1, _ :: rest => blockBasicFrom skip rest
  | 0, c :: rest =>
    if Text.startsWith ['"', '"', '"'] (c :: rest) then closing? '"' (c :: rest)
    else if c = '\\' then
      match lineJoin? rest with
      | some size => blockBasicFrom size rest
      | none =>
        match escape? rest with
        | some (e, size) => (blockBasicFrom size rest).map (prepend e)
        | none => none
    else if c = '\r' then
      match rest with
      | '\n' :: _ => (blockBasicFrom 1 rest).map (prepend '\n')
      | _ => none
    else if c = '\n' || isAllowed c then (blockBasicFrom 0 rest).map (prepend c)
    else none

def blockLiteralFrom : Text → Option (Text × Text)
  | [] => none
  | c :: rest =>
    if Text.startsWith ['\'', '\'', '\''] (c :: rest) then closing? '\'' (c :: rest)
    else if c = '\r' then
      match rest with
      | '\n' :: _ => blockLiteralFrom rest
      | _ => none
    else if c = '\n' || isAllowed c then (blockLiteralFrom rest).map (prepend c)
    else none

def dropFirstBreak (text : Text) : Text := (dropBreak? text).getD text

/-- A string on one line, opening quote included. -/
def quoted? : Text → Option (Text × Text)
  | '"' :: rest => basicFrom 0 rest
  | '\'' :: rest => literal rest
  | _ => none

def string? : Text → Option (Text × Text)
  | '"' :: '"' :: '"' :: rest => blockBasicFrom 0 (dropFirstBreak rest)
  | '\'' :: '\'' :: '\'' :: rest => blockLiteralFrom (dropFirstBreak rest)
  | text => quoted? text

end LineScript.Toml
