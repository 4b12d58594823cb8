/-! Texts are lists of characters. Blank characters are those with the Unicode
property White_Space; trimming, word counting and indentation all use this one
class. -/
namespace LineScript

abbrev Text := List Char

namespace Text

def isBlank (c : Char) : Bool :=
  let n := c.toNat
  (0x09 ≤ n && n ≤ 0x0D) || n == 0x20 || n == 0x85 || n == 0xA0 || n == 0x1680 ||
    (0x2000 ≤ n && n ≤ 0x200A) || n == 0x2028 || n == 0x2029 || n == 0x202F ||
    n == 0x205F || n == 0x3000

def trimStart (text : Text) : Text := text.dropWhile isBlank

def trimEnd (text : Text) : Text := (text.reverse.dropWhile isBlank).reverse

def trim (text : Text) : Text := trimEnd (trimStart text)

def isAllBlank (text : Text) : Bool := text.all isBlank

/-- The number of leading blank characters. -/
def indentation (text : Text) : Nat := (text.takeWhile isBlank).length

/-- Counts maximal runs of non-blank characters; `inside` tells whether the
character before `text` belongs to such a run. -/
def wordCountFrom (inside : Bool) : Text → Nat
  | [] => 0
  | c :: rest =>
    if isBlank c then wordCountFrom false rest
    else if inside then wordCountFrom true rest
    else wordCountFrom true rest + 1

def wordCount (text : Text) : Nat := wordCountFrom false text

/-- The number of bytes of the UTF-8 form, in which scanner positions are counted. -/
def byteSize : Text → Nat
  | [] => 0
  | c :: rest => c.utf8Size + byteSize rest

end Text

end LineScript
