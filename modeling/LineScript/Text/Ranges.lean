/-! Character classes given by a table of inclusive ranges of code points. -/
namespace LineScript.Text

def inRanges (table : Array (Nat × Nat)) (code : Nat) : Bool :=
  table.any fun (first, last) => first ≤ code && code ≤ last

end LineScript.Text
