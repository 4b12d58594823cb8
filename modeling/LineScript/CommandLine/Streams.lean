import LineScript.CommandLine.FileTree
import LineScript.Console

/-! Standard streams as a console. Prompts are written without a line break and
read one line of input; what is not valid UTF-8 is refused. -/
namespace LineScript

structure Streams where
  input : List UInt8
  output : String := ""

namespace Streams

def writeText (text : String) (streams : Streams) : Streams :=
  { streams with output := streams.output ++ text }

def writeLine (line : String) (streams : Streams) : Streams := streams.writeText (line ++ "\n")

/-- The bytes of a line with its line break, and the bytes after it. -/
def splitLine : List UInt8 → List UInt8 × List UInt8
  | [] => ([], [])
  | byte :: rest =>
    if byte = 10 then ([byte], rest)
    else
      let (line, rest) := splitLine rest
      (byte :: line, rest)

def readLine (streams : Streams) : Except String (Option String) × Streams :=
  let (line, rest) := splitLine streams.input
  let answer :=
    if line.isEmpty then .ok none
    else
      match String.fromUTF8? ⟨line.toArray⟩ with
      | some text => .ok (some text)
      | none => .error ReadError.badEncoding.message
  (answer, { streams with input := rest })

def console : Console Streams where
  write line streams := (.ok (), streams.writeLine line)
  prompt message streams := (streams.writeText message).readLine

end Streams

end LineScript
