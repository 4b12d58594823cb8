import LineScript.Action

/-! Consoles and worlds. A console is a state machine that answers writes and
prompts; a world is the store of a script together with the state of its console.
Running an action answers its requests in order. -/
namespace LineScript

/-- Writing a line either succeeds or is refused with a message; a prompt may
also meet the end of input. -/
structure Console (σ : Type) where
  write : String → σ → Except String Unit × σ
  prompt : String → σ → Except String (Option String) × σ

structure World (σ : Type) where
  bindings : Bindings := {}
  heap : Heap := {}
  console : σ

namespace World

/-- Keeps the changed bindings, or none of them after a fault. -/
def rebind (world : World σ) : Except Fault Bindings → Except Fault Unit × World σ
  | .ok bindings => (.ok (), { world with bindings })
  | .error fault => (.error fault, world)

def answer (console : Console σ) (world : World σ) :
    (request : Request) → request.Answer × World σ
  | .readBindings => (world.bindings, world)
  | .readHeap => (world.heap, world)
  | .setVariable name value => world.rebind (world.bindings.setVariable name value)
  | .setConstant name value => world.rebind (world.bindings.setConstant name value)
  | .newArray items =>
    let (value, heap) := world.heap.newArray items
    (value, { world with heap })
  | .newObject entries =>
    let (value, heap) := world.heap.newObject entries
    (value, { world with heap })
  | .append cell item => ((), { world with heap := world.heap.append cell item })
  | .removeLast cell =>
    let (item, heap) := world.heap.removeLast cell
    (item, { world with heap })
  | .write line =>
    let (result, console) := console.write line world.console
    (result, { world with console })
  | .prompt message =>
    let (result, console) := console.prompt message world.console
    (result, { world with console })

end World

/-- Runs an action in a world. Whatever it changed stays changed after a fault. -/
def Action.run (console : Console σ) : Action ε α → World σ → Except ε α × World σ
  | .done value, world => (.ok value, world)
  | .fail error, world => (.error error, world)
  | .ask request next, world =>
    let (answer, world) := world.answer console request
    (next answer).run console world

/-- The state of a console in memory: input lines still to be given, what was
written and asked, and how many more writes and prompts are allowed. -/
structure Transcript where
  input : List String := []
  output : Array String := #[]
  prompts : Array String := #[]
  writesLeft : Option Nat := none
  promptsLeft : Option Nat := none

namespace Transcript

def write (line : String) (record : Transcript) : Except String Unit × Transcript :=
  if record.writesLeft = some 0 then (.error "write refused", record)
  else
    (.ok (), { record with
      output := record.output.push line
      writesLeft := record.writesLeft.map (· - 1) })

def prompt (message : String) (record : Transcript) :
    Except String (Option String) × Transcript :=
  if record.promptsLeft = some 0 then (.error "prompt refused", record)
  else
    (.ok record.input.head?, { record with
      input := record.input.tail
      prompts := record.prompts.push message
      promptsLeft := record.promptsLeft.map (· - 1) })

def console : Console Transcript := ⟨write, prompt⟩

end Transcript

end LineScript
