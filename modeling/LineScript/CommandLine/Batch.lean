import LineScript.CommandLine.Arguments
import LineScript.CommandLine.Load
import LineScript.CommandLine.Streams

/-! The command that runs every script of a directory and reports on each. -/
namespace LineScript.CommandLine.Batch

def help : String :=
  "Run every Bhanai script in a directory\n\n" ++
  "Usage: bhanai_examples [OPTIONS] [DIR]\n\n" ++
  "Arguments:\n" ++
  "  [DIR]  Directory holding the .bhn scripts [default: demos]\n\n" ++
  "Options:\n" ++
  "      --config <CONFIG>  Configuration file to use instead of the per-user config.toml\n" ++
  "  -h, --help             Print help\n"

def refusal : String :=
  "error: invalid arguments\n\n" ++
  "Usage: bhanai_examples [OPTIONS] [DIR]\n\n" ++
  "For more information, try '--help'.\n"

def defaultDirectory : Text := "demos".toList

def plan (arguments : List Text) : Plan :=
  match read ⟨false⟩ {} arguments with
  | .help => .inform help
  | .version | .refused => .refuse refusal 2
  | .run ⟨path, config⟩ => .run (path.getD defaultDirectory) config

/-- The scripts of a directory in the order of their names. -/
def scripts (host : Host) (directory : Text) : Except Failure (List Text) :=
  match host.list directory with
  | .error error => .error (.directoryUnreadable directory error)
  | .ok names =>
    let names := names.mergeSort fun a b => String.ofList a ≤ String.ofList b
    let paths := names.map (Path.join directory)
    .ok (paths.filter fun path => host.isFile path && Path.isSource path)

def separator : String := "------------------------------------------------------"

def announcement (path : Text) : List String :=
  [separator, "Testing " ++ String.ofList path ++ ":"]

def nameOf (path : Text) : String := String.ofList ((Path.fileName? path).getD [])

def passed (path : Text) : String := "Test passed for " ++ nameOf path ++ "."

def failed (path : Text) (failure : Failure) : String :=
  "Test failed for " ++ nameOf path ++ ": " ++ failure.message

def nothingFound : String := "No .bhn files found to test."

def closing : List String := [separator, "All tests completed."]

def complaint (failure : Failure) : String := "Error: " ++ failure.message ++ "\n"

structure Progress where
  streams : Streams
  failures : List String := []

/-- Runs one script in a world of its own; the streams go on. -/
def runOne (host : Host) (config : Config) (progress : Progress) (path : Text) : Progress :=
  let streams := (announcement path).foldl (fun streams line => streams.writeLine line)
    progress.streams
  match (script host config path).run Streams.console { console := streams } with
  | (.ok (), world) => { progress with streams := world.console.writeLine (passed path) }
  | (.error failure, world) =>
    { streams := world.console, failures := progress.failures ++ [failed path failure] }

def runAll (host : Host) (config : Config) (paths : List Text) (streams : Streams) : Progress :=
  if paths.isEmpty then { streams := streams.writeLine nothingFound }
  else
    let progress := paths.foldl (runOne host config) { streams }
    { progress with
      streams := closing.foldl (fun streams line => streams.writeLine line) progress.streams }

def run (host : Host) (input : List UInt8) (arguments : List Text) : Outcome :=
  match plan arguments with
  | .inform text => { stdout := text }
  | .refuse message exit => { stderr := message, exit }
  | .run directory config =>
    let found : Except Failure (Config × List Text) := do
      return (← configFor host config, ← scripts host directory)
    match found with
    | .ok (config, paths) =>
      let progress := runAll host config paths { input }
      { stdout := progress.streams.output
        stderr := String.join (progress.failures.map (· ++ "\n"))
        exit := if progress.failures.isEmpty then 0 else 1 }
    | .error failure => { stderr := complaint failure, exit := 1 }

end LineScript.CommandLine.Batch
