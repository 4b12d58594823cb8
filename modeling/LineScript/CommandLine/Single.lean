import LineScript.CommandLine.Arguments
import LineScript.CommandLine.Load
import LineScript.CommandLine.Streams

/-! The command that runs one script. -/
namespace LineScript.CommandLine.Single

def usage : String := "Usage: chalau <file.bhn>\n"

def help : String :=
  "Run a Bhanai script\n\n" ++
  "Usage: chalau [OPTIONS] <SCRIPT>\n\n" ++
  "Arguments:\n" ++
  "  <SCRIPT>  Path to the .bhn script to execute\n\n" ++
  "Options:\n" ++
  "      --config <CONFIG>  Configuration file to use instead of the per-user config.toml\n" ++
  "  -h, --help             Print help\n" ++
  "  -V, --version          Print version\n"

def version : String := "chalau 0.1.0\n"

def completed : String := "Execution completed successfully."

def plan (arguments : List Text) : Plan :=
  match read ⟨true⟩ {} arguments with
  | .help => .inform help
  | .version => .inform version
  | .run ⟨some path, config⟩ =>
    if Path.isSource path then .run path config
    else .refuse "Error: Please provide a valid .bhn file.\n" 1
  | .run ⟨none, _⟩ | .refused => .refuse usage 1

/-- Loads the settings, runs the script and reports success if the settings ask
for it. -/
def action (host : Host) (path : Text) (config : Option Text) : Action Failure Unit := do
  let config ← Action.ofExcept (configFor host config)
  script host config path
  if config.completionMessage then
    let _ ← Action.request (.write completed)

def complaint (failure : Failure) : String := "Runtime Error: " ++ failure.message ++ "\n"

def run (host : Host) (input : List UInt8) (arguments : List Text) : Outcome :=
  match plan arguments with
  | .inform text => { stdout := text }
  | .refuse message exit => { stderr := message, exit }
  | .run path config =>
    match (action host path config).run Streams.console { console := { input } } with
    | (.ok (), world) => { stdout := world.console.output }
    | (.error failure, world) =>
      { stdout := world.console.output, stderr := complaint failure, exit := 1 }

end LineScript.CommandLine.Single
