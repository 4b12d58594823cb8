import LineScript.CommandLine.Batch
import LineScript.CommandLine.Single

/-! The command line on a real machine. The files that a command needs are read
first; scripts then talk to the standard streams as they run. The name under
which the program is called decides between its two commands. -/
namespace LineScript.CommandLine

def readErrorOf : IO.Error → ReadError
  | .noFileOrDirectory .. => .notFound
  | .inappropriateType _ code _ => if code = 21 then .isDirectory else .notDirectory
  | error => .other error.toString

def readFromDisk (path : Text) : IO (Except ReadError Text) := do
  try return FileTree.decode (← IO.FS.readBinFile (String.ofList path))
  catch error => return .error (readErrorOf error)

def listFromDisk (path : Text) : IO (Except ReadError (List Text)) := do
  try
    let entries ← ((← IO.currentDir) / String.ofList path).readDir
    return .ok (entries.toList.map fun entry => entry.fileName.toList)
  catch error => return .error (readErrorOf error)

def configDirectory : IO (Option Text) := do
  match ← IO.getEnv "XDG_CONFIG_HOME", ← IO.getEnv "HOME" with
  | some directory, _ => return some directory.toList
  | none, some home => return some (Path.join home.toList ".config".toList)
  | none, none => return none

/-- A machine that shows the given files as they are now. -/
def snapshot (paths : List Text) (listing : Except ReadError (List Text)) : IO Host := do
  let directory ← configDirectory
  let paths := paths ++ (directory.map userConfig).toList
  let files ← paths.mapM fun path => return (String.ofList path, ← readFromDisk path)
  let readText (path : Text) := (Table.get? (String.ofList path) files).getD (.error .notFound)
  let isFile (path : Text) := match readText path with
    | .ok _ | .error .badEncoding => true
    | .error _ => false
  return ⟨readText, isFile, fun _ => listing, directory⟩

def silent : Console Unit := ⟨fun _ _ => (.ok (), ()), fun _ _ => (.ok none, ())⟩

/-- Answers writes and prompts on the standard streams and all else from the
store. -/
def answerOnTerminal (world : World Unit) : (request : Request) → IO (request.Answer × World Unit)
  | .write line => do
    IO.println line
    (← IO.getStdout).flush
    return (.ok (), world)
  | .prompt message => do
    IO.print message
    (← IO.getStdout).flush
    let line ← (← IO.getStdin).getLine
    return (.ok (if line.isEmpty then none else some line), world)
  | request => return world.answer silent request

def perform (world : World Unit) : Action ε α → IO (Except ε α)
  | .done value => return .ok value
  | .fail error => return .error error
  | .ask request next => do
    let (answer, world) ← answerOnTerminal world request
    perform world (next answer)

def runSingle (path : Text) (config : Option Text) : IO UInt32 := do
  let host ← snapshot (path :: config.toList) (.error .notDirectory)
  match ← perform { console := () } (Single.action host path config) with
  | .ok () => return 0
  | .error failure =>
    IO.eprint (Single.complaint failure)
    return 1

/-- Runs one script of a batch and tells whether it passed. -/
def runOfBatch (host : Host) (config : Config) (path : Text) : IO Bool := do
  (Batch.announcement path).forM IO.println
  match ← perform { console := () } (script host config path) with
  | .ok () =>
    IO.println (Batch.passed path)
    return true
  | .error failure =>
    IO.eprintln (Batch.failed path failure)
    return false

def runBatch (directory : Text) (config : Option Text) : IO UInt32 := do
  let listing ← listFromDisk directory
  let entries := (listing.toOption.getD []).map (Path.join directory)
  let host ← snapshot (entries ++ config.toList) listing
  match configFor host config, Batch.scripts host directory with
  | .error failure, _ | .ok _, .error failure =>
    IO.eprint (Batch.complaint failure)
    return 1
  | .ok _, .ok [] =>
    IO.println Batch.nothingFound
    return 0
  | .ok config, .ok paths =>
    let results ← paths.mapM (runOfBatch host config)
    Batch.closing.forM IO.println
    return if results.all id then 0 else 1

def follow (plan : Plan) (run : Text → Option Text → IO UInt32) : IO UInt32 := do
  match plan with
  | .inform text =>
    IO.print text
    return 0
  | .refuse message exit =>
    IO.eprint message
    return UInt32.ofNat exit
  | .run path config => run path config

end LineScript.CommandLine

open LineScript.CommandLine in
def main (arguments : List String) : IO UInt32 := do
  let arguments := arguments.map String.toList
  if (← IO.appPath).fileName == some "bhanai_examples" then
    follow (Batch.plan arguments) runBatch
  else follow (Single.plan arguments) runSingle
