import LineScript.CommandLine.FileTree
import LineScript.Config
import LineScript.Script.Run

/-! Reading settings and scripts from the machine that a command runs on. -/
namespace LineScript.CommandLine

structure Host where
  readText : Text → Except ReadError Text
  isFile : Text → Bool
  list : Text → Except ReadError (List Text)
  configDirectory : Option Text

def Host.ofTree (tree : FileTree) (configDirectory : Option Text) : Host :=
  ⟨tree.readText, tree.isFile, tree.list, configDirectory⟩

inductive Failure where
  | configUnreadable (path : Text) (error : ReadError)
  | configMalformed (path : Text)
  | directoryUnreadable (path : Text) (error : ReadError)
  | scriptUnreadable (path : Text) (error : ReadError)
  | script (error : ScriptError)

def Failure.message : Failure → String
  | configUnreadable path error =>
    "reading configuration from " ++ String.ofList path ++ ": " ++ error.message
  | configMalformed path => "parsing configuration " ++ String.ofList path
  | directoryUnreadable path error =>
    "reading example directory " ++ String.ofList path ++ ": " ++ error.message
  | scriptUnreadable path error =>
    "failed to read " ++ String.ofList path ++ ": " ++ error.message
  | script error => error.display

def userConfig (directory : Text) : Text := Path.join directory "bhanai/config.toml".toList

def loadConfig (host : Host) (path : Text) : Except Failure Config :=
  match host.readText path with
  | .error error => .error (.configUnreadable path error)
  | .ok text =>
    match Config.parse? text with
    | some config => .ok config
    | none => .error (.configMalformed path)

/-- Settings from the given file, which must exist, or else from the user's own
file, which need not. -/
def configFor (host : Host) (explicit : Option Text) : Except Failure Config :=
  match explicit with
  | some path => loadConfig host path
  | none =>
    match (host.configDirectory.map userConfig).filter host.isFile with
    | some path => loadConfig host path
    | none => .ok {}

def script (host : Host) (config : Config) (path : Text) : Action Failure Unit :=
  match host.readText path with
  | .error error => .fail (.scriptUnreadable path error)
  | .ok source => (Script.run .standard config.maxDepth source).mapError .script

structure Outcome where
  stdout : String := ""
  stderr : String := ""
  exit : Nat := 0

end LineScript.CommandLine
