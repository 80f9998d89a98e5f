/-
This file runs commands. A command reads a scene file, mounts it into an empty
scene, and writes or shows what it was asked for. It stops at the first thing that
goes wrong.

Commands are programs over whatever gives access to files: the program proper runs
them on the files of the system, and on a disk that is a value they can be evaluated
and reasoned about. Building takes the name of the output from the command line
before the one from the settings, and shows the text when neither gives one.
Reporting always runs under the default settings, so it never writes a file.
-/
import SolidScene.Command.Arguments
import SolidScene.Document.Mount
import SolidScene.Scene.Report
import SolidScene.Workspace

namespace SolidScene.Command

/-- How a command ends: with a text to show, or with a message about what went wrong. -/
inductive Outcome where
  | done (text : String)
  | failed (message : String)
deriving DecidableEq, Inhabited

/-- The message of a document that holds no settings. -/
def settingsMessage (flaw : Settings.Flaw) : String :=
  match flaw.message? with
  | some message => "invalid configuration: " ++ message
  | none => "invalid configuration"

/-- The message of a file that holds no scene document; what is wrong with it is not said. -/
def sceneMessage : String := "invalid scene file"

/-- The usage of the program. -/
def usage : String :=
  "Usage:\n" ++
  "  build SCENE [-o|--output FILE] [--config FILE] [-v|--verbose]\n" ++
  "  report SCENE [--json] [-v|--verbose]"

variable {m : Type → Type} [Monad m] [FileAccess m]

/-- The settings in a file, or the default ones. -/
def loadSettings : Option String → m (Except String Settings)
  | none => return .ok .default
  | some path => do
    match ← FileAccess.read path with
    | .error fault => return .error (fileMessage path fault)
    | .ok text =>
      match Settings.read text with
      | .error flaw => return .error (settingsMessage flaw)
      | .ok settings => return .ok settings

/-- The scene document in a file. -/
def loadScene (path : String) : m (Except String Document) := do
  match ← FileAccess.read path with
  | .error _ => return .error ("failed to read " ++ path)
  | .ok text =>
    match Document.read text with
    | .error _ => return .error sceneMessage
    | .ok document => return .ok document

/-- Mount the scene of a file and commit it under settings. -/
def renderFile (settings : Settings) (path : String) :
    m (Except String (Option Receipt × Workspace)) := do
  match ← loadScene path with
  | .error message => return .error message
  | .ok document =>
    match ← (Workspace.ofSettings settings).render (Edit.mount document) with
    | (.error fault, _) => return .error fault.message
    | (.ok receipt, workspace) => return .ok (receipt, workspace)

/-- Generate the source text of a scene file, into a file or as the text to show. -/
def runBuild (scene : String) (output settings : Option String) : m Outcome := do
  match ← loadSettings settings with
  | .error message => return .failed message
  | .ok settings =>
    match ← renderFile { settings with output := output.or settings.output } scene with
    | .error message => return .failed message
    | .ok (some receipt, _) =>
      return .done ("Wrote " ++ receipt.path ++ " (" ++ toString receipt.size ++ " bytes)")
    | .ok (none, workspace) => return .done workspace.scene.text

/-- Report the kind and size of every node of a scene file. -/
def runReport (scene : String) (asJson : Bool) : m Outcome := do
  match ← renderFile .default scene with
  | .error message => return .failed message
  | .ok (_, workspace) =>
    let report := workspace.scene.report
    return .done (if asJson then report.toJson.indented "" else report.text)

/-- Run a command. Help only shows the usage. -/
def run : Command → m Outcome
  | build scene output settings => runBuild scene output settings
  | report scene asJson => runReport scene asJson
  | help => return .done usage

end SolidScene.Command
