/-
This file ties a scene to the file that its source text is written to. A commit
frees the nodes that cannot be reached and then writes the text; a rendering pass
edits the scene and, if every edit succeeds, commits it.

A commit has three steps that can fail or be skipped: it makes the directory of the
file, if the settings ask for it and the path names one, it writes the text, and it
answers with the path and the number of bytes. The scene of the workspace is the
pruned one afterwards, also when writing failed. A rendering pass that fails never
comes to the commit: it leaves the scene as the failing edit left it, and no file is
touched.
-/
import SolidScene.Files.Access
import SolidScene.Scene.Edit
import SolidScene.Settings
import SolidScene.Source.Generate

namespace SolidScene

/-- A scene and where it is written to. -/
structure Workspace where
  /-- Whether and how the source text is written. -/
  settings : Settings
  scene : Scene
deriving Inhabited

/-- A file that a commit has written. -/
structure Receipt where
  path : String
  /-- The number of bytes of the text. -/
  size : Nat
deriving DecidableEq, Inhabited

/-- Why a rendering pass did not end with a commit. -/
inductive RenderFault where
  /-- An edit of the pass failed, so that nothing was committed. -/
  | edit (fault : Fault)
  /-- The file, or the directory for it, could not be written. -/
  | file (path : String) (fault : FileFault)
deriving DecidableEq, Inhabited

/-- The message of a file that could not be written. -/
def fileMessage (path : String) (fault : FileFault) : String :=
  "failed to write " ++ path ++ ": " ++ fault.message

/-- The message of a fault: that of the edit, or that of the path that could not be written. -/
def RenderFault.message : RenderFault → String
  | edit fault => fault.message
  | file path fault => fileMessage path fault

namespace Workspace

variable {m : Type → Type} [Monad m] [FileAccess m]

/-- The workspace of an empty scene. -/
def ofSettings (settings : Settings) : Workspace := ⟨settings, .empty⟩

/-- Make the directory of a file, if the settings say so and the path names one. -/
def makeDirectory (settings : Settings) (path : String) : m (Except RenderFault Unit) := do
  match settings.makeDirectories, Path.directory? path with
  | true, some directory =>
    if directory = "" then return .ok ()
    else
      match ← FileAccess.makeDirectories directory with
      | .ok () => return .ok ()
      | .error fault => return .error (.file directory fault)
  | _, _ => return .ok ()

/-- Write a text, with its directory if need be. -/
def deliver (settings : Settings) (path text : String) : m (Except RenderFault Receipt) := do
  match ← makeDirectory settings path with
  | .error fault => return .error fault
  | .ok () =>
    match ← FileAccess.write path text with
    | .ok () => return .ok ⟨path, text.utf8ByteSize⟩
    | .error fault => return .error (.file path fault)

/-- Free the nodes that cannot be reached, and write the scene if it has a file. -/
def commit (workspace : Workspace) :
    m (Except RenderFault (Option Receipt) × Workspace) := do
  let scene := workspace.scene.pruned
  let after := { workspace with scene }
  match workspace.settings.output with
  | none => return (.ok none, after)
  | some path =>
    match ← deliver workspace.settings path scene.text with
    | .ok receipt => return (.ok (some receipt), after)
    | .error fault => return (.error fault, after)

/-- Edit the scene, and commit it unless an edit fails. -/
def render (workspace : Workspace) (pass : Edit Unit) :
    m (Except RenderFault (Option Receipt) × Workspace) :=
  match pass.run workspace.scene with
  | .ok _ scene => commit { workspace with scene }
  | .error fault scene => return (.error (.edit fault), { workspace with scene })

end Workspace

end SolidScene
