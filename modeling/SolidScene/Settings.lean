/-
This file reads the settings of a scene: where its source text is written, and
whether missing directories are made for it. Settings are a table with these two
names; the names are looked at in the order of the document, and the first one that
is not a setting or has a value of another type is reported.

A document may leave out either of the names and then has the default for it: no
file, and directories are made. What is reported is worded as the value was found,
so a number is shown with its digits and a string with its escapes, while lists,
tables and dates are only called by what they are. For a document that is not well
formed nothing is said beyond that it is none.
-/
import SolidScene.Node.Misfit
import SolidScene.Toml.Reader

namespace SolidScene

/-- Where and how the source text of a scene is written. -/
structure Settings where
  /-- The file that is written; nothing is written without one. -/
  output : Option String
  /-- Whether missing directories of the file are made. -/
  makeDirectories : Bool
deriving DecidableEq, Inhabited

namespace Settings

/-- The settings of an empty document. -/
def default : Settings := ⟨none, true⟩

/-- The names of the settings. -/
def names : List String := ["output", "create_dirs"]

/-- Why a document holds no settings. -/
inductive Flaw where
  /-- The document is not well formed. -/
  | malformed
  /-- A name is none of the settings. -/
  | unknown (name : String)
  /-- A file is given as something else than a string. -/
  | notAPath (found : Toml.Value)
  /-- A choice is given as something else than true or false. -/
  | notAChoice (found : Toml.Value)

/-- A fraction in a message: all its digits, with a point. -/
def fractionText (value : Binary64) : String :=
  let sign := if value.negative then "-" else ""
  if value.isNaN then "NaN"
  else if value.isFinite then
    let (whole, fraction) := value.shortest.positional
    sign ++ String.ofList whole ++ "." ++ (if fraction = [] then "0" else String.ofList fraction)
  else sign ++ "inf"

/-- What a value is called in a message about its type. -/
def description : Toml.Value → String
  | .string text => "string " ++ Text.shown text
  | .integer value => "integer " ++ ticked (toString value)
  | .float value => "floating point " ++ ticked (fractionText value)
  | .boolean value => "boolean " ++ ticked (if value then "true" else "false")
  | .array _ | .tables _ => "sequence"
  | .moment | .table .. => "map"

/-- The message of a flaw; a document that is not well formed has none of its own. -/
def Flaw.message? : Flaw → Option String
  | malformed => none
  | unknown name => some ("unknown field " ++ ticked name ++ ", expected " ++ oneOf names)
  | notAPath found => some ("invalid type: " ++ description found ++ ", expected path string")
  | notAChoice found => some ("invalid type: " ++ description found ++ ", expected a boolean")

/-- Settings changed by an entry. -/
def change (settings : Settings) (name : String) (value : Toml.Value) : Except Flaw Settings :=
  if name = "output" then
    match value with
    | .string path => .ok { settings with output := some path }
    | found => .error (.notAPath found)
  else if name = "create_dirs" then
    match value with
    | .boolean choice => .ok { settings with makeDirectories := choice }
    | found => .error (.notAChoice found)
  else .error (.unknown name)

/-- The settings of a document. -/
def read (text : String) : Except Flaw Settings :=
  match Toml.read? text with
  | none => .error .malformed
  | some entries =>
    entries.foldlM (fun settings entry => settings.change entry.1 entry.2) default

end Settings

end SolidScene
