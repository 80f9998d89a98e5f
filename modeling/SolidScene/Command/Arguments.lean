/-
This file reads the arguments of the command line. The first argument that is no
option names the command; options stand anywhere behind it, short ones also together
in one argument, and behind two dashes nothing is an option any more. An argument
list that does not fit the usage has no meaning at all.

The arguments are read from left to right into a record of what was collected so
far. An option with a value is either read with its value out of one argument, or it
is awaited: then the next argument is its value, unless it is written like an
option. No value may be given twice, none is empty, and the scene file is required.
A request for help ends the reading: the arguments behind it are not looked at.
-/

namespace SolidScene

/-- What the command line asks for. -/
inductive Command where
  /-- Generate the source text of a scene file. -/
  | build (scene : String) (output settings : Option String)
  /-- Report the kind and size of every node of a scene file. -/
  | report (scene : String) (asJson : Bool)
  /-- Show the usage. -/
  | help
deriving DecidableEq, Inhabited

namespace Command

/-- The commands that work on a scene file. -/
inductive Verb where
  | build
  | report
deriving DecidableEq, Inhabited

/-- The options that take a value: where to write, and the file with the settings. -/
inductive Setting where
  | output
  | settings
deriving DecidableEq

/-- What an option asks for. -/
inductive Meaning where
  /-- More messages on the way, which are not part of the result. -/
  | verbose
  /-- The report as JSON. -/
  | asJson
  | help
  /-- The value of the option follows. -/
  | takes (setting : Setting)
deriving DecidableEq

/-- The options of a command that are written as a word. -/
def longOption? (verb : Verb) (name : String) : Option Meaning :=
  if name = "verbose" then some .verbose
  else if name = "help" then some .help
  else match verb with
    | .build =>
      if name = "output" then some (.takes .output)
      else if name = "config" then some (.takes .settings)
      else none
    | .report => if name = "json" then some .asJson else none

/-- The options of a command that are written as a letter. -/
def shortOption? (verb : Verb) (letter : Char) : Option Meaning :=
  if letter = 'v' then some .verbose
  else if letter = 'h' then some .help
  else if letter = 'o' ∧ verb = .build then some (.takes .output)
  else none

/-- The arguments of a command that were read so far. -/
structure Collected where
  scene : Option String
  output : Option String
  settings : Option String
  asJson : Bool
  help : Bool
deriving Inhabited

/-- Nothing was read so far. -/
def Collected.none : Collected := ⟨.none, .none, .none, false, false⟩

/-- Add the scene file. There is only one, and its name is not empty. -/
def Collected.addScene (collected : Collected) (path : String) : Option Collected :=
  match collected.scene with
  | .none => if path = "" then .none else some { collected with scene := some path }
  | some _ => .none

/-- Add the value of an option. Each is given once, and its value is not empty. -/
def Collected.addSetting (collected : Collected) (setting : Setting) (value : String) :
    Option Collected :=
  if value = "" then .none
  else match setting with
    | .output =>
      if collected.output.isSome then .none else some { collected with output := some value }
    | .settings =>
      if collected.settings.isSome then .none else some { collected with settings := some value }

/-- Add an option without a value. The one for JSON is given once; the other two may be repeated. -/
def Collected.addMeaning (collected : Collected) : Meaning → Option Collected
  | .verbose => some collected
  | .help => some { collected with help := true }
  | .asJson => if collected.asJson then .none else some { collected with asJson := true }
  | .takes _ => .none

/-- Whether an argument is written like an option; a dash alone is not. -/
def isOption (argument : String) : Bool :=
  match argument.toList with
  | '-' :: _ :: _ => true
  | _ => false

/-- What an argument in short form asks for: letters without a value, and at the end perhaps
an option with a value, which may follow in the same argument. -/
def readLetters (verb : Verb) (collected : Collected) :
    List Char → Option (Collected × Option Setting)
  | [] => some (collected, none)
  | letter :: rest =>
    match shortOption? verb letter, rest with
    | some (.takes setting), [] => some (collected, some setting)
    | some (.takes setting), '=' :: value =>
      (collected.addSetting setting (String.ofList value)).map (·, none)
    | some (.takes setting), value =>
      (collected.addSetting setting (String.ofList value)).map (·, none)
    | some meaning, rest => do readLetters verb (← collected.addMeaning meaning) rest
    | none, _ => none

/-- What an argument in long form asks for; a value may follow behind an equals sign. -/
def readWord (verb : Verb) (collected : Collected) (characters : List Char) :
    Option (Collected × Option Setting) :=
  let name := String.ofList (characters.takeWhile (· ≠ '='))
  match longOption? verb name, characters.dropWhile (· ≠ '=') with
  | some (.takes setting), [] => some (collected, some setting)
  | some (.takes setting), _ :: value =>
    (collected.addSetting setting (String.ofList value)).map (·, none)
  | some meaning, [] => (collected.addMeaning meaning).map (·, none)
  | some _, _ :: _ => none
  | none, _ => none

/-- What an argument asks for, and the option whose value is still to come. -/
def readOne (verb : Verb) (collected : Collected) (argument : String) :
    Option (Collected × Option Setting) :=
  match argument.toList with
  | '-' :: '-' :: characters => readWord verb collected characters
  | '-' :: letter :: letters => readLetters verb collected (letter :: letters)
  | _ => (collected.addScene argument).map (·, none)

/-- The arguments behind the name of a command. `awaited` is an option whose value comes
next. -/
def readAll (verb : Verb) (collected : Collected) (awaited : Option Setting) :
    List String → Option Collected
  | [] => if awaited.isSome then none else some collected
  | argument :: rest =>
    match awaited with
    | some setting =>
      if isOption argument then none
      else do readAll verb (← collected.addSetting setting argument) none rest
    | none =>
      if argument = "--" then rest.foldlM Collected.addScene collected
      else do
        let (collected, awaited) ← readOne verb collected argument
        if collected.help then return collected
        readAll verb collected awaited rest

/-- The command of its arguments; the scene file is required. -/
def ofCollected? (verb : Verb) (collected : Collected) : Option Command :=
  if collected.help then some help
  else match verb, collected.scene with
    | .build, some scene => some (build scene collected.output collected.settings)
    | .report, some scene => some (report scene collected.asJson)
    | _, none => none

/-- Whether letters only ask for more messages. -/
def onlyVerbose (argument : String) : Bool :=
  argument = "--verbose" ||
    match argument.toList with
    | '-' :: letter :: letters => (letter :: letters).all (· = 'v')
    | _ => false

/-- Help is given about the whole usage or about one command. -/
def helpFor? : List String → Option Command
  | [] => some help
  | [topic] => if topic = "build" ∨ topic = "report" ∨ topic = "help" then some help else none
  | _ => none

/-- The command that an argument list asks for, if it fits the usage. -/
def ofArguments? : List String → Option Command
  | [] => none
  | argument :: rest =>
    if onlyVerbose argument then ofArguments? rest
    else if argument = "--help" ∨ argument = "-h" then some help
    else if argument = "help" then helpFor? rest
    else if argument = "build" then (readAll .build .none none rest).bind (ofCollected? .build)
    else if argument = "report" then (readAll .report .none none rest).bind (ofCollected? .report)
    else none

end Command

end SolidScene
