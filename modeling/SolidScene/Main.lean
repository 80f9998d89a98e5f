/-
This file is the program: it runs the command that the command line asks for on the
files of the system. It ends with code one when the command fails, and with code two
when the arguments do not fit the usage.

It is the thin outer layer of the library. The files of the system become an
instance of the file access that commands are written against; all that happens here
is that an error of the system becomes a cause by its number, and that the outcome
of a command goes to one of the two streams. What the command computes is decided
elsewhere.
-/
import SolidScene.Command.Run

namespace SolidScene

/-- The cause with a number of the operating system. Causes without a case of their own keep the
number and the wording. -/
def faultOfNumber (number : Nat) (wording : String) : FileFault :=
  match number with
  | 2 => .notFound
  | 17 => .alreadyExists
  | 20 => .notADirectory
  | 21 => .isADirectory
  | 36 => .nameTooLong
  | _ => .other number wording

/-- The cause of an error. Errors without a number are kept by their text. -/
def faultOfError : IO.Error → FileFault
  | .alreadyExists _ number wording => faultOfNumber number.toNat wording
  | .noFileOrDirectory _ number wording => faultOfNumber number.toNat wording
  | .inappropriateType _ number wording => faultOfNumber number.toNat wording
  | .invalidArgument _ number wording => faultOfNumber number.toNat wording
  | .permissionDenied _ number wording => faultOfNumber number.toNat wording
  | .resourceExhausted _ number wording => faultOfNumber number.toNat wording
  | .otherError number wording => faultOfNumber number.toNat wording
  | error => .other 0 error.toString

/-- Run an action on files, and keep its error as a cause. -/
def attempt {α : Type} (path : String) (action : IO α) : IO (Except FileFault α) :=
  if path.toList.contains '\x00' then return .error .zeroInPath
  else do
    try return .ok (← action)
    catch error => return .error (faultOfError error)

/-- The text of a file; a file that holds no text counts as one that cannot be read. -/
def readText (path : String) : IO (Except FileFault String) := do
  match ← attempt path (IO.FS.readBinFile path) with
  | .error fault => return .error fault
  | .ok bytes =>
    match String.fromUTF8? bytes with
    | some text => return .ok text
    | none => return .error .notText

instance : FileAccess IO where
  read := readText
  makeDirectories path := attempt path (IO.FS.createDirAll path)
  write path text := attempt path (IO.FS.writeFile path text)

end SolidScene

open SolidScene in
/-- Run the program on its arguments. -/
def main (arguments : List String) : IO UInt32 := do
  match Command.ofArguments? arguments with
  | none =>
    IO.eprintln Command.usage
    return 2
  | some command =>
    match ← Command.run command with
    | .done text =>
      IO.println text
      return 0
    | .failed message =>
      IO.eprintln ("Error: " ++ message)
      return 1
