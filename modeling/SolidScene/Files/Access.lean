/-
This file says what the program needs from files: reading a text, making a directory
with everything above it, and writing a text. Why one of these can fail is a cause
of its own, with the wording of the operating system.

Paths are handled as text here. The only thing that is computed from one is the path
of the directory that holds a file, so that the directory can be made first: it is
spelled as in the path, without the last name and without the empty names and single
points behind it. Whether a path leads anywhere is for those who implement the
access to say; the program does so for the system, and a disk that is a value for
the proofs.
-/

namespace SolidScene

/-- Why files could not be read or written, or a directory not be made. -/
inductive FileFault where
  | notFound
  | alreadyExists
  | notADirectory
  | isADirectory
  | nameTooLong
  /-- No path contains the character with the code zero. -/
  | zeroInPath
  /-- The bytes of a file are no text. -/
  | notText
  /-- Another cause, with its number and its wording. -/
  | other (number : Nat) (wording : String)
deriving DecidableEq, Inhabited

/-- A cause as the operating system words it, with its number. -/
def FileFault.numbered (wording : String) (number : Nat) : String :=
  wording ++ " (os error " ++ toString number ++ ")"

/-- The wording of a cause, in messages of the program. -/
def FileFault.message : FileFault → String
  | notFound => numbered "No such file or directory" 2
  | alreadyExists => numbered "File exists" 17
  | notADirectory => numbered "Not a directory" 20
  | isADirectory => numbered "Is a directory" 21
  | nameTooLong => numbered "File name too long" 36
  | zeroInPath => "file name contained an unexpected NUL byte"
  | notText => "stream did not contain valid UTF-8"
  | other number wording => numbered wording number

/-- Where files are read and written. -/
class FileAccess (m : Type → Type) where
  /-- The text of a file. -/
  read : String → m (Except FileFault String)
  /-- Make a directory, and the ones above it that are missing. -/
  makeDirectories : String → m (Except FileFault Unit)
  /-- Write a file, in place of the one that is there already. -/
  write : String → String → m (Except FileFault Unit)

/-! ### Paths -/

namespace Path

/-- The names of a path, also the empty ones. -/
def names (path : String) : List String := (path.toList.splitOn '/').map String.ofList

/-- The last name of a path and the names behind it that stand for nothing: an empty name and
a single point, unless it is the first. -/
def dropIdle (names : List String) : List String :=
  (names.reverse.dropWhile fun name => name = "" || name = ".").reverse

/-- The path of the directory that holds what a path leads to, spelled as in the path. It is
empty for a name alone. -/
def directory? (path : String) : Option String :=
  match names path with
  | [] => none
  | first :: rest =>
    match dropIdle rest with
    | [] => if first = "" then none else some ""
    | names =>
      match dropIdle names.dropLast with
      | [] => some (if first = "" then "/" else first)
      | names => some ("/".intercalate (first :: names))

end Path

end SolidScene
