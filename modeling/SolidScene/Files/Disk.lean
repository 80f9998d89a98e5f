/-
This file holds a disk as a value: which directories and files there are and what
the files contain. A path is followed name by name from the top; empty names and
single points stand for nothing, a double point for the directory above, and every
name before the last must lead to a directory.

The disk gives access to files without a system below it, so that commands can be
run in a proof. It keeps the causes of failure apart as a system does: a missing
name, a file where a directory is needed and the other way round, names and paths
that are too long, and a path with the character zero. Two things are shown about it
here, that what was put at a location is found there and that all other locations
are as before; the laws of file access that the commit relies on are derived from
them later.
-/
import SolidScene.Files.Access

namespace SolidScene

/-- The names that lead from the top of a disk to a file or directory, the first one first. -/
abbrev Location := List String

/-- What can be at a location. -/
inductive DiskItem where
  | directory
  | file (text : String)
deriving DecidableEq, Inhabited

/-- A disk: what is at each location. The top is always a directory. -/
structure Disk where
  /-- What is at which location; the first entry of a location counts. -/
  items : List (Location × DiskItem)
deriving Inhabited

namespace Disk

/-- The disk on which there is only the top. -/
def empty : Disk := ⟨[]⟩

/-- What is at a location, if anything is. -/
def item? (disk : Disk) : Location → Option DiskItem
  | [] => some .directory
  | name :: names => disk.items.lookup (name :: names)

/-- The disk with something at a location, in place of what was there. -/
def put (disk : Disk) (location : Location) (item : DiskItem) : Disk :=
  ⟨(location, item) :: disk.items.filter (·.1 ≠ location)⟩

theorem item?_put_self (disk : Disk) {location : Location} (below : location ≠ [])
    (item : DiskItem) : (disk.put location item).item? location = some item := by
  cases location with
  | nil => exact absurd rfl below
  | cons => simp [put, item?]

theorem item?_put_of_ne (disk : Disk) {location other : Location} (different : other ≠ location)
    (item : DiskItem) : (disk.put location item).item? other = disk.item? other := by
  cases other with
  | nil => rfl
  | cons name names =>
    have missed : (name :: names == location) = false := by simpa using different
    simp only [put, item?, List.lookup_cons, missed]
    generalize disk.items = items
    induction items with
    | nil => rfl
    | cons first rest inductionHypothesis =>
      obtain ⟨held, heldItem⟩ := first
      by_cases replaced : held = location
      · rw [List.filter_cons_of_neg (by simp [replaced]), inductionHypothesis, List.lookup_cons,
          replaced, missed]
      · rw [List.filter_cons_of_pos (by simp [replaced]), List.lookup_cons, List.lookup_cons,
          inductionHypothesis]

/-! ### Following paths -/

/-- The names of a path that stand for something. -/
def names (path : String) : List String :=
  (Path.names path).filter fun name => name ≠ "" ∧ name ≠ "."

/-- The bytes that a single name may have. -/
def maxName : Nat := 255

/-- The bytes that a whole path may have. -/
def maxPath : Nat := 4095

/-- What is wrong with a path whatever is on the disk. -/
def badPath? (path : String) : Option FileFault :=
  if path.toList.contains '\x00' then some .zeroInPath
  else if path = "" then some .notFound
  else if maxPath < path.utf8ByteSize then some .nameTooLong
  else none

/-- A location below a directory, whether something is there or not. -/
def below (location : Location) (name : String) : Except FileFault Location :=
  if name = ".." then .ok location.dropLast
  else if maxName < name.utf8ByteSize then .error .nameTooLong
  else .ok (location ++ [name])

/-- The directory to which names lead from a directory. -/
def enter (disk : Disk) (start : Location) : List String → Except FileFault Location
  | [] => .ok start
  | name :: rest => do
    let location ← below start name
    match disk.item? location with
    | some .directory => enter disk location rest
    | some (.file _) => throw .notADirectory
    | none => throw .notFound

/-- Whether a path ends with a separator, so that it can only lead to a directory. -/
def endsWithSeparator (path : String) : Bool := path.toList.getLast? = some '/'

/-- Whether the last part of a path is a single or a double point, so that the path can only
lead to a directory. -/
def endsWithPoints (path : String) : Bool :=
  match (Path.names path).reverse.find? (· ≠ "") with
  | some last => last = "." || last = ".."
  | none => false

/-- The directory in which a path ends, and the name there; a path to the directory itself has
no name. -/
def locate (disk : Disk) (path : String) : Except FileFault (Location × Option String) :=
  match badPath? path with
  | some fault => .error fault
  | none =>
    let names := names path
    if endsWithPoints path then (disk.enter [] names).map (·, none)
    else (disk.enter [] names.dropLast).map (·, names.getLast?)

/-! ### Reading and writing -/

/-- The text of a file. -/
def textAt (disk : Disk) (path : String) : Except FileFault String := do
  match ← disk.locate path with
  | (_, none) => throw .isADirectory
  | (directory, some name) =>
    match disk.item? (← below directory name) with
    | none => throw .notFound
    | some .directory => throw .isADirectory
    | some (.file text) => if endsWithSeparator path then throw .notADirectory else return text

/-- The disk after a text was written. A path that ends with a separator asks for a directory,
whatever is there. -/
def withText (disk : Disk) (path text : String) : Except FileFault Disk := do
  match ← disk.locate path with
  | (_, none) => throw .isADirectory
  | (directory, some name) =>
    if endsWithSeparator path then throw .isADirectory
    let location ← below directory name
    match disk.item? location with
    | some .directory => throw .isADirectory
    | _ => return disk.put location (.file text)

/-- The disk after directories were made from a location on, and whether that went through to
the last name. What was made before a fault stays. -/
def makeBelow (disk : Disk) (start : Location) : List String → Except FileFault Unit × Disk
  | [] => (.ok (), disk)
  | name :: rest =>
    match below start name with
    | .error fault => (.error fault, disk)
    | .ok location =>
      match disk.item? location with
      | some .directory => makeBelow disk location rest
      | some (.file _) => (.error (if rest = [] then .alreadyExists else .notADirectory), disk)
      | none => makeBelow (disk.put location .directory) location rest

/-- Make a directory and the missing ones above it. -/
def makeDirectories (disk : Disk) (path : String) : Except FileFault Unit × Disk :=
  if path = "" then (.ok (), disk)
  else match badPath? path with
    | some fault => (.error fault, disk)
    | none => disk.makeBelow [] (names path)

/-- Programs that only change a disk. -/
instance : FileAccess (StateM Disk) where
  read path := do return (← get).textAt path
  makeDirectories path := modifyGet fun disk => disk.makeDirectories path
  write path text := modifyGet fun disk =>
    match disk.withText path text with
    | .ok disk => (.ok (), disk)
    | .error fault => (.error fault, disk)

end Disk

end SolidScene
