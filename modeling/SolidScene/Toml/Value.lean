/-
This file holds the values of a settings document in TOML and how its lines build up
the root table. A table may be spread over several places of a document, but each
place must be allowed to add to it: a header may not define a table twice, and a
dotted key may only add to tables that dotted keys made.

Every table therefore remembers its origin, and an addition asks for it before it
adds anything. A document is a list of sections, a header with the pairs of key and
value below it, and the root table is what is left after every section was added in
turn; it is missing as soon as one of them may not be added. Entries keep the order
in which their names first occur, except that a table which was only passed moves
behind the others when it gets its own header.
-/
import SolidScene.Binary64.Basic

namespace SolidScene.Toml

/-- How a table came into a document, which decides what may be added to it later. -/
inductive Origin where
  /-- It was only named on the way to a table below it. -/
  | passed
  /-- It was made by a dotted key. -/
  | dotted
  /-- It has a header of its own. -/
  | headed
  /-- It is written between braces. -/
  | inlined
deriving DecidableEq, Inhabited

/-- A value of a settings document. -/
inductive Value where
  | string (text : String)
  | integer (value : Int)
  | float (value : Binary64)
  | boolean (value : Bool)
  /-- A date, a time or both. -/
  | moment
  | array (items : List Value)
  | table (origin : Origin) (entries : List (String × Value))
  /-- Tables with one header between double brackets each. -/
  | tables (items : List (List (String × Value)))
deriving Inhabited

/-- The entries of a table, in the order in which their names first occur. -/
abbrev Entries := List (String × Value)

/-- A change of a table: what is there already and how it came there. -/
abbrev Addition := Origin → Entries → Option Entries

/-- Whether a key may go through a table to one below it. -/
def mayPass (byDots : Bool) : Origin → Bool
  | .passed => true
  | .dotted => true
  | .headed => !byDots
  | .inlined => false

namespace Entries

/-- Give another value to a name that has one. -/
def replace (entries : Entries) (name : String) (value : Value) : Entries :=
  entries.map fun entry => if entry.1 = name then (name, value) else entry

/-- Add to the table at the end of a path of names. Missing tables on the way are made; of
tables with one name the last is meant. -/
def addAt (byDots : Bool) (add : Addition) : List String → Addition
  | [] => add
  | name :: path => fun _ entries =>
    match entries.lookup name with
    | none => do
      let origin := if byDots then .dotted else .passed
      let inner ← addAt byDots add path origin []
      return entries ++ [(name, .table origin inner)]
    | some (.table origin inner) => do
      guard (mayPass byDots origin)
      let inner ← addAt byDots add path origin inner
      return replace entries name (.table origin inner)
    | some (.tables items) => do
      let last ← items.getLast?
      let last ← addAt byDots add path .headed last
      return replace entries name (.tables (items.dropLast ++ [last]))
    | some _ => none

/-- Give a value to a name that has none. After a path of names, the table must be one that
dotted keys made. -/
def bind (afterPath : Bool) (name : String) (value : Value) : Addition := fun origin entries => do
  guard (afterPath = decide (origin = .dotted))
  guard ((entries.lookup name).isNone)
  return entries ++ [(name, value)]

/-- Give a value to a dotted key: the last part is the name, the parts before it are the path of
tables. -/
def assign (origin : Origin) (entries : Entries) (key : List String) (value : Value) :
    Option Entries := do
  let name ← key.getLast?
  addAt true (bind (1 < key.length) name value) key.dropLast origin entries

/-- Give values to dotted keys, one after the other. -/
def assignAll (origin : Origin) (entries : Entries) (pairs : List (List String × Value)) :
    Option Entries :=
  pairs.foldlM (fun entries pair => assign origin entries pair.1 pair.2) entries

end Entries

/-- What the lines behind a header add to. -/
inductive Header where
  /-- The lines in front of the first header. -/
  | root
  /-- A header between single brackets. -/
  | table (path : List String)
  /-- A header between double brackets. -/
  | element (path : List String)

/-- A header and the pairs of key and value on the lines below it. -/
structure Section where
  header : Header
  pairs : List (List String × Value)

/-- Define the table of a header. Only a table that was passed so far may be there already. -/
def defineTable (name : String) (pairs : List (List String × Value)) : Addition :=
  fun _ entries =>
    match entries.lookup name with
    | none => do
      let inner ← Entries.assignAll .headed [] pairs
      return entries ++ [(name, .table .headed inner)]
    | some (.table .passed inner) => do
      let inner ← Entries.assignAll .headed inner pairs
      return entries.filter (·.1 ≠ name) ++ [(name, .table .headed inner)]
    | some _ => none

/-- Add a table to the ones with one name. -/
def addElement (name : String) (pairs : List (List String × Value)) : Addition :=
  fun _ entries => do
    let inner ← Entries.assignAll .headed [] pairs
    match entries.lookup name with
    | none => return entries ++ [(name, .tables [inner])]
    | some (.tables items) => return Entries.replace entries name (.tables (items ++ [inner]))
    | some _ => none

/-- The root table after a section was added, if it may be. -/
def Section.addTo (part : Section) (entries : Entries) : Option Entries :=
  match part.header with
  | .root => Entries.assignAll .headed entries part.pairs
  | .table path => do
    let name ← path.getLast?
    Entries.addAt false (defineTable name part.pairs) path.dropLast .headed entries
  | .element path => do
    let name ← path.getLast?
    Entries.addAt false (addElement name part.pairs) path.dropLast .headed entries

/-- The root table of a document, if its sections can be added one after the other. -/
def rootOf? (sections : List Section) : Option Entries :=
  sections.foldlM (fun entries part => part.addTo entries) []

end SolidScene.Toml
