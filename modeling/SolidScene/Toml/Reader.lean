/-
This file reads settings documents in TOML. A document that is not well formed has
no table; why is not said. Lists and tables between braces may be nested fewer than
80 deep, and a key may have fewer than 80 parts.

Reading goes in two steps. First the text becomes a list of lines, each of them a
header, a pair of key and value, or nothing; a list may go on over several lines of
text, but it is one line here, as is a string of several lines. Then the lines are
gathered into sections, whose tables are added up by the file on values. The depth
of nesting is a parameter of the reader of values, so that the reader ends by
recursion on the depth and the bound is the one of the documents.
-/
import SolidScene.Toml.Literal

namespace SolidScene.Toml

open Scan

/-- The bound on nested values and on the parts of a key. -/
def depthBound : Nat := 80

/-! ### Keys -/

/-- A character of a key without quotes. -/
def isBareKey (character : Char) : Bool :=
  character.isAlphanum || character = '_' || character = '-'

/-- A part of a key, bare or quoted, with blanks around it. -/
def keyPart : Scan String := do
  blanks
  let name ← basicString <|> literalString <|> (do return String.ofList (← run1 isBareKey))
  blanks
  return name

/-- A key: parts with points between them. -/
def key : Scan (List String) := do
  let parts ← separated keyPart (exactly '.')
  guard (parts ≠ [] ∧ parts.length < depthBound)
  return parts

/-! ### Values -/

/-- A list between brackets, over any number of lines. A comma may stand behind its last item. -/
def array (item : Scan Value) : Scan Value := do
  exactly '['
  let items ← separated
    (do
      blankLines
      let value ← item
      blankLines
      return value)
    (exactly ',')
  if items ≠ [] then
    let _ ← maybe (exactly ',')
  blankLines
  exactly ']'
  return .array items

/-- A table between braces, on one line. -/
def inlineTable (item : Scan Value) : Scan Value := do
  exactly '\x7b'
  let pairs ← separated
    (do
      let key ← key
      exactly '='
      blanks
      let value ← item
      blanks
      return (key, value))
    (exactly ',')
  blanks
  exactly '\x7d'
  match Entries.assignAll .inlined [] pairs with
  | some entries => return .table .inlined entries
  | none => failure

/-- A value in which at most `depth` lists and tables stand inside each other. -/
def value : (depth : Nat) → Scan Value
  | 0 => scalar
  | depth + 1 => array (value depth) <|> inlineTable (value depth) <|> scalar

/-! ### Lines -/

/-- A line of a document with all that belongs to it. -/
inductive Line where
  | header (header : Header)
  /-- A dotted key and its value. -/
  | pair (key : List String) (value : Value)
  /-- A line without a meaning. -/
  | blank

/-- A line, up to its end. What it begins with decides which alternatives are tried. -/
def line : Scan Line := do
  blanks
  match ← peek? with
  | some '[' =>
    (do
      word ['[', '[']
      let path ← key
      word [']', ']']
      lineEnd
      return .header (.element path))
    <|> (do
      exactly '['
      let path ← key
      exactly ']'
      lineEnd
      return .header (.table path))
  | some '#' => do
    comment
    newline <|> atEnd
    return .blank
  | some '\n' | some '\r' => do
    newline
    return .blank
  | _ => do
    let key ← key
    exactly '='
    blanks
    let found ← value (depthBound - 1)
    lineEnd
    return .pair key found

/-- The sections of a list of lines; `current` is the one that the first lines belong to. -/
def sectionsFrom (current : Section) : List Line → List Section
  | [] => [current]
  | .blank :: rest => sectionsFrom current rest
  | .pair key found :: rest =>
    sectionsFrom { current with pairs := current.pairs ++ [(key, found)] } rest
  | .header header :: rest => current :: sectionsFrom ⟨header, []⟩ rest

/-- A text without the mark of its byte order in front. -/
def withoutMark : List Char → List Char
  | '\ufeff' :: rest => rest
  | text => text

/-- The root table of a document, if it is well formed. -/
def read? (text : String) : Option Entries := do
  let (lines, rest) := manyFrom line (withoutMark text.toList)
  guard (rest.all isBlank)
  rootOf? (sectionsFrom ⟨.root, []⟩ lines)

end SolidScene.Toml
