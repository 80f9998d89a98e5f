/-
This file writes JSON values: on one line without blanks, and with one item a line,
indented by two spaces. A document that is written holds the same value as before,
so strings escape only what they have to, the quote, the backslash and the control
characters.

A binary number is written by its shortest decimal, without an exponent while its
leading digit lies between `10 ^ (-5)` and `10 ^ 15`, and always with a point or an
exponent, so that it never looks like a whole number and is read as a binary one
again. JSON has no text for the numbers that are not finite; they become a null.
-/
import SolidScene.Json.Basic
import SolidScene.Binary64.Shortest

namespace SolidScene

/-! ### Numbers -/

/-- The sign of an exponent is always written. -/
def exponentText (exponent : Int) : String :=
  (if exponent < 0 then "e-" else "e+") ++ toString exponent.natAbs

/-- The data text of a finite number: its shortest decimal, with a point or an exponent. -/
def Binary64.dataText (number : Binary64) : String :=
  let decimal := number.shortest
  let sign := if number.negative then "-" else ""
  if -5 ≤ decimal.leadingExponent ∧ decimal.leadingExponent ≤ 15 then
    let (whole, fraction) := decimal.positional
    sign ++ String.ofList whole ++ "." ++ (if fraction = [] then "0" else String.ofList fraction)
  else
    let (significand, exponent) := decimal.scientific
    sign ++ String.ofList significand ++ exponentText exponent

namespace Json

/-- The text of a number. Only finite numbers have one; `null` stands for all others. -/
def Number.text : Number → String
  | .whole value => toString value
  | .binary value => if value.isFinite then value.dataText else "null"

/-! ### Strings -/

/-- A character inside a string: quotes, backslashes and control characters are escaped. -/
def escaped (character : Char) : List Char :=
  if character = '"' then ['\\', '"']
  else if character = '\\' then ['\\', '\\']
  else if character = '\x08' then ['\\', 'b']
  else if character = '\x0c' then ['\\', 'f']
  else if character = '\n' then ['\\', 'n']
  else if character = '\r' then ['\\', 'r']
  else if character = '\t' then ['\\', 't']
  else if character.toNat < 0x20 then
    ['\\', 'u', '0', '0', Nat.digitChar (character.toNat / 16),
      Nat.digitChar (character.toNat % 16)]
  else [character]

/-- The string of a text, between quotes. -/
def quoted (text : String) : String :=
  "\"" ++ String.ofList (text.toList.flatMap escaped) ++ "\""

/-! ### Values on one line -/

mutual

/-- The text of a value, without blanks. -/
def compact : Json → String
  | .null => "null"
  | .bool value => if value then "true" else "false"
  | .number value => value.text
  | .string value => quoted value
  | .array items => "[" ++ ",".intercalate (compactItems items) ++ "]"
  | .object entries => "\x7b" ++ ",".intercalate (compactEntries entries) ++ "\x7d"

/-- The texts of the items of an array. -/
def compactItems : List Json → List String
  | [] => []
  | item :: rest => compact item :: compactItems rest

/-- The texts of the entries of an object, each a name, a colon and a value. -/
def compactEntries : List (String × Json) → List String
  | [] => []
  | (name, value) :: rest => (quoted name ++ ":" ++ compact value) :: compactEntries rest

end

/-! ### Indented values -/

/-- Parts between brackets, one a line; nothing stands between the brackets of no parts. -/
def bracketed (opening closing indent : String) (parts : List String) : String :=
  if parts = [] then opening ++ closing
  else
    let next := indent ++ "  "
    opening ++ "\n" ++ next ++ (",\n" ++ next).intercalate parts ++ "\n" ++ indent ++ closing

mutual

/-- The text of a value with one item or entry a line, each indented by two more spaces. -/
def indented (indent : String) : Json → String
  | .array items => bracketed "[" "]" indent (indentedItems (indent ++ "  ") items)
  | .object entries =>
    bracketed "\x7b" "\x7d" indent (indentedEntries (indent ++ "  ") entries)
  | .null => "null"
  | .bool value => if value then "true" else "false"
  | .number value => value.text
  | .string value => quoted value

/-- The texts of the items of an array, at the indent that they stand at. -/
def indentedItems (indent : String) : List Json → List String
  | [] => []
  | item :: rest => indented indent item :: indentedItems indent rest

/-- The texts of the entries of an object, at the indent that they stand at. -/
def indentedEntries (indent : String) : List (String × Json) → List String
  | [] => []
  | (name, value) :: rest =>
    (quoted name ++ ": " ++ indented indent value) :: indentedEntries indent rest

end

end Json

end SolidScene
