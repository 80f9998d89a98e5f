/-
This file says why a JSON value does not fit a field or a node, and words the
reasons. A reason keeps the value that was found and what was expected instead, so
the readers say what they looked for and the wording is in one place.

The messages name things as the users of the data format know them: the number type,
the variants of an enumeration, the number of elements. What is found in a message
is shown as texts are shown everywhere, and a list of words is told with as many of
them as there are.
-/
import SolidScene.Json.Writer
import SolidScene.Node.Kind
import SolidScene.Text.Shown

namespace SolidScene

/-- What a reader of typed nodes can expect. -/
inductive Expected where
  | number
  | boolean
  | text
  /-- A list with any number of items. -/
  | list
  /-- A list with a fixed number of items. -/
  | tuple (size : Nat)
  /-- An object with any entries. -/
  | bag
  /-- A word from a fixed list, by itself or as the only name of an object. -/
  | keyword
  /-- Nothing beside the word that is the only name of an object. -/
  | nothing
  /-- The tag of a kind. -/
  | kindName
  /-- An object with the name of its kind, or a list that starts with it. -/
  | node
  /-- The fields of a kind as a list. -/
  | fields (kind : Kind) (size : Nat)
deriving DecidableEq

/-- The types of arguments that can be written in several ways. -/
inductive Argument where
  | scalar
  | vec2
  | vec3
deriving DecidableEq

/-- Why a JSON value does not fit. -/
inductive Misfit where
  /-- A value of another type than the one expected. -/
  | wrongType (found : Json) (expected : Expected)
  /-- A list with fewer items than expected. -/
  | tooShort (length : Nat) (expected : Expected)
  /-- A list of which only the first `taken` items have a meaning. -/
  | tooLong (length : Nat) (taken : Nat)
  /-- An object in place of a word that does not have exactly one name. -/
  | notOneName
  /-- A field that may not be missing. -/
  | missing (field : String)
  /-- A word that is not in the list. -/
  | unknownWord (word : String) (words : List String)
  /-- A value that is none of the ways to write an argument. -/
  | noAlternative (argument : Argument)

/-! ### Wording -/

/-- A phrase between backticks. -/
def ticked (phrase : String) : String := "\x60" ++ phrase ++ "\x60"

/-- A number of elements, in words. -/
def elements (count : Nat) : String :=
  toString count ++ (if count = 1 then " element" else " elements")

/-- What a value is, with the value itself if it is no array or object. -/
def Json.description : Json → String
  | .null => "null"
  | .bool value => "boolean " ++ ticked (if value then "true" else "false")
  | .number (.whole value) => "integer " ++ ticked (toString value)
  | .number (.binary value) => "floating point " ++ ticked value.dataText
  | .string value => "string " ++ Text.shown value
  | .array _ => "sequence"
  | .object _ => "map"

/-- What was expected, in the words of a message. -/
def Expected.description : Expected → String
  | number => "f64"
  | boolean => "a boolean"
  | text => "a string"
  | list => "a sequence"
  | tuple size => "an array of length " ++ toString size
  | bag => "a map"
  | keyword => "string or map"
  | nothing => "unit"
  | kindName => "variant identifier"
  | node => "internally tagged enum NodeData"
  | fields kind size => "struct variant NodeData::" ++ kind.title ++ " with " ++ elements size

/-- The name of a type of arguments in a message. -/
def Argument.name : Argument → String
  | scalar => "ScadExpr"
  | vec2 => "Vec2"
  | vec3 => "Vec3"

/-- The words to choose from. -/
def oneOf : List String → String
  | [word] => ticked word
  | [first, second] => ticked first ++ " or " ++ ticked second
  | words => "one of " ++ ", ".intercalate (words.map ticked)

/-- The message of a misfit. -/
def Misfit.message : Misfit → String
  | wrongType found expected =>
    "invalid type: " ++ found.description ++ ", expected " ++ expected.description
  | tooShort length expected =>
    "invalid length " ++ toString length ++ ", expected " ++ expected.description
  | tooLong length taken =>
    "invalid length " ++ toString length ++ ", expected " ++ elements taken ++ " in sequence"
  | notOneName => "invalid value: map, expected map with a single key"
  | missing field => "missing field " ++ ticked field
  | unknownWord word words =>
    "unknown variant " ++ ticked word ++ ", expected " ++ oneOf words
  | noAlternative argument =>
    "data did not match any variant of untagged enum " ++ argument.name

end SolidScene
