/-
This file reads JSON documents. The reader goes through the tokens once and keeps a
stack of the arrays and objects that are open; each token closes one, opens one or
adds a value to the innermost. What the grammar allows next is a value of its own,
`Awaited`, so that every step is one line of `readFrom`, and the recursion is on the
tokens that are left. At most 127 arrays and objects may be open at a time.

A token that is not allowed where it stands makes the document malformed, also when
the text ends inside the token: what it should have become is not looked at any
more. Entries are kept as they stand, with repeated names; `read` sorts them, while
the reader of scene documents looks at them first.
-/
import SolidScene.Json.Token

namespace SolidScene.Json

/-- An array or object that is not yet closed, with what it holds so far in reverse. -/
inductive Open where
  /-- An array with its items so far. -/
  | array (items : List Json)
  /-- An object that waits for the value of `name`. -/
  | object (entries : List (String × Json)) (name : String)

/-- What the grammar allows next. -/
inductive Awaited where
  /-- A value; or the end of an array that was just opened. -/
  | value (orClose : Bool)
  /-- The name of an entry; or the end of an object that was just opened. -/
  | name (entries : List (String × Json)) (orClose : Bool)
  /-- The colon behind the name of an entry. -/
  | colon (entries : List (String × Json)) (name : String)
  /-- What follows a finished value: a comma or the end of the innermost array or object. -/
  | next (finished : Json)

/-- How many arrays and objects may be open at once. -/
def maxDepth : Nat := 127

/-- A value and the tokens behind it, or the flaw before its end. -/
abbrev Outcome := Except Flaw (Json × List Token)

/-- Read on from a point inside a value: `stack` is open, the innermost first. -/
def readFrom (awaited : Awaited) (stack : List Open) (tokens : List Token) : Outcome :=
  match awaited, stack, tokens with
  | .next finished, [], tokens => .ok (finished, tokens)
  | _, _, [] => .error .ended
  | .value _, _, .flawed flaw :: _ => .error flaw
  | .value _, _, .flawedString flaw :: _ => .error flaw
  | .name _ _, _, .flawedString flaw :: _ => .error flaw
  | .value _, stack, .scalar found :: rest => readFrom (.next found) stack rest
  | .value _, stack, .openArray :: rest =>
    if maxDepth ≤ stack.length then .error .malformed
    else readFrom (.value true) (.array [] :: stack) rest
  | .value _, stack, .openObject :: rest =>
    if maxDepth ≤ stack.length then .error .malformed
    else readFrom (.name [] true) stack rest
  | .value true, .array items :: stack, .closeArray :: rest =>
    readFrom (.next (.array items.reverse)) stack rest
  | .name entries _, stack, .scalar (.string found) :: rest =>
    readFrom (.colon entries found) stack rest
  | .name entries true, stack, .closeObject :: rest =>
    readFrom (.next (.object entries.reverse)) stack rest
  | .colon entries name, stack, .colon :: rest =>
    readFrom (.value false) (.object entries name :: stack) rest
  | .next finished, .array items :: stack, .comma :: rest =>
    readFrom (.value false) (.array (finished :: items) :: stack) rest
  | .next finished, .array items :: stack, .closeArray :: rest =>
    readFrom (.next (.array (finished :: items).reverse)) stack rest
  | .next finished, .object entries name :: stack, .comma :: rest =>
    readFrom (.name ((name, finished) :: entries) false) stack rest
  | .next finished, .object entries name :: stack, .closeObject :: rest =>
    readFrom (.next (.object ((name, finished) :: entries).reverse)) stack rest
  | _, _, _ => .error .malformed
termination_by structural tokens

/-- The value in front of a text, with repeated names kept, and the tokens behind it. -/
def readFront (text : String) : Outcome :=
  readFrom (.value false) [] (Json.tokens text.toList)

/-- The canonical value of a document, with nothing behind it. -/
def read (text : String) : Except Flaw Json := do
  let (value, rest) ← readFront text
  if rest.isEmpty then return value.canonical else throw .malformed

end SolidScene.Json
