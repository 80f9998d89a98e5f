/-
This file cuts the text of a JSON document into tokens. Where no token can be read,
the list ends with the flaw that was found there: the text stopped inside a token,
or a character stands where none is allowed.

A flaw is a token like any other, and not yet a failure. It only counts where the
token would have been allowed; a reader that expects a comma turns the document down
for what stands there, whatever would have come of it. For the same reason the list
tells a flawed string, which may be meant as a name, from all other values.

A text that ends too early and a text that is wrong are told apart throughout, since
the one may still be completed. Each scanner takes a budget of characters, which is
the length of the text, so that the recursion is on a number that goes down.
-/
import SolidScene.Json.Basic

namespace SolidScene.Json

/-- What can be wrong with the text of a document. -/
inductive Flaw where
  /-- The text ends where something has to follow. -/
  | ended
  /-- A character stands where the grammar does not allow it. -/
  | malformed
deriving DecidableEq, Inhabited

/-- A token of a document: punctuation, a value that is no array or object, or what stands in the
place of one. -/
inductive Token where
  | openArray
  | closeArray
  | openObject
  | closeObject
  | comma
  | colon
  /-- A null, a truth value, a number or a string. -/
  | scalar (value : Json)
  /-- A string begins here, but it is flawed. -/
  | flawedString (flaw : Flaw)
  /-- Another value begins here, but it is flawed; or no token begins here. -/
  | flawed (flaw : Flaw)
deriving Inhabited

/-- The flaw in front of the rest of the text, where something else was expected. -/
def flawAt : List Char → Flaw
  | [] => .ended
  | _ :: _ => .malformed

/-! ### Strings -/

/-- The number that hexadecimal digits of either case stand for. -/
def hexValue? (digits : List Char) : Option Nat :=
  digits.foldlM (fun value digit =>
    if digit.isDigit then some (16 * value + (digit.toNat - '0'.toNat))
    else if 'a' ≤ digit ∧ digit ≤ 'f' then some (16 * value + (digit.toNat - 'a'.toNat + 10))
    else if 'A' ≤ digit ∧ digit ≤ 'F' then some (16 * value + (digit.toNat - 'A'.toNat + 10))
    else none) 0

-- The empty sum is the zero of the core library, also where another library brings its own.
attribute [local instance (high)] Zero.ofOfNat0

/-- Four hexadecimal digits. Fewer than four bytes to the end of the text are an end inside the
string, whatever they are. -/
def scanHex (text : List Char) : Except Flaw (Nat × List Char) :=
  if ((text.take 4).map Char.utf8Size).sum < 4 then .error .ended
  else match hexValue? (text.take 4) with
    | some value => .ok (value, text.drop 4)
    | none => .error .malformed

/-- The second half of a pair of escapes for a character beyond the sixteen-bit range. -/
def scanLowSurrogate (high : Nat) : List Char → Except Flaw (Char × List Char)
  | '\\' :: 'u' :: rest => do
    let (low, rest) ← scanHex rest
    if 0xDC00 ≤ low ∧ low ≤ 0xDFFF then
      return (Char.ofNat (0x10000 + (high - 0xD800) * 0x400 + (low - 0xDC00)), rest)
    else throw .malformed
  | '\\' :: rest => throw (flawAt rest)
  | rest => throw (flawAt rest)

/-- The character behind a backslash. Half of a pair of escapes is no character. -/
def scanEscape : List Char → Except Flaw (Char × List Char)
  | '"' :: rest => return ('"', rest)
  | '\\' :: rest => return ('\\', rest)
  | '/' :: rest => return ('/', rest)
  | 'b' :: rest => return ('\x08', rest)
  | 'f' :: rest => return ('\x0c', rest)
  | 'n' :: rest => return ('\n', rest)
  | 'r' :: rest => return ('\r', rest)
  | 't' :: rest => return ('\t', rest)
  | 'u' :: rest => do
    let (unit, rest) ← scanHex rest
    if 0xDC00 ≤ unit ∧ unit ≤ 0xDFFF then throw .malformed
    else if 0xD800 ≤ unit ∧ unit ≤ 0xDBFF then scanLowSurrogate unit rest
    else return (Char.ofNat unit, rest)
  | rest => throw (flawAt rest)

/-- The characters of a string up to its closing quote. Each step uses up at least one of the
`budget` characters that are left. -/
def scanString (budget : Nat) (before text : List Char) : Except Flaw (String × List Char) :=
  match budget, text with
  | 0, _ => .error .ended
  | _, [] => .error .ended
  | _, '"' :: rest => .ok (String.ofList before.reverse, rest)
  | budget + 1, '\\' :: rest => do
    let (character, rest) ← scanEscape rest
    scanString budget (character :: before) rest
  | budget + 1, character :: rest =>
    if character.toNat < 0x20 then .error .malformed
    else scanString budget (character :: before) rest

/-! ### Numbers -/

/-- The longest run of digits in front of a text, and what follows. -/
def splitDigits (text : List Char) : List Char × List Char :=
  (text.takeWhile Char.isDigit, text.dropWhile Char.isDigit)

/-- The longest run of digits in front of a text, which has to have one. -/
def scanDigits (text : List Char) : Except Flaw (List Char × List Char) :=
  match splitDigits text with
  | ([], rest) => .error (flawAt rest)
  | found => .ok found

/-- The digits before the point: one zero, or a run that starts with another digit. -/
def scanWhole : List Char → Except Flaw (List Char × List Char)
  | '0' :: rest =>
    if (rest.head?.map Char.isDigit).getD false then .error .malformed else .ok (['0'], rest)
  | text => scanDigits text

/-- The digits behind a point, if there is a point. -/
def scanFraction : List Char → Except Flaw (Option (List Char) × List Char)
  | '.' :: rest => do
    let (digits, rest) ← scanDigits rest
    return (some digits, rest)
  | rest => .ok (none, rest)

/-- The exponent with its sign, if there is a mark for one. -/
def scanExponent : List Char → Except Flaw (Option Int × List Char)
  | mark :: rest =>
    if mark = 'e' ∨ mark = 'E' then do
      let (negative, rest) := match rest with
        | '-' :: rest => (true, rest)
        | '+' :: rest => (false, rest)
        | rest => (false, rest)
      let (digits, rest) ← scanDigits rest
      let magnitude : Int := Nat.ofDigitChars 10 digits 0
      return (some (if negative then -magnitude else magnitude), rest)
    else .ok (none, mark :: rest)
  | [] => .ok (none, [])

/-- A whole number that fits 64 bits stays whole, except for the negative zero; all others are
the nearest binary number, which a number out of range does not have. -/
def numberOf? (negative : Bool) (whole : List Char) (fraction : Option (List Char))
    (exponent : Option Int) : Option Json.Number :=
  let magnitude := Nat.ofDigitChars 10 whole 0
  if fraction = none ∧ exponent = none ∧ negative = false ∧ magnitude < 2 ^ 64 then
    some (.whole magnitude)
  else if fraction = none ∧ exponent = none ∧ negative = true ∧ 0 < magnitude ∧
      magnitude ≤ 2 ^ 63 then
    some (.whole (-magnitude))
  else
    let digits := whole ++ fraction.getD []
    (Binary64.ofDecimal? negative (Nat.ofDigitChars 10 digits 0)
      (exponent.getD 0 - (fraction.getD []).length)).map .binary

/-- A number in front of a text: a sign, whole digits, a fraction and an exponent. -/
def scanNumber (text : List Char) : Except Flaw (Json × List Char) := do
  let (negative, rest) := match text with
    | '-' :: rest => (true, rest)
    | rest => (false, rest)
  let (whole, rest) ← scanWhole rest
  let (fraction, rest) ← scanFraction rest
  let (exponent, rest) ← scanExponent rest
  match numberOf? negative whole fraction exponent with
  | some value => return (.number value, rest)
  | none => throw .malformed

/-! ### Tokens -/

/-- The rest of a word. A text that ends inside the word is unfinished. -/
def scanWord (value : Json) : List Char → List Char → Except Flaw (Json × List Char)
  | [], rest => .ok (value, rest)
  | _ :: _, [] => .error .ended
  | expected :: word, found :: rest =>
    if found = expected then scanWord value word rest else .error .malformed

/-- A token that carries a value, in a text of at most `budget` characters. -/
def scanScalar (budget : Nat) : List Char → Except Flaw (Json × List Char)
  | 'n' :: rest => scanWord .null ['u', 'l', 'l'] rest
  | 't' :: rest => scanWord (.bool true) ['r', 'u', 'e'] rest
  | 'f' :: rest => scanWord (.bool false) ['a', 'l', 's', 'e'] rest
  | '"' :: rest => do
    let (value, rest) ← scanString budget [] rest
    return (.string value, rest)
  | text => scanNumber text

/-- Whether a character may stand between two tokens. -/
def isBlank (character : Char) : Bool :=
  character = ' ' || character = '\n' || character = '\t' || character = '\r'

/-- The token that a character is by itself. -/
def punctuation? : Char → Option Token
  | '[' => some .openArray
  | ']' => some .closeArray
  | '\x7b' => some .openObject
  | '\x7d' => some .closeObject
  | ',' => some .comma
  | ':' => some .colon
  | _ => none

/-- The tokens of a text, of which each takes up at least one of the `budget` characters. -/
def tokensWithin (budget : Nat) (text : List Char) : List Token :=
  match budget, text with
  | 0, _ => []
  | _, [] => []
  | budget + 1, character :: rest =>
    if isBlank character then tokensWithin budget rest
    else match punctuation? character with
      | some token => token :: tokensWithin budget rest
      | none => match scanScalar (budget + 1) (character :: rest) with
        | .ok (value, rest) => .scalar value :: tokensWithin budget rest
        | .error flaw => [if character = '"' then .flawedString flaw else .flawed flaw]

/-- The tokens of a text, up to the first flaw. -/
def tokens (text : List Char) : List Token := tokensWithin text.length text

end SolidScene.Json
