/-
This file reads the values of settings documents that do not contain others: strings
in their four forms, whole numbers, fractions, truth values, dates and times.

The alternatives of a value are tried in an order in which none hides another: the
forms of strings with three marks before those with one, dates before fractions and
fractions before whole numbers, since each of these can begin like the next. Numbers
are checked against their range as they are read. Of a date or a time only the form
is checked, since no setting takes one and a message does not show it.
-/
import SolidScene.Binary64.Nearest
import SolidScene.Toml.Scan
import SolidScene.Toml.Value

namespace SolidScene.Toml

open Scan

/-! ### Strings -/

/-- A digit of base sixteen, in small or capital letters. -/
def isHexDigit (character : Char) : Bool :=
  character.isDigit || ('a' ≤ character && character ≤ 'f') ||
    ('A' ≤ character && character ≤ 'F')

/-- The value of a digit in any base up to sixteen. -/
def digitValue (digit : Char) : Nat :=
  if digit.isDigit then digit.toNat - '0'.toNat
  else if 'a' ≤ digit then digit.toNat - 'a'.toNat + 10
  else digit.toNat - 'A'.toNat + 10

/-- The number that digits of a base write. -/
def numberIn (base : Nat) (digits : List Char) : Nat :=
  digits.foldl (fun value digit => base * value + digitValue digit) 0

/-- A character by its code point in a given number of digits. -/
def codePoint (count : Nat) : Scan Char := do
  let digits ← several count isHexDigit
  let code := numberIn 16 digits
  guard code.isValidChar
  return Char.ofNat code

/-- The character that an escape stands for. -/
def escape : Scan Char := do
  exactly '\\'
  match ← one fun _ => true with
  | 'b' => return '\x08'
  | 't' => return '\t'
  | 'n' => return '\n'
  | 'f' => return '\x0c'
  | 'r' => return '\r'
  | '"' => return '"'
  | '\\' => return '\\'
  | 'u' => codePoint 4
  | 'U' => codePoint 8
  | _ => failure

/-- A character that stands for itself inside a string with escapes. -/
def isUnescaped (character : Char) : Bool :=
  isPlain character && character ≠ '"' && character ≠ '\\'

/-- A character that stands for itself inside a string without escapes. -/
def isLiteral (character : Char) : Bool := isPlain character && character ≠ '\''

/-- A string on one line, with escapes. -/
def basicString : Scan String := do
  exactly '"'
  let characters ← many (one isUnescaped <|> escape)
  exactly '"'
  return String.ofList characters

/-- A string on one line in which every character stands for itself. -/
def literalString : Scan String := do
  exactly '\''
  let characters ← run isLiteral
  exactly '\''
  return String.ofList characters

/-- A backslash at the end of a line stands for nothing, with all blanks and line ends
behind it. -/
def joinedLines : Scan (List Char) := do
  exactly '\\'
  blanks
  newline
  let _ ← many (newline <|> do let _ ← run1 isBlank)
  return []

/-- The marks of a string of several lines, up to its end: marks that do not end the string
belong to it, and of five at its end the first two. -/
def marksWithin (mark : Char) : Scan (List Char) := fun text =>
  let marks := text.takeWhile (· = mark)
  if marks = [] then none
  else if marks.length < 3 then some (marks, text.drop marks.length)
  else none

/-- The marks that end a string of several lines, and before them at most two that belong
to it. -/
def marksAtEnd (mark : Char) : Scan (List Char) := do
  let marks ← run1 (· = mark)
  guard (3 ≤ marks.length ∧ marks.length ≤ 5)
  return marks.drop 3

/-- A string of several lines between threefold marks. A line end right behind the first marks
does not belong to it. -/
def multilineString (mark : Char) (piece : Scan (List Char)) : Scan String := do
  word [mark, mark, mark]
  let _ ← maybe newline
  let pieces ← many (piece <|> (do newline; return ['\n']) <|> marksWithin mark)
  let last ← marksAtEnd mark
  return String.ofList (pieces.flatten ++ last)

/-- A string in one of the four forms. -/
def string : Scan String :=
  multilineString '"'
      ((do return [← one isUnescaped]) <|> joinedLines <|> (do return [← escape]))
    <|> multilineString '\'' (do return [← one isLiteral])
    <|> basicString <|> literalString

/-! ### Numbers -/

/-- Digits of a class, with underscores between them. -/
def digitRun (isDigit : Char → Bool) : Scan (List Char) := do
  let first ← one isDigit
  let rest ← many ((one isDigit) <|> (do exactly '_'; one isDigit))
  return first :: rest

/-- The sign of a number; true stands for minus. -/
def sign : Scan Bool := do
  match ← maybe (one fun character => character = '+' || character = '-') with
  | some '-' => return true
  | _ => return false

/-- The digits before the point: no further digit follows a zero at the front. -/
def wholeDigits : Scan (List Char) := do
  let digits ← digitRun Char.isDigit
  guard (digits.head? ≠ some '0' ∨ digits.length = 1)
  return digits

/-- A whole number in a base with a letter of its own, without a sign. -/
def basedInteger (letter : Char) (base : Nat) (isDigit : Char → Bool) : Scan Nat := do
  word ['0', letter]
  return numberIn base (← digitRun isDigit)

/-- A whole number, which must fit in 64 bits with a sign. -/
def integer : Scan Int := do
  let value ← (do
      let magnitude ← basedInteger 'x' 16 isHexDigit
        <|> basedInteger 'o' 8 (fun digit => '0' ≤ digit && digit ≤ '7')
        <|> basedInteger 'b' 2 (fun digit => digit = '0' || digit = '1')
      return (magnitude : Int))
    <|> (do
      let negative ← sign
      let magnitude : Int := Nat.ofDigitChars 10 (← wholeDigits) 0
      return if negative then -magnitude else magnitude)
  guard (-(2 ^ 63) ≤ value ∧ value < 2 ^ 63)
  return value

/-- The exponent of a fraction. Zeros may stand in front of its digits. -/
def exponent : Scan Int := do
  let _ ← one fun mark => mark = 'e' || mark = 'E'
  let negative ← sign
  let magnitude : Int := Nat.ofDigitChars 10 (← digitRun Char.isDigit) 0
  return if negative then -magnitude else magnitude

/-- A fraction, with decimals or an exponent. Beyond the largest number it is an infinity, which
is allowed below zero only. -/
def fraction : Scan Binary64 := do
  let negative ← sign
  let whole ← wholeDigits
  let decimals ← maybe (do exactly '.'; digitRun Char.isDigit)
  let power ← maybe exponent
  guard (decimals.isSome ∨ power.isSome)
  let digits := whole ++ decimals.getD []
  match Binary64.ofDecimal? negative (Nat.ofDigitChars 10 digits 0)
      (power.getD 0 - (decimals.getD []).length) with
  | some value => return value
  | none => if negative then return .infinity true else failure

/-- The words for infinities and for what is not a number. -/
def specialFraction : Scan Binary64 := do
  let negative ← sign
  (do word ['i', 'n', 'f']; return .infinity negative) <|>
    (do word ['n', 'a', 'n']; return .notANumber)

/-! ### Dates and times -/

/-- A number of a given number of digits within bounds. -/
def bounded (count least most : Nat) : Scan Nat := do
  let value := Nat.ofDigitChars 10 (← several count Char.isDigit) 0
  guard (least ≤ value ∧ value ≤ most)
  return value

/-- The number of days of a month. -/
def daysIn (year month : Nat) : Nat :=
  if month = 2 then
    if year % 4 = 0 ∧ (year % 100 ≠ 0 ∨ year % 400 = 0) then 29 else 28
  else if month = 4 ∨ month = 6 ∨ month = 9 ∨ month = 11 then 30
  else 31

/-- A date of the calendar. -/
def date : Scan Unit := do
  let year ← bounded 4 0 9999
  exactly '-'
  let month ← bounded 2 1 12
  exactly '-'
  let _ ← bounded 2 1 (daysIn year month)

/-- A time of day; a leap second is allowed. -/
def time : Scan Unit := do
  let _ ← bounded 2 0 23
  exactly ':'
  let _ ← bounded 2 0 59
  exactly ':'
  let _ ← bounded 2 0 60
  let _ ← maybe (do exactly '.'; run1 Char.isDigit)

/-- The distance of a local time from universal time. -/
def timeOffset : Scan Unit := do
  match ← one fun _ => true with
  | 'Z' | 'z' => return ()
  | '+' | '-' =>
    let _ ← bounded 2 0 23
    exactly ':'
    let _ ← bounded 2 0 59
  | _ => failure

/-- A date, a time, or both with or without an offset. -/
def moment : Scan Unit :=
  (do
    date
    let _ ← maybe (do
      let _ ← one fun mark => mark = 'T' || mark = 't' || mark = ' '
      time
      maybe timeOffset))
  <|> time

/-! ### Values without parts -/

/-- A value that does not contain others. -/
def scalar : Scan Value :=
  (do return .string (← string))
    <|> (do moment; return .moment)
    <|> (do return .float (← fraction))
    <|> (do return .float (← specialFraction))
    <|> (do return .integer (← integer))
    <|> (do word ['t', 'r', 'u', 'e']; return .boolean true)
    <|> (do word ['f', 'a', 'l', 's', 'e']; return .boolean false)

end SolidScene.Toml
