/-
This file says which characters are blank: the ones with the white space property,
inside and outside the range of seven bits. A piece of raw source that holds nothing
else is left out of the generated text, so the whole table counts, and not only the
blanks that a reader of documents skips.

The table is a list of code points that is searched for each character, as raw
source is short and looked at once. An empty text counts as blank, too, so that a
node of raw source without any code is left out like one with blanks.
-/

namespace SolidScene.Text

/-- The code points with the white space property. -/
def blanks : List Nat :=
  [0x9, 0xa, 0xb, 0xc, 0xd, 0x20, 0x85, 0xa0, 0x1680, 0x2000, 0x2001, 0x2002, 0x2003, 0x2004,
    0x2005, 0x2006, 0x2007, 0x2008, 0x2009, 0x200a, 0x2028, 0x2029, 0x202f, 0x205f, 0x3000]

/-- Whether a character has the white space property. -/
def isBlank (character : Char) : Bool := blanks.contains character.toNat

/-- Whether a text holds nothing but blanks. -/
def allBlank (text : String) : Bool := text.toList.all isBlank

/-- The blanks of the seven-bit range are blank. -/
theorem isBlank_of_isWhitespace {character : Char} (white : character.isWhitespace) :
    isBlank character := by
  simp only [Char.isWhitespace, Bool.or_eq_true, decide_eq_true_eq] at white
  obtain ((rfl | rfl) | rfl) | rfl := white <;> decide

end SolidScene.Text
