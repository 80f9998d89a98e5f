/-
This file holds the three choices a text makes from a fixed set of words: where it
stands against its anchor in both directions, and which way it is written. Each
choice is a type of its own, so a node holds no word that is not in the list. The
words are said once, in the instance, and the reader of property bags, the reader of
typed nodes and the writer of the source all go by them.

The readers differ in what they do with a word that is not in the list. For a bag it
says nothing, and the text keeps the choice it had, if any; for a typed node it is a
fault, and the message lists the words.
-/
import SolidScene.Node.Keyword

namespace SolidScene

/-- Where a text stands against the left and right of its anchor. -/
inductive HorizontalAlignment where
  | left
  | center
  | right
deriving DecidableEq, Inhabited

instance : Keyword HorizontalAlignment where
  all := [.left, .center, .right]
  word
    | .left => "left"
    | .center => "center"
    | .right => "right"

/-- Where a text stands against the top and bottom of its anchor. -/
inductive VerticalAlignment where
  | top
  | center
  | baseline
  | bottom
deriving DecidableEq, Inhabited

instance : Keyword VerticalAlignment where
  all := [.top, .center, .baseline, .bottom]
  word
    | .top => "top"
    | .center => "center"
    | .baseline => "baseline"
    | .bottom => "bottom"

/-- Which way a text is written. -/
inductive WritingDirection where
  | leftToRight
  | rightToLeft
  | topToBottom
  | bottomToTop
deriving DecidableEq, Inhabited

instance : Keyword WritingDirection where
  all := [.leftToRight, .rightToLeft, .topToBottom, .bottomToTop]
  word
    | .leftToRight => "ltr"
    | .rightToLeft => "rtl"
    | .topToBottom => "ttb"
    | .bottomToTop => "btt"

end SolidScene
