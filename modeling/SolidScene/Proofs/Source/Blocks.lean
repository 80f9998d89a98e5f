/-
This file says how a payload puts the lines of its children into its text. A block
and a remark have an opening that ends with a brace; the lines of the children stand
below it, and the closing brace below them. Statements and raw source do not write
their children.

The four forms become two cases here. Where a form encloses its children and there
are lines of them, its text is the opening, the lines, and a line with the closing
brace; in all other cases the text does not depend on the children at all. The files
about indents, sizes and the layout in lines only know these two cases, together
with the fact that a payload has no text exactly if it is blank raw source.
-/
import Mathlib.Data.List.Basic
import SolidScene.Proofs.Source.Brackets
import SolidScene.Source.Generate

namespace SolidScene

namespace Kind

/-- The kinds that write their children in a block of their own. -/
def blocks : List Kind :=
  [union, difference, intersection, translate, rotate, scale, linearExtrude, rotateExtrude, group]

/-- The kinds that write their children. -/
def enclosing : List Kind := blocks ++ [unknown]

end Kind

namespace Source

/-! ### Blocks -/

/-- The head of a block with the space behind it, if it has a head. -/
def spacedHead (head : String) : String := if head = "" then "" else head ++ " "

theorem block_empty (head indent : String) :
    block head indent "" = spacedHead head ++ Bracket.curly.around "" := by
  unfold block spacedHead
  dsimp only
  rw [if_pos rfl]
  split_ifs with headless
  · rfl
  · simp only [String.append_assoc]
    rfl

/-- The lines of a block stand between its braces, on lines of their own. -/
theorem block_of_ne_empty {inside : String} (filled : inside ≠ "") (head indent : String) :
    block head indent inside =
      spacedHead head ++ Bracket.curly.around ("\n" ++ inside ++ "\n" ++ indent) := by
  have brace : Bracket.curly.around ("\n" ++ inside ++ "\n" ++ indent) =
      "\x7b\n" ++ (inside ++ ("\n" ++ (indent ++ "\x7d"))) := by
    simp only [Bracket.around, String.append_assoc]
    rfl
  unfold block spacedHead
  dsimp only
  rw [if_neg filled, brace]
  split_ifs with headless
  · simp only [String.append_assoc, String.empty_append]
    rfl
  · simp only [String.append_assoc]
    rfl

/-- The block below a remark begins on a line of its own. -/
theorem text_remark_of_ne_empty {inside : String} (filled : inside ≠ "") (label indent : String) :
    (Form.remark label).text indent inside = "// " ++ onOneLine label ++ "\n" ++
      (indent ++ ("" ++ Bracket.curly.around ("\n" ++ inside ++ "\n" ++ indent))) := by
  simp only [Form.text, if_neg filled, Bracket.around, String.append_assoc, String.empty_append]
  rfl

/-! ### Openings -/

namespace Form

/-- The forms that write the children. -/
def Encloses : Form → Prop
  | block _ => True
  | remark _ => True
  | statement _ => False
  | verbatim _ => False

/-- What stands in front of the lines of the children, the brace included. -/
def opening (indent : String) : Form → String
  | block head => spacedHead head ++ "\x7b"
  | remark label => "// " ++ onOneLine label ++ "\n" ++ indent ++ "\x7b"
  | statement _ => ""
  | verbatim _ => ""

/-- Which payloads write their children is a matter of their kinds. -/
theorem encloses_iff {payload : Payload} :
    (form payload).Encloses ↔ payload.kind ∈ Kind.enclosing := by
  cases payload <;> simp [form, Encloses, Payload.kind, Kind.enclosing, Kind.blocks]

/-- Where there are lines of children they stand between an opening and a closing brace. -/
theorem text_of_ne_empty {form : Form} (encloses : form.Encloses) {inside : String}
    (filled : inside ≠ "") (indent : String) :
    form.text indent inside =
      form.opening indent ++ "\n" ++ inside ++ "\n" ++ indent ++ "\x7d" := by
  cases form with
  | statement call => exact encloses.elim
  | block head =>
    simp only [text, block_of_ne_empty filled, opening, Bracket.around, String.append_assoc]
    rfl
  | verbatim code => exact encloses.elim
  | remark label =>
    simp only [text, if_neg filled, opening, String.append_assoc]
    rfl

/-- The other forms have the same text whatever the children are. -/
theorem text_of_not_encloses {form : Form} (alone : ¬ form.Encloses) (indent inside : String) :
    form.text indent inside = form.text indent "" := by
  cases form with
  | statement call => rfl
  | block head => exact absurd trivial alone
  | verbatim code => rfl
  | remark label => exact absurd trivial alone

end Form

/-! ### Texts that are not empty -/

/-- Only raw source is passed through. -/
theorem kind_of_form_verbatim {payload : Payload} {code : String}
    (passed : form payload = .verbatim code) : payload.kind = .raw := by
  cases payload <;> simp [form, Payload.kind] at passed ⊢

theorem exists_code_of_kind_raw {payload : Payload} (raw : payload.kind = .raw) :
    ∃ code, payload = .raw code := by
  cases payload <;> simp [Payload.kind] at raw ⊢

/-- Without raw source a payload has a text. -/
theorem text_form_ne_empty {payload : Payload} (processed : payload.kind ≠ .raw)
    (indent inside : String) : (form payload).text indent inside ≠ "" := by
  cases formed : form payload with
  | statement call => simp [Form.text]
  | block head =>
    rw [Form.text]
    by_cases filled : inside = ""
    · simp [filled, block_empty, Bracket.around]
    · simp [block_of_ne_empty filled, Bracket.around]
  | verbatim code => exact absurd (kind_of_form_verbatim formed) processed
  | remark label =>
    rw [Form.text]
    split_ifs <;> simp

/-! ### Lines of children -/

/-- The lines inside a block, if every child has a text. -/
theorem inner_of_ne_empty {texts : List String} (filled : ∀ text ∈ texts, text ≠ "")
    (indent : String) : inner indent texts = "\n".intercalate (texts.map (indent ++ ·)) := by
  have all : texts.filter (· ≠ "") = texts :=
    List.filter_eq_self.mpr fun text member => by simpa using filled text member
  rw [inner, all]

/-- There are no lines inside a block exactly if no child has a text. -/
theorem inner_eq_empty_iff {indent : String} {texts : List String} :
    inner indent texts = "" ↔ ∀ text ∈ texts, text = "" := by
  have kept : texts.filter (· ≠ "") = [] ↔ ∀ text ∈ texts, text = "" := by
    simp [List.filter_eq_nil_iff]
  rw [inner, ← kept]
  cases listed : texts.filter (· ≠ "") with
  | nil => simp
  | cons first rest =>
    have member : first ∈ texts.filter (· ≠ "") := listed ▸ List.mem_cons_self
    have here : first ≠ "" := by simpa using (List.mem_filter.mp member).2
    cases rest <;> simp [String.append_eq_empty_iff, here]

theorem inner_ne_empty {texts : List String} (some : texts ≠ [])
    (filled : ∀ text ∈ texts, text ≠ "") (indent : String) : inner indent texts ≠ "" := by
  obtain ⟨first, member⟩ := List.exists_mem_of_ne_nil texts some
  exact fun empty => filled first member (inner_eq_empty_iff.mp empty first member)

/-! ### Remarks -/

/-- A text that stays on its line. -/
def IsOneLine (text : String) : Prop :=
  ∀ character ∈ text.toList, character ≠ '\r' ∧ character ≠ '\n'

instance (text : String) : Decidable (IsOneLine text) :=
  List.decidableBAll (fun character => character ≠ '\r' ∧ character ≠ '\n') text.toList

/-- A name that is not known stays on the line of its remark. -/
theorem isOneLine_onOneLine (label : String) : IsOneLine (onOneLine label) := by
  intro character member
  rw [onOneLine, String.toList_map, List.mem_map] at member
  obtain ⟨original, _, rfl⟩ := member
  split_ifs with breaks
  · decide
  · exact not_or.mp breaks

end Source

/-! ### Solids -/

namespace Solid

open Source

/-- The text of a solid comes from its payload and from the texts of its children. -/
theorem source_node (indent : String) (payload : Payload) (children : List Solid) :
    (node payload children).source indent =
      (form payload).text indent (inner (indent ++ indentStep)
        (children.map (source (indent ++ indentStep)))) := by
  rw [source, sources_eq_map]

end Solid

end SolidScene
