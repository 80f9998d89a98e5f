/-
This file says how the texts of solids are laid out in lines. A line is code that is
written like another one, or a remark; lines stand behind an indent and below each
other, and the lines of children stand in braces. Every solid without raw source in
it is laid out like what is left of it without its strings and unknown names.

A layout relates two texts and lists the literals and comments of both. It is
defined on texts and not on solids, so that the whole text of a scene is a layout as
well as every part of it, and so that what a reader does with it can be proved by
induction on the layout. Solids come in only where it is built up, by induction on
the solid: a payload gives its lines, its children give theirs, and the braces
around them are the same in both texts, as the two solids have one shape.
-/
import SolidScene.Proofs.Scene.Unfolding
import SolidScene.Proofs.Source.Blocks
import SolidScene.Proofs.Source.Lexeme

namespace SolidScene

namespace Source

/-- The literal of a string. -/
def Lexeme.ofField (field : String) : Lexeme := literal (quote field).toList

/-- The comment of a remark. -/
def Lexeme.ofRemark (remark : String) : Lexeme := comment ("// " ++ remark).toList

theorem Lexeme.outer_ofField (field : String) : (ofField field).outer = ['"', '"'] := rfl

theorem Lexeme.outer_ofRemark (remark : String) : (ofRemark remark).outer = [] := rfl

/-- Two texts are laid out alike if their lines are written alike in the same places; their
remarks may differ. The literals and comments of both are listed. -/
inductive Layout (known : String → Prop) :
    (text other : String) → (enclosures otherEnclosures : List Lexeme) → Prop where
  | code {text other : String} {fields otherFields : List String}
    (alike : Alike known text other fields otherFields) :
    Layout known text other (fields.map .ofField) (otherFields.map .ofField)
  | remark {remark other : String} (oneLine : IsOneLine remark) (otherOneLine : IsOneLine other) :
    Layout known ("// " ++ remark) ("// " ++ other) [.ofRemark remark] [.ofRemark other]
  | behind {indent text other : String} {enclosures otherEnclosures : List Lexeme}
    (isPlain : IsPlain indent) (rest : Layout known text other enclosures otherEnclosures) :
    Layout known (indent ++ text) (indent ++ other) enclosures otherEnclosures
  | above {text other : String} {enclosures otherEnclosures : List Lexeme}
    {next nextOther : String} {nextEnclosures nextOtherEnclosures : List Lexeme}
    (first : Layout known text other enclosures otherEnclosures)
    (rest : Layout known next nextOther nextEnclosures nextOtherEnclosures) :
    Layout known (text ++ "\n" ++ next) (other ++ "\n" ++ nextOther) (enclosures ++ nextEnclosures)
      (otherEnclosures ++ nextOtherEnclosures)
  | braced {head text other indent : String} {enclosures otherEnclosures : List Lexeme}
    (fixed : Fixed known head) (inside : Layout known text other enclosures otherEnclosures)
    (isPlain : IsPlain indent) :
    Layout known (head ++ Bracket.curly.around ("\n" ++ text ++ "\n" ++ indent))
      (head ++ Bracket.curly.around ("\n" ++ other ++ "\n" ++ indent)) enclosures otherEnclosures

theorem Layout.symm {known : String → Prop} {text other : String}
    {enclosures otherEnclosures : List Lexeme}
    (layout : Layout known text other enclosures otherEnclosures) :
    Layout known other text otherEnclosures enclosures := by
  induction layout with
  | code alike => exact code alike.symm
  | remark oneLine otherOneLine => exact remark otherOneLine oneLine
  | behind isPlain _ inductionHypothesis => exact behind isPlain inductionHypothesis
  | above _ _ firstHypothesis restHypothesis => exact above firstHypothesis restHypothesis
  | braced fixed _ isPlain inductionHypothesis => exact braced fixed inductionHypothesis isPlain

end Source

open Source

/-! ### What a solid holds -/

namespace Solid

mutual

/-- A solid with nothing in its strings and without unknown names. -/
def masked : Solid → Solid
  | .node payload children => .node payload.masked (maskedAll children)

/-- Solids with nothing in their strings and without unknown names. -/
def maskedAll : List Solid → List Solid
  | [] => []
  | solid :: rest => solid.masked :: maskedAll rest

end

theorem maskedAll_eq_map (solids : List Solid) : maskedAll solids = solids.map masked := by
  induction solids with
  | nil => rfl
  | cons solid rest inductionHypothesis => rw [maskedAll, inductionHypothesis, List.map_cons]

/-- The remark about a name that is not known, over the given solids. -/
def remark (name : String) (children : List Solid) : String :=
  if children.isEmpty then onOneLine name ++ " (no children)" else onOneLine name

mutual

/-- The literals and comments that the text of a solid should have, in order: one for each
string of a payload that is written, and one for each name that is not known. The children of a
statement are not written. -/
def enclosures : Solid → List Lexeme
  | .node payload children =>
    match form payload with
    | .statement _ => payload.quotedFields.map .ofField
    | .block _ => payload.quotedFields.map .ofField ++ enclosuresAll children
    | .verbatim _ => []
    | .remark name => .ofRemark (remark name children) :: enclosuresAll children

/-- The literals and comments of several solids, one after the other. -/
def enclosuresAll : List Solid → List Lexeme
  | [] => []
  | solid :: rest => solid.enclosures ++ enclosuresAll rest

end

theorem enclosuresAll_eq_flatMap (solids : List Solid) :
    enclosuresAll solids = solids.flatMap enclosures := by
  induction solids with
  | nil => rfl
  | cons solid rest inductionHypothesis =>
    rw [enclosuresAll, inductionHypothesis, List.flatMap_cons]

end Solid

namespace Source

/-! ### Heads and remarks -/

theorem fixed_spacedHead {known : String → Prop} {head : String} (fixed : Fixed known head) :
    Fixed known (spacedHead head) := by
  unfold spacedHead
  split_ifs
  · exact Alike.plain (by decide)
  · exact fixed.before (by decide) (by decide)

theorem fixed_block_empty {known : String → Prop} {head : String} (fixed : Fixed known head)
    (indent : String) : Fixed known (block head indent "") := by
  have braces : Fixed known (Bracket.curly.around "") :=
    Alike.enclosed .curly (Alike.plain (by decide))
  rw [block_empty]
  unfold spacedHead
  split_ifs
  · rwa [String.empty_append]
  · exact Alike.joined fixed (by decide) (by decide) braces

theorem isOneLine_remark (name : String) (children : List Solid) :
    IsOneLine (Solid.remark name children) := by
  unfold Solid.remark
  split_ifs
  · intro character member
    rw [String.toList_append, List.mem_append] at member
    have rest : IsOneLine " (no children)" := by decide
    exact member.elim (isOneLine_onOneLine name character) (rest character)
  · exact isOneLine_onOneLine name

end Source

/-! ### Solids -/

namespace Payload

/-- The payloads whose texts are code: they are not raw source, and something is known of their
expressions. -/
def IsProcessed (known : String → Prop) (payload : Payload) : Prop :=
  payload.kind ≠ .raw ∧ ∀ text ∈ payload.expressions, known text

/-- A payload without its strings has no expression that it did not have. -/
theorem IsProcessed.masked {known : String → Prop} {payload : Payload}
    (here : payload.IsProcessed known) : payload.masked.IsProcessed known := by
  obtain ⟨processed, each⟩ := here
  cases payload <;> exact ⟨processed, each⟩

end Payload

namespace Solid

variable {known : String → Prop}

/-- Without raw source every solid has a text. -/
theorem source_ne_empty {solid : Solid} (processed : solid.Holds (Payload.IsProcessed known))
    (indent : String) : solid.source indent ≠ "" := by
  obtain ⟨here, _⟩ := processed
  rw [source_node]
  exact text_form_ne_empty here.1 _ _

/-- Without its strings a solid has the same expressions. -/
theorem holds_masked {solids : List Solid}
    (processed : ∀ solid ∈ solids, solid.Holds (Payload.IsProcessed known)) :
    ∀ solid ∈ solids.map masked, solid.Holds (Payload.IsProcessed known) := by
  induction solids using list_induction with
  | nil => exact fun solid member => absurd member List.not_mem_nil
  | cons payload children rest childrenHypothesis restHypothesis =>
    rw [List.forall_mem_cons, holds_node_iff] at processed
    obtain ⟨⟨here, below⟩, later⟩ := processed
    rw [List.map_cons, masked, maskedAll_eq_map]
    exact List.forall_mem_cons.mpr
      ⟨Holds.node here.masked (childrenHypothesis below), restHypothesis later⟩

/-- The text of a solid is laid out like another one: that of the solid without its strings. -/
def IsLaidOut (known : String → Prop) (indent : String) (solid : Solid) : Prop :=
  Layout known (solid.source indent) (solid.masked.source indent) solid.enclosures
    solid.masked.enclosures

theorem filled_sources {children : List Solid}
    (processed : ∀ child ∈ children, child.Holds (Payload.IsProcessed known)) (indent : String) :
    ∀ text ∈ children.map (source indent), text ≠ "" := by
  intro text member
  obtain ⟨child, inside, rfl⟩ := List.mem_map.mp member
  exact source_ne_empty (processed child inside) indent

/-- Lines of children are laid out alike if the children are. -/
theorem layout_inner {indent : String} (isPlain : IsPlain indent) {children : List Solid}
    (some : children ≠ []) (processed : ∀ child ∈ children, child.Holds (Payload.IsProcessed known))
    (each : ∀ child ∈ children, child.IsLaidOut known indent) :
    Layout known (Source.inner indent (children.map (source indent)))
      (Source.inner indent ((children.map masked).map (source indent))) (enclosuresAll children)
      (enclosuresAll (children.map masked)) := by
  rw [inner_of_ne_empty (filled_sources processed indent),
    inner_of_ne_empty (filled_sources (holds_masked processed) indent)]
  induction children with
  | nil => exact absurd rfl some
  | cons first rest inductionHypothesis =>
    rw [List.forall_mem_cons] at processed each
    have line := Layout.behind isPlain each.1
    cases rest with
    | nil => simpa [enclosuresAll] using line
    | cons second later =>
      simp only [List.map_cons, String.intercalate_cons_cons] at inductionHypothesis ⊢
      exact line.above (inductionHypothesis (by simp) processed.2 each.2)

/-- A solid without children is laid out like what is left of it without its strings. -/
theorem isLaidOut_leaf {payload : Payload} (here : payload.IsProcessed known) (indent : String) :
    (node payload []).IsLaidOut known indent := by
  have alike := alike_form_masked here.2
  unfold IsLaidOut
  rw [masked, maskedAll, source_node, source_node, enclosures, enclosures]
  simp only [List.map_nil, enclosuresAll, List.append_nil]
  generalize formed : form payload = written at alike ⊢
  generalize form payload.masked = other at alike ⊢
  generalize payload.quotedFields = fields at alike ⊢
  generalize payload.masked.quotedFields = otherFields at alike ⊢
  cases alike with
  | statement alike => exact Layout.code (alike.before (by decide) (by decide))
  | block fixed => exact Layout.code (fixed_block_empty fixed indent)
  | verbatim code => exact absurd (kind_of_form_verbatim formed) here.1
  | remark label other =>
    simpa [Form.text, remark, Source.inner, String.append_assoc] using
      Layout.remark (isOneLine_remark label []) (isOneLine_remark other [])

/-- A solid with children is laid out like what is left of it without its strings, if its lines
of children are. -/
theorem isLaidOut_over {indent : String} (isPlain : IsPlain indent) {payload : Payload}
    (here : payload.IsProcessed known) {children : List Solid} (some : children ≠ [])
    (processed : ∀ child ∈ children, child.Holds (Payload.IsProcessed known))
    (inside : Layout known
      (Source.inner (indent ++ indentStep) (children.map (source (indent ++ indentStep))))
      (Source.inner (indent ++ indentStep)
        ((children.map masked).map (source (indent ++ indentStep))))
      (enclosuresAll children) (enclosuresAll (children.map masked))) :
    (node payload children).IsLaidOut known indent := by
  have alike := alike_form_masked here.2
  have filled : Source.inner (indent ++ indentStep)
      (children.map (source (indent ++ indentStep))) ≠ "" :=
    inner_ne_empty (by simpa using some) (filled_sources processed _) _
  have otherFilled : Source.inner (indent ++ indentStep)
      ((children.map masked).map (source (indent ++ indentStep))) ≠ "" :=
    inner_ne_empty (by simpa using some) (filled_sources (holds_masked processed) _) _
  unfold IsLaidOut
  rw [masked, maskedAll_eq_map, source_node, source_node, enclosures, enclosures]
  generalize formed : form payload = written at alike ⊢
  generalize form payload.masked = other at alike ⊢
  generalize payload.quotedFields = fields at alike ⊢
  generalize payload.masked.quotedFields = otherFields at alike ⊢
  cases alike with
  | statement alike => exact Layout.code (alike.before (by decide) (by decide))
  | block fixed =>
    simp only [Form.text, block_of_ne_empty filled, block_of_ne_empty otherFilled]
    exact Layout.braced (fixed_spacedHead fixed) inside isPlain
  | verbatim code => exact absurd (kind_of_form_verbatim formed) here.1
  | remark label other =>
    have empty : Fixed known "" := Alike.plain (by decide)
    have lines := (Layout.remark (isOneLine_remark label children)
      (isOneLine_remark other (children.map masked))).above
        (Layout.behind isPlain (Layout.braced empty inside isPlain))
    rw [text_remark_of_ne_empty filled, text_remark_of_ne_empty otherFilled]
    simpa [remark, some] using lines

/-- Every solid without raw source is laid out like what is left of it without its strings. -/
theorem isLaidOut {solids : List Solid}
    (processed : ∀ solid ∈ solids, solid.Holds (Payload.IsProcessed known)) {indent : String}
    (isPlain : IsPlain indent) : ∀ solid ∈ solids, solid.IsLaidOut known indent := by
  induction solids using list_induction generalizing indent with
  | nil => exact fun solid member => absurd member List.not_mem_nil
  | cons payload children rest childrenHypothesis restHypothesis =>
    rw [List.forall_mem_cons, holds_node_iff] at processed
    obtain ⟨⟨here, below⟩, later⟩ := processed
    refine List.forall_mem_cons.mpr ⟨?_, restHypothesis later isPlain⟩
    by_cases none : children = []
    · rw [none]
      exact isLaidOut_leaf here indent
    · have further : IsPlain (indent ++ indentStep) := isPlain.append (by decide)
      exact isLaidOut_over isPlain here none below
        (layout_inner further none below (childrenHypothesis below further))

/-! ### Whole texts -/

/-- Solids below a text, with an empty line in front of each. -/
theorem layout_separated {solids : List Solid} {indent text other : String}
    {lexemes otherLexemes : List Lexeme} (first : Layout known text other lexemes otherLexemes)
    (each : ∀ solid ∈ solids, solid.IsLaidOut known indent) :
    Layout known ("\n\n".intercalate (text :: solids.map (source indent)))
      ("\n\n".intercalate (other :: (solids.map masked).map (source indent)))
      (lexemes ++ enclosuresAll solids) (otherLexemes ++ enclosuresAll (solids.map masked)) := by
  induction solids generalizing text other lexemes otherLexemes with
  | nil => simpa [enclosuresAll] using first
  | cons solid rest inductionHypothesis =>
    rw [List.forall_mem_cons] at each
    have empty : Layout known "" "" [] [] := Layout.code (Alike.plain (by decide))
    have split (front next : String) :
        front ++ "\n\n" ++ next = front ++ "\n" ++ ("" ++ "\n" ++ next) := by
      simp only [String.append_assoc, String.empty_append]
      rfl
    simp only [List.map_cons, String.intercalate_cons_cons, enclosuresAll, split]
    exact first.above (empty.above (inductionHypothesis each.1 each.2))

/-- The credit stands above the solids like a remark. -/
theorem layout_document {solids : List Solid}
    (processed : ∀ solid ∈ solids, solid.Holds (Payload.IsProcessed known)) :
    Layout known (document (solids.map (source "")))
      (document ((solids.map masked).map (source "")))
      (.ofRemark "Generated using scadgen" :: solids.flatMap enclosures)
      (.ofRemark "Generated using scadgen" :: (solids.map masked).flatMap enclosures) := by
  have title : IsOneLine "Generated using scadgen" := by decide
  have all {solids : List Solid}
      (processed : ∀ solid ∈ solids, solid.Holds (Payload.IsProcessed known)) :
      (solids.map (source "")).filter (· ≠ "") = solids.map (source "") :=
    List.filter_eq_self.mpr fun text member => by
      simpa using filled_sources processed "" text member
  rw [document, document, all processed, all (holds_masked processed),
    ← enclosuresAll_eq_flatMap, ← enclosuresAll_eq_flatMap]
  exact layout_separated (Layout.remark title title) (isLaidOut processed (by decide))

end Solid

end SolidScene
