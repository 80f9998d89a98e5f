/-
This file shows that no string and no unknown name gets out of its literal or its
remark. Texts that are written alike are read apart: what stands around a literal or
a remark does not depend on what stands in it. So the literals of a text are those
of the strings, its comments are the remarks, its brackets are nested, and strings
can be exchanged without any change outside.

The text of a scene is laid out like the text of the scene with its strings taken
out, line by line. On such a layout everything is collected at once: what a reader
finds in it is what it finds in the lines, one after the other, because a literal
ends before its line does and a remark ends with it. Taking literals and comments
gives the lists that the solids promise; taking what stands outside of them gives
the same for both texts. Expressions are asked to open neither literals nor
comments, and raw source is excluded, since either of them is passed through and may
do so.
-/
import SolidScene.Proofs.Scene.History
import SolidScene.Proofs.Source.Layout

namespace SolidScene

namespace Source

/-- An expression that opens neither a literal nor a comment. It may hold line breaks, since
these end nothing but comments. -/
structure IsQuiet (expression : String) : Prop where
  /-- It opens no literal. -/
  noQuote : '"' ∉ expression.toList
  /-- It opens no comment. -/
  noComment : ¬ ['/', '/'] <:+: expression.toList

/-! ### Plain texts, expressions and literals -/

theorem IsQuiet.lexemes_eq {text : String} (quiet : IsQuiet text) :
    lexemes text.toList = text.toList.map .code := by
  have apart : ([] : List Char).head? ≠ some '/' := by simp
  simpa [lexemes_nil] using lexemes_append_of_apart quiet.noQuote quiet.noComment apart

theorem collect_quote {α : Type} (take : Lexeme → List α) (field : String) :
    collect take (quote field).toList = take (.ofField field) := by
  rw [collect, lexemes_quote, List.flatMap_singleton, Lexeme.ofField]

theorem enclosures_code (text : List Char) :
    (text.flatMap fun character => (Lexeme.code character).enclosure) = [] := by
  simp [Lexeme.enclosure]

theorem outer_code (text : List Char) :
    (text.flatMap fun character => (Lexeme.code character).outer) = text :=
  List.flatMap_singleton' text

/-! ### Lines below each other -/

theorem isBare_opens : IsBare ['\x7b', '\n'] := by simp [IsBare]

theorem isBare_break : IsBare ['\n'] := by simp [IsBare]

theorem IsPlain.isBare_closes {indent : String} (isPlain : IsPlain indent) :
    IsBare ('\n' :: indent.toList ++ ['\x7d']) := by
  rw [IsBare, List.forall_mem_append, List.forall_mem_cons]
  exact ⟨⟨by decide, isPlain.isBare⟩, by simp⟩

/-- The characters of lines in braces: the head and the lines, each in front of something bare. -/
theorem toList_braced (head text indent : String) :
    (head ++ Bracket.curly.around ("\n" ++ text ++ "\n" ++ indent)).toList =
      head.toList ++ ['\x7b', '\n'] ++ (text.toList ++ ('\n' :: indent.toList ++ ['\x7d'])) := by
  simp [Bracket.toList_around, Bracket.opening, Bracket.closing]

/-- A remark is one comment in front of the end of its line. -/
theorem lexemes_remark_append {remark : String} (oneLine : IsOneLine remark) {rest : List Char}
    (ends : rest = [] ∨ rest.head? = some '\n') :
    lexemes (("// " ++ remark).toList ++ rest) = .ofRemark remark :: lexemes rest := by
  have split : ("// " ++ remark).toList = '/' :: '/' :: ' ' :: remark.toList := by
    rw [String.toList_append]
    rfl
  have spaced : ∀ character ∈ ' ' :: remark.toList, character ≠ '\r' ∧ character ≠ '\n' :=
    List.forall_mem_cons.mpr ⟨by decide, oneLine⟩
  rw [Lexeme.ofRemark, split, lexemes_comment_append spaced ends]

theorem lexemes_remark {remark : String} (oneLine : IsOneLine remark) :
    lexemes ("// " ++ remark).toList = [.ofRemark remark] := by
  have alone := lexemes_remark_append oneLine (Or.inl rfl)
  rwa [List.append_nil, lexemes_nil] at alone

section

variable {α : Type} (take : Lexeme → List α) {text : String}

theorem collect_remark {remark : String} (oneLine : IsOneLine remark) :
    collect take ("// " ++ remark).toList = take (.ofRemark remark) := by
  rw [collect, lexemes_remark oneLine, List.flatMap_singleton]

/-- What is taken from lines below each other is taken from each of them. -/
theorem collect_above (line : IsLine text.toList) (next : String) :
    collect take (text ++ "\n" ++ next).toList =
      collect take text.toList ++ take (.code '\n') ++ collect take next.toList := by
  rw [String.toList_append, String.toList_append]
  exact (collect_joined take line.splits_break isBare_break next.toList).trans (by simp)

/-- What is taken from lines in braces is taken from the head and from the lines. -/
theorem collect_braced {head indent : String} (code : IsCode head.toList)
    (line : IsLine text.toList) (isPlain : IsPlain indent) :
    collect take (head ++ Bracket.curly.around ("\n" ++ text ++ "\n" ++ indent)).toList =
      collect take head.toList ++
        (['\x7b', '\n'].flatMap fun character => take (.code character)) ++
        (collect take text.toList ++
          ('\n' :: indent.toList ++ ['\x7d']).flatMap fun character => take (.code character)) := by
  have closes := collect_joined take (fun after => line.splits_break _) isPlain.isBare_closes []
  have opens := collect_joined take (code.splits_bare isBare_opens (by simp)) isBare_opens
  rw [List.append_nil, collect_nil, List.append_nil] at closes
  rw [toList_braced, opens, closes]

end

section

variable {known : String → Prop} {text other : String} {fields otherFields : List String}
  {enclosed otherEnclosed : List Lexeme}
  (quiet : ∀ expression, known expression → IsQuiet expression)

include quiet

/-! ### Lines of code -/

/-- A line that is written like another one is read apart from what comes after it. -/
theorem Alike.isCode (alike : Alike known text other fields otherFields) :
    IsCode text.toList := by
  induction alike with
  | plain isPlain => exact fun rest _ => isPlain.isBare.splits rest
  | expression isKnown =>
    intro rest apart
    have quietly := quiet _ isKnown
    rw [Splits, lexemes_append_of_apart quietly.noQuote quietly.noComment apart,
      quietly.lexemes_eq]
  | literal field other =>
    intro rest _
    rw [Splits, lexemes_quote_append, lexemes_quote]
    rfl
  | behind isPlain _ inductionHypothesis =>
    intro rest apart
    rw [String.toList_append]
    exact (isPlain.isBare.splits _).append (isPlain.isBare.splits _)
      (inductionHypothesis rest apart)
  | joined _ isPlain some _ firstHypothesis restHypothesis =>
    intro rest apart
    have code : IsCode _ := firstHypothesis
    have bare := isPlain.isBare
    have ends := splits_append (code.splits_bare bare (by simpa using some)) bare
    rw [String.toList_append, String.toList_append]
    exact (ends _).append (ends _) (restHypothesis rest apart)
  | enclosed bracket _ inductionHypothesis =>
    intro rest _
    have code : IsCode _ := inductionHypothesis
    have opens := (isBare_opening bracket).splits
    have closes := isBare_closing bracket
    rw [Bracket.toList_around, List.cons_append, ← List.singleton_append]
    exact (opens _).append (opens _)
      (splits_append (code.splits_bare closes (by simp)) closes rest)

/-- The literals of a line of code are those of its strings, and it has no comments. -/
theorem Alike.enclosures_eq (alike : Alike known text other fields otherFields) :
    enclosures text.toList = fields.map .ofField := by
  unfold enclosures
  induction alike with
  | plain isPlain =>
    rw [collect_of_lexemes isPlain.isBare.lexemes_eq, enclosures_code]
    rfl
  | expression isKnown =>
    rw [collect_of_lexemes (quiet _ isKnown).lexemes_eq, enclosures_code]
    rfl
  | literal field other => exact collect_quote _ field
  | behind isPlain _ inductionHypothesis =>
    rw [String.toList_append, isPlain.isBare.collect_append, enclosures_code,
      inductionHypothesis, List.nil_append]
  | joined first isPlain some _ firstHypothesis restHypothesis =>
    have apart := (first.isCode quiet).splits_bare isPlain.isBare (by simpa using some)
    rw [String.toList_append, String.toList_append, collect_joined _ apart isPlain.isBare,
      enclosures_code, firstHypothesis, restHypothesis, List.append_nil, List.map_append]
  | enclosed bracket inside inductionHypothesis =>
    rw [Bracket.toList_around, (inside.isCode quiet).collect_around, inductionHypothesis]
    exact List.append_nil _

/-- Lines of code that are written alike are the same outside of their literals. -/
theorem Alike.outside_eq (alike : Alike known text other fields otherFields) :
    outside text.toList = outside other.toList := by
  unfold outside
  induction alike with
  | plain _ => rfl
  | expression _ => rfl
  | literal field other =>
    rw [collect_quote, collect_quote, Lexeme.outer_ofField, Lexeme.outer_ofField]
  | behind isPlain _ inductionHypothesis =>
    rw [String.toList_append, String.toList_append, isPlain.isBare.collect_append,
      isPlain.isBare.collect_append, inductionHypothesis]
  | joined first isPlain some _ firstHypothesis restHypothesis =>
    have filled := mt String.toList_eq_nil_iff.mp some
    have apart := (first.isCode quiet).splits_bare isPlain.isBare filled
    have otherApart := (first.symm.isCode quiet).splits_bare isPlain.isBare filled
    simp only [String.toList_append]
    rw [collect_joined _ apart isPlain.isBare, collect_joined _ otherApart isPlain.isBare,
      firstHypothesis, restHypothesis]
  | enclosed bracket inside inductionHypothesis =>
    rw [Bracket.toList_around, Bracket.toList_around, (inside.isCode quiet).collect_around,
      (inside.symm.isCode quiet).collect_around, inductionHypothesis]

/-- The brackets of a line of code are nested if those of its expressions are. -/
theorem Alike.isNested (nested : ∀ expression, known expression → IsNested expression.toList)
    (alike : Alike known text other fields otherFields) : IsNested (outside text.toList) := by
  unfold outside
  induction alike with
  | plain isPlain =>
    rw [collect_of_lexemes isPlain.isBare.lexemes_eq, outer_code]
    exact isNested_of_isPlain isPlain
  | expression isKnown =>
    rw [collect_of_lexemes (quiet _ isKnown).lexemes_eq, outer_code]
    exact nested _ isKnown
  | literal field other =>
    rw [collect_quote, Lexeme.outer_ofField]
    decide
  | behind isPlain _ inductionHypothesis =>
    rw [String.toList_append, isPlain.isBare.collect_append, outer_code]
    exact (isNested_of_isPlain isPlain).append inductionHypothesis
  | joined first isPlain some _ firstHypothesis restHypothesis =>
    have apart := (first.isCode quiet).splits_bare isPlain.isBare (by simpa using some)
    rw [String.toList_append, String.toList_append, collect_joined _ apart isPlain.isBare,
      outer_code]
    exact (firstHypothesis.append (isNested_of_isPlain isPlain)).append restHypothesis
  | enclosed bracket inside inductionHypothesis =>
    rw [Bracket.toList_around, (inside.isCode quiet).collect_around]
    exact inductionHypothesis.around bracket

/-! ### Layouts -/

/-- Lines are read apart from what stands in the lines below them. -/
theorem Layout.isLine (layout : Layout known text other enclosed otherEnclosed) :
    IsLine text.toList := by
  induction layout with
  | code alike => exact (alike.isCode quiet).isLine
  | remark oneLine _ =>
    intro rest ends
    rw [Splits, lexemes_remark_append oneLine ends, lexemes_remark oneLine, List.singleton_append]
  | behind isPlain _ inductionHypothesis =>
    intro rest ends
    rw [String.toList_append]
    exact (isPlain.isBare.splits _).append (isPlain.isBare.splits _) (inductionHypothesis rest ends)
  | above _ _ firstHypothesis restHypothesis =>
    intro rest ends
    have line : IsLine _ := firstHypothesis
    have breaks := splits_append line.splits_break isBare_break
    rw [String.toList_append, String.toList_append]
    exact (breaks _).append (breaks _) (restHypothesis rest ends)
  | braced fixed _ isPlain inductionHypothesis =>
    intro rest _
    have line : IsLine _ := inductionHypothesis
    have opens := splits_append ((fixed.isCode quiet).splits_bare isBare_opens (by simp))
      isBare_opens
    rw [toList_braced]
    exact (opens _).append (opens _)
      (splits_append (fun after => line.splits_break _) isPlain.isBare_closes rest)

/-- The literals and comments of a layout are those that it lists. -/
theorem Layout.enclosures_eq (layout : Layout known text other enclosed otherEnclosed) :
    enclosures text.toList = enclosed := by
  unfold enclosures
  induction layout with
  | code alike => exact alike.enclosures_eq quiet
  | remark oneLine _ => exact collect_remark _ oneLine
  | behind isPlain _ inductionHypothesis =>
    rw [String.toList_append, isPlain.isBare.collect_append, enclosures_code,
      inductionHypothesis, List.nil_append]
  | above first _ firstHypothesis restHypothesis =>
    rw [collect_above _ (first.isLine quiet), firstHypothesis, restHypothesis]
    simp [Lexeme.enclosure]
  | braced fixed inside isPlain inductionHypothesis =>
    have none : collect Lexeme.enclosure _ = [] := fixed.enclosures_eq quiet
    rw [collect_braced _ (fixed.isCode quiet) (inside.isLine quiet) isPlain, none,
      inductionHypothesis, enclosures_code, enclosures_code, List.append_nil, List.append_nil,
      List.nil_append]

/-- Layouts that are alike are the same outside of their literals and comments. -/
theorem Layout.outside_eq (layout : Layout known text other enclosed otherEnclosed) :
    outside text.toList = outside other.toList := by
  have otherLine {text other : String} {enclosed otherEnclosed : List Lexeme}
      (layout : Layout known text other enclosed otherEnclosed) : IsLine other.toList :=
    layout.symm.isLine quiet
  unfold outside
  induction layout with
  | code alike => exact alike.outside_eq quiet
  | remark oneLine otherOneLine =>
    rw [collect_remark _ oneLine, collect_remark _ otherOneLine, Lexeme.outer_ofRemark,
      Lexeme.outer_ofRemark]
  | behind isPlain _ inductionHypothesis =>
    rw [String.toList_append, String.toList_append, isPlain.isBare.collect_append,
      isPlain.isBare.collect_append, inductionHypothesis]
  | above first _ firstHypothesis restHypothesis =>
    rw [collect_above _ (first.isLine quiet), collect_above _ (otherLine first), firstHypothesis,
      restHypothesis]
  | braced fixed inside isPlain inductionHypothesis =>
    rw [collect_braced _ (fixed.isCode quiet) (inside.isLine quiet) isPlain,
      collect_braced _ (fixed.isCode quiet) (otherLine inside) isPlain, inductionHypothesis]

/-- The brackets of a layout are nested if those of its expressions are. -/
theorem Layout.isNested (nested : ∀ expression, known expression → IsNested expression.toList)
    (layout : Layout known text other enclosed otherEnclosed) :
    IsNested (outside text.toList) := by
  have breaks : IsNested ['\n'] := by decide
  unfold outside
  induction layout with
  | code alike => exact alike.isNested quiet nested
  | remark oneLine _ =>
    rw [collect_remark _ oneLine, Lexeme.outer_ofRemark]
    decide
  | behind isPlain _ inductionHypothesis =>
    rw [String.toList_append, isPlain.isBare.collect_append, outer_code]
    exact (isNested_of_isPlain isPlain).append inductionHypothesis
  | above first _ firstHypothesis restHypothesis =>
    rw [collect_above _ (first.isLine quiet)]
    exact (firstHypothesis.append breaks).append restHypothesis
  | @braced head text other indent _ _ fixed inside isPlain inductionHypothesis =>
    rw [collect_braced _ (fixed.isCode quiet) (inside.isLine quiet) isPlain, outer_code, outer_code]
    have before : IsNested (collect Lexeme.outer head.toList) := fixed.isNested quiet nested
    have lines := (breaks.append inductionHypothesis).append
      (breaks.append (isNested_of_isPlain isPlain))
    simpa [Bracket.opening, Bracket.closing] using before.append (lines.around .curly)

end

end Source

open Source

namespace Scene

/-- What can be reached in a scene is no raw source, and its expressions open neither literals
nor comments; nor is there a cycle. -/
structure IsHarmless (scene : Scene) : Prop where
  built : scene.IsBuilt
  acyclic : scene.IsAcyclic
  processed : ∀ handle node, scene.IsAttached handle → scene.nodes.get? handle = some node →
    node.payload.IsProcessed IsQuiet

/-- What is known of the expressions that can be reached is known in all solids. -/
theorem IsHarmless.holds {scene : Scene} (harmless : scene.IsHarmless) {known : String → Prop}
    (each : ∀ handle node, scene.IsAttached handle → scene.nodes.get? handle = some node →
      ∀ expression ∈ node.payload.expressions, known expression) :
    ∀ solid ∈ scene.solids, solid.Holds (Payload.IsProcessed known) := by
  obtain ⟨solids, unfolds⟩ := exists_unfolds_top harmless.built.isClosed harmless.acyclic
  rw [solids_eq_of_unfolds unfolds, holds_iff_of_unfolds unfolds]
  intro root member handle node path found
  have attached : scene.IsAttached handle := ⟨root, member, path⟩
  exact ⟨(harmless.processed handle node attached found).1, each handle node attached found⟩

/-- No string and no unknown name gets out of the place that is meant for it. The literals of the
text are those of the strings of the solids, in order and all closed; its comments are the credit
and one remark for each name that is not known. If the brackets of all expressions are nested, so
are those of the text. Scenes that differ only in strings and in nodes of unknown names have
texts that are the same outside of literals and comments. -/
theorem text_confines_strings {scene : Scene} (harmless : scene.IsHarmless) :
    enclosures scene.text.toList =
        .comment credit.toList :: scene.solids.flatMap Solid.enclosures ∧
      ((∀ handle node, scene.IsAttached handle → scene.nodes.get? handle = some node →
          ∀ expression ∈ node.payload.expressions, IsNested expression.toList) →
        IsNested (outside scene.text.toList)) ∧
      ∀ other : Scene, other.IsHarmless →
        other.solids.map Solid.masked = scene.solids.map Solid.masked →
        outside other.text.toList = outside scene.text.toList := by
  have quiet (expression : String) (isQuiet : IsQuiet expression) : IsQuiet expression := isQuiet
  have laidOut {scene : Scene} (harmless : scene.IsHarmless) := Solid.layout_document
    (harmless.holds fun handle node attached found =>
      (harmless.processed handle node attached found).2)
  refine ⟨(laidOut harmless).enclosures_eq quiet, fun each => ?_,
    fun other otherHarmless same => ?_⟩
  · have both (handle : Handle) (node : Node) (attached : scene.IsAttached handle)
        (found : scene.nodes.get? handle = some node) (expression : String)
        (member : expression ∈ node.payload.expressions) :
        IsQuiet expression ∧ IsNested expression.toList :=
      ⟨(harmless.processed handle node attached found).2 expression member,
        each handle node attached found expression member⟩
    have layout := Solid.layout_document (harmless.holds both)
    exact layout.isNested (fun _ known => known.1) fun _ known => known.2
  · have otherOutside := (laidOut otherHarmless).outside_eq quiet
    rw [same, ← (laidOut harmless).outside_eq quiet] at otherOutside
    exact otherOutside

/-- A scene with an expression, and with strings and an unknown name that may be anything. -/
def labelled (word name : String) : Scene :=
  Operation.afterAll .empty [.insert (.unknown name []),
    .insert (.text ⟨word, none, some word, none, none, none, none, none, none⟩),
    .insert (.cube (.uniform (.expression "[w, (h)]")) true),
    .append (.under ⟨1, 1⟩) ⟨2, 1⟩, .append (.under ⟨1, 1⟩) ⟨3, 1⟩, .append .top ⟨1, 1⟩]

theorem unfolds_labelled (word name : String) :
    List.Forall₂ (labelled word name).Unfolds (labelled word name).top
      [.node (.unknown name []) [
        .node (.text ⟨word, none, some word, none, none, none, none, none, none⟩) [],
        .node (.cube (.uniform (.expression "[w, (h)]")) true) []]] := by
  have text : (labelled word name).Unfolds ⟨2, 1⟩
      (.node (.text ⟨word, none, some word, none, none, none, none, none, none⟩) []) :=
    unfolds_node_iff.mpr ⟨[], by cbv, List.Forall₂.nil⟩
  have cube : (labelled word name).Unfolds ⟨3, 1⟩
      (.node (.cube (.uniform (.expression "[w, (h)]")) true) []) :=
    unfolds_node_iff.mpr ⟨[], by cbv, List.Forall₂.nil⟩
  have root : (labelled word name).Unfolds ⟨1, 1⟩ _ :=
    unfolds_node_iff.mpr ⟨[⟨2, 1⟩, ⟨3, 1⟩], by cbv, .cons text (.cons cube .nil)⟩
  have top : (labelled word name).top = [⟨1, 1⟩] := by cbv
  rw [top]
  exact .cons root .nil

/-- Its one expression has brackets, but neither quotes nor slashes. -/
theorem isHarmless_labelled (word name : String) : (labelled word name).IsHarmless := by
  have unfolds := unfolds_labelled word name
  have quiet : IsQuiet "[w, (h)]" := ⟨by decide, by decide⟩
  refine ⟨IsBuilt.empty.afterAll (by simp [Operation.IsAdmitted]), isAcyclic_of_unfolds unfolds, ?_⟩
  rintro handle node ⟨root, member, path⟩ found
  refine (holds_iff_of_unfolds unfolds).mp ?_ root member handle node path found
  simp [Solid.holds_node_iff, Payload.IsProcessed, Payload.kind, Payload.expressions,
    Vec3.expressions, Scalar.expressions, quiet]

/-- A string that would end its literal and a name that would end its remark stay in their
places, and nothing else changes when both are taken out. -/
theorem text_confines_strings_labelled :
    enclosures (labelled "\"); cube(\\" "a\n\x7d //").text.toList =
        [.comment credit.toList, .ofRemark "a \x7d //", .ofField "\"); cube(\\",
          .ofField "\"); cube(\\"] ∧
      IsNested (outside (labelled "\"); cube(\\" "a\n\x7d //").text.toList) ∧
      outside (labelled "" "").text.toList =
        outside (labelled "\"); cube(\\" "a\n\x7d //").text.toList := by
  have unfolds := unfolds_labelled "\"); cube(\\" "a\n\x7d //"
  obtain ⟨literals, nested, same⟩ :=
    text_confines_strings (isHarmless_labelled "\"); cube(\\" "a\n\x7d //")
  refine ⟨?_, nested ?_, same _ (isHarmless_labelled "" "") ?_⟩
  · rw [literals, solids_eq_of_unfolds unfolds]
    cbv
  · rintro handle node ⟨root, member, path⟩ found
    refine (@holds_iff_of_unfolds _ (fun payload => ∀ expression ∈ payload.expressions,
      IsNested expression.toList) _ _ unfolds).mp ?_ root member handle node path found
    have bracketed : IsNested ['[', 'w', ',', ' ', '(', 'h', ')', ']'] := by decide
    simp [Solid.holds_node_iff, Payload.expressions, Vec3.expressions, Scalar.expressions,
      bracketed]
  · rw [solids_eq_of_unfolds unfolds, solids_eq_of_unfolds (unfolds_labelled "" "")]
    simp [Solid.masked, Solid.maskedAll, Payload.masked]

end Scene

end SolidScene
