/-
This file proves that empty lines separate the statements at the top and nothing
else. Inside a block every line stands behind the two spaces of the block at least,
so no line break of nested raw source leaves an empty line. At the top raw source is
passed through as it is; if it has no empty line itself, the text can be split at
its empty lines, and the parts are the line of the generator and the texts of the
nodes at the top.

Line breaks in expressions are the exception here too: they are not moved, so an
expression may hold empty lines. For all other solids it is proved once, along the
solid, that no line of its text is empty, and raw source at the top is the only case
that has to be assumed. Splitting takes pairs of line breaks from the front, and a
text without empty lines is passed over as a whole, since it has no pair inside and
none can begin at its end.
-/
import SolidScene.Proofs.Source.Indentation

namespace SolidScene

namespace Source

/-! ### Lines -/

/-- The lines of a text: what stands between its line breaks. -/
def lines (text : String) : List String := (text.toList.splitOn '\n').map String.ofList

theorem lines_of_isUnbroken {text : String} (unbroken : IsUnbroken text) : lines text = [text] := by
  rw [lines, List.splitOn_eq_singleton unbroken, List.map_singleton, String.ofList_toList]

/-- The lines of texts below each other are the lines of both. -/
theorem lines_above (text next : String) :
    lines (text ++ "\n" ++ next) = lines text ++ lines next := by
  have split : (text ++ "\n" ++ next).toList = text.toList ++ '\n' :: next.toList := by simp
  rw [lines, split, List.splitOn_append_cons_self, List.map_append, lines, lines]

theorem lines_ne_nil (text : String) : lines text ≠ [] := by
  simp [lines]

theorem toList_intercalate_break (texts : List String) :
    ("\n".intercalate texts).toList = ['\n'].intercalate (texts.map String.toList) :=
  String.toList_intercalate

theorem intercalate_lines (text : String) : "\n".intercalate (lines text) = text := by
  have same : (lines text).map String.toList = text.toList.splitOn '\n' := by
    rw [lines, List.map_map]
    exact (List.map_congr_left fun line _ => String.toList_ofList).trans (List.map_id _)
  rw [← String.toList_inj, toList_intercalate_break, same, List.intercalate_splitOn]

theorem lines_intercalate {texts : List String} (some : texts ≠ [])
    (unbroken : ∀ text ∈ texts, IsUnbroken text) : lines ("\n".intercalate texts) = texts := by
  have pieces : ∀ piece ∈ texts.map String.toList, '\n' ∉ piece := by
    simpa [IsUnbroken] using unbroken
  rw [lines, toList_intercalate_break, List.splitOn_intercalate '\n' pieces (by simpa using some),
    List.map_map]
  exact (List.map_congr_left fun text _ => String.ofList_toList).trans (List.map_id _)

theorem not_mem_of_mem_splitOn {separator : Char} {text piece : List Char}
    (member : piece ∈ text.splitOn separator) : separator ∉ piece := by
  induction text generalizing piece with
  | nil =>
    rw [List.splitOn_nil, List.mem_singleton] at member
    exact member ▸ List.not_mem_nil
  | cons character rest inductionHypothesis =>
    rw [List.splitOn_cons_eq_if_modifyHead] at member
    split_ifs at member with separates
    · rcases List.mem_cons.mp member with rfl | later
      · exact List.not_mem_nil
      · exact inductionHypothesis later
    · obtain ⟨first, others, split⟩ :=
        List.exists_cons_of_ne_nil (List.splitOn_ne_nil separator rest)
      rw [split, List.modifyHead_cons] at member
      rcases List.mem_cons.mp member with rfl | later
      · have here := inductionHypothesis (split ▸ List.mem_cons_self)
        exact List.not_mem_cons_of_ne_of_not_mem (fun same => separates (by simp [same])) here
      · exact inductionHypothesis (split ▸ List.mem_cons_of_mem _ later)

theorem isUnbroken_of_mem_lines {text line : String} (member : line ∈ lines text) :
    IsUnbroken line := by
  obtain ⟨piece, pieceMember, rfl⟩ := List.mem_map.mp member
  rw [IsUnbroken, String.toList_ofList]
  exact not_mem_of_mem_splitOn pieceMember

/-- The lines of a text that is moved to the right are its lines behind the indent. -/
theorem lines_indented {indent : String} (unbroken : IsUnbroken indent) (text : String) :
    lines (indented indent text) = (lines text).map (indent ++ ·) := by
  have moved : indented indent ("\n".intercalate (lines text)) =
      "\n".intercalate ((lines text).map (indent ++ ·)) :=
    indented_lines (lines_ne_nil text) fun line => isUnbroken_of_mem_lines
  rw [intercalate_lines] at moved
  rw [moved]
  refine lines_intercalate (by simp [lines_ne_nil]) ?_
  intro line member
  obtain ⟨original, originalMember, rfl⟩ := List.mem_map.mp member
  exact unbroken.append (isUnbroken_of_mem_lines originalMember)

/-! ### Empty lines -/

/-- A text of which no line is empty. -/
def IsDense (text : String) : Prop := "" ∉ lines text

/-- A single line that is not empty leaves no line empty. -/
theorem IsDense.of_isUnbroken {text : String} (unbroken : IsUnbroken text) (filled : text ≠ "") :
    IsDense text := by
  rw [IsDense, lines_of_isUnbroken unbroken, List.mem_singleton]
  exact filled.symm

/-- Texts below each other have no empty line if neither has one. -/
theorem isDense_above {text next : String} :
    IsDense (text ++ "\n" ++ next) ↔ IsDense text ∧ IsDense next := by
  rw [IsDense, lines_above, List.mem_append, not_or, IsDense, IsDense]

/-- Behind an indent no line is empty. -/
theorem isDense_indented {indent : String} (unbroken : IsUnbroken indent) (filled : indent ≠ "")
    (text : String) : IsDense (indented indent text) := by
  rw [IsDense, lines_indented unbroken, List.mem_map]
  rintro ⟨line, -, empty⟩
  exact filled (String.append_eq_empty_iff.mp empty).1

/-- A text without two line breaks in a row, and without one at either end. -/
structure IsGapless (text : String) : Prop where
  /-- No line inside is empty. -/
  noPair : ¬['\n', '\n'] <:+: text.toList
  /-- Nor is the first one. -/
  head : text.toList.head? ≠ some '\n'
  /-- Nor is the last one. -/
  last : text.toList.getLast? ≠ some '\n'

theorem nil_not_mem_splitOn {text : List Char} (filled : text ≠ [])
    (noPair : ¬['\n', '\n'] <:+: text) (head : text.head? ≠ some '\n')
    (last : text.getLast? ≠ some '\n') : [] ∉ text.splitOn '\n' := by
  induction size : text.length using Nat.strong_induction_on generalizing text with
  | _ length inductionHypothesis =>
    by_cases broken : '\n' ∈ text
    · obtain ⟨before, after, rfl, unbroken⟩ := List.eq_append_cons_of_mem broken
      have some : after ≠ [] := by
        rintro rfl
        exact last List.getLast?_concat
      have first : after.head? ≠ .some '\n' := by
        intro starts
        obtain ⟨later, rfl⟩ := List.head?_eq_some_iff.mp starts
        exact noPair ⟨before, later, by simp⟩
      have ends : after.getLast? ≠ .some '\n' := by
        rwa [List.getLast?_append_cons, List.getLast?_cons_of_ne_nil some] at last
      have inside : after <:+: before ++ '\n' :: after := ⟨before ++ ['\n'], [], by simp⟩
      have later := inductionHypothesis after.length (by simp [← size]; omega) some
        (fun pair => noPair (pair.trans inside)) first ends rfl
      rw [List.splitOn_append_cons_self_of_not_mem unbroken]
      refine List.not_mem_cons_of_ne_of_not_mem ?_ later
      rintro rfl
      exact head rfl
    · rw [List.splitOn_eq_singleton broken]
      exact fun member => filled (List.mem_singleton.mp member).symm

theorem IsGapless.isDense {text : String} (gapless : IsGapless text) (filled : text ≠ "") :
    IsDense text := by
  intro member
  obtain ⟨piece, pieceMember, same⟩ := List.mem_map.mp member
  have empty : piece = [] := by simpa using congrArg String.toList same
  exact nil_not_mem_splitOn (by simpa using filled) gapless.noPair gapless.head gapless.last
    (empty ▸ pieceMember)

/-! ### Paragraphs -/

/-- The parts of a text between its pairs of line breaks, taken from the front. -/
def splitAtPairs : List Char → List (List Char)
  | [] => [[]]
  | '\n' :: '\n' :: rest => [] :: splitAtPairs rest
  | character :: rest => (splitAtPairs rest).modifyHead (character :: ·)

/-- The paragraphs of a text: what stands between its pairs of line breaks. -/
def paragraphs (text : String) : List String := (splitAtPairs text.toList).map String.ofList

/-- A character that does not begin a pair goes on with the first part. -/
theorem splitAtPairs_cons {character : Char} {rest : List Char}
    (apart : character ≠ '\n' ∨ rest.head? ≠ some '\n') :
    splitAtPairs (character :: rest) = (splitAtPairs rest).modifyHead (character :: ·) := by
  rw [splitAtPairs]
  rintro later rfl rfl
  simp at apart

theorem splitAtPairs_append_of_not_mem {line : List Char} (unbroken : '\n' ∉ line)
    (rest : List Char) :
    splitAtPairs (line ++ rest) = (splitAtPairs rest).modifyHead (line ++ ·) := by
  induction line with
  | nil => exact (congrFun List.modifyHead_id _).symm
  | cons character line inductionHypothesis =>
    rw [List.mem_cons, not_or] at unbroken
    rw [List.cons_append, splitAtPairs_cons (.inl (Ne.symm unbroken.1)),
      inductionHypothesis unbroken.2, List.modifyHead_modifyHead]
    rfl

/-- Nothing is split inside lines that are not empty, nor where they end. -/
theorem splitAtPairs_intercalate_append {lines : List (List Char)} (some : lines ≠ [])
    (each : ∀ line ∈ lines, line ≠ [] ∧ '\n' ∉ line) (rest : List Char) :
    splitAtPairs (['\n'].intercalate lines ++ rest) =
      (splitAtPairs rest).modifyHead (['\n'].intercalate lines ++ ·) := by
  induction lines with
  | nil => exact absurd rfl some
  | cons line below inductionHypothesis =>
    have unbroken := (each line List.mem_cons_self).2
    cases below with
    | nil => rw [List.intercalate_singleton, splitAtPairs_append_of_not_mem unbroken]
    | cons next later =>
      have others := inductionHypothesis (by simp) fun other member =>
        each other (List.mem_cons_of_mem _ member)
      have apart : (['\n'].intercalate (next :: later) ++ rest).head? ≠ .some '\n' := by
        obtain ⟨filled, nextUnbroken⟩ := each next (by simp)
        obtain ⟨character, tail, rfl⟩ := List.exists_cons_of_ne_nil filled
        have other : character ≠ '\n' := fun same => nextUnbroken (by simp [same])
        cases later <;> simpa using other
      rw [List.intercalate_cons_cons, List.append_assoc, List.append_assoc,
        splitAtPairs_append_of_not_mem unbroken, List.singleton_append,
        splitAtPairs_cons (.inr apart), others, List.modifyHead_modifyHead,
        List.modifyHead_modifyHead]
      simp [Function.comp_def]

/-- Nothing is split inside a text without empty lines, nor where it ends. -/
theorem splitAtPairs_append {text : List Char} (dense : [] ∉ text.splitOn '\n')
    (rest : List Char) :
    splitAtPairs (text ++ rest) = (splitAtPairs rest).modifyHead (text ++ ·) := by
  have split := splitAtPairs_intercalate_append (List.splitOn_ne_nil '\n' text)
    (fun line member => ⟨fun empty => dense (empty ▸ member), not_mem_of_mem_splitOn member⟩) rest
  rwa [List.intercalate_splitOn] at split

theorem IsDense.nil_not_mem {text : String} (dense : IsDense text) :
    [] ∉ text.toList.splitOn '\n' :=
  fun member => dense (List.mem_map.mpr ⟨[], member, rfl⟩)

/-- Texts without empty lines are found again when empty lines stand between them. -/
theorem paragraphs_intercalate {texts : List String} (some : texts ≠ [])
    (dense : ∀ text ∈ texts, IsDense text) : paragraphs ("\n\n".intercalate texts) = texts := by
  induction texts with
  | nil => exact absurd rfl some
  | cons text rest inductionHypothesis =>
    have split := splitAtPairs_append (dense text List.mem_cons_self).nil_not_mem
    cases rest with
    | nil =>
      have alone := split []
      rw [List.append_nil, splitAtPairs, List.modifyHead_cons, List.append_nil] at alone
      rw [String.intercalate_singleton, paragraphs, alone, List.map_singleton, String.ofList_toList]
    | cons next later =>
      have others := inductionHypothesis (by simp) fun other member =>
        dense other (List.mem_cons_of_mem _ member)
      have between : ("\n\n".intercalate (text :: next :: later)).toList =
          text.toList ++ '\n' :: '\n' :: ("\n\n".intercalate (next :: later)).toList := by
        simp
      rw [paragraphs, between, split, splitAtPairs, List.modifyHead_cons, List.append_nil,
        List.map_cons, String.ofList_toList, ← paragraphs, others]

end Source

open Source

/-! ### Solids without empty lines -/

namespace Source.Form

variable {form : Form}

theorem isDense_opening (encloses : form.Encloses) (unbroken : IsUnbroken form.words) :
    IsDense (form.opening "") := by
  cases form with
  | statement | verbatim => exact encloses.elim
  | block head =>
    exact .of_isUnbroken ((isUnbroken_spacedHead unbroken).append (by decide)) (by simp [opening])
  | remark label =>
    have line : IsUnbroken ("// " ++ onOneLine label) :=
      IsUnbroken.append (by decide) (isOneLine_onOneLine label).isUnbroken
    have brace : IsDense "\x7b" := .of_isUnbroken (by decide) (by decide)
    rw [opening, String.append_empty]
    exact isDense_above.mpr ⟨.of_isUnbroken line (by simp), brace⟩

/-- Without lines of children, what is not passed through is one line. -/
theorem isUnbroken_text_empty (unbroken : IsUnbroken form.words)
    (processed : ∀ code, form ≠ .verbatim code) : IsUnbroken (form.text "" "") := by
  cases form with
  | statement call => exact IsUnbroken.append unbroken (by decide)
  | block head =>
    rw [text, block_empty]
    exact (isUnbroken_spacedHead unbroken).append (by decide)
  | verbatim code => exact absurd rfl (processed code)
  | remark label =>
    rw [text, if_pos rfl]
    exact (IsUnbroken.append (by decide) (isOneLine_onOneLine label).isUnbroken).append (by decide)

end Source.Form

namespace Solid

/-- A solid that is not raw source has no empty line, whatever raw source is in its blocks. -/
theorem isDense_source {payload : Payload} {children : List Solid}
    (processed : payload.kind ≠ .raw)
    (unbroken : (node payload children).Holds Payload.IsUnbroken) :
    IsDense ((node payload children).source "") := by
  rw [holds_node_iff] at unbroken
  have words := isUnbroken_words unbroken.1
  by_cases filled : payload.kind ∈ Kind.enclosing ∧ ∃ child ∈ children, child.source "" ≠ ""
  · obtain ⟨enclosing, filled⟩ := filled
    have opening := Form.isDense_opening (Form.encloses_iff.mpr enclosing) words
    have inside : IsDense (indented ("" ++ indentStep) (stacked (children.map (source "")))) :=
      isDense_indented (by decide) (by decide) _
    have brace : IsDense "\x7d" := .of_isUnbroken (by decide) (by decide)
    rw [source_of_moves enclosing (moves_of_isUnbroken unbroken.2) filled, String.append_empty]
    exact isDense_above.mpr ⟨isDense_above.mpr ⟨opening, inside⟩, brace⟩
  · have alone : (node payload children).source "" = (form payload).text "" "" := by
      rw [source_node]
      by_cases enclosing : payload.kind ∈ Kind.enclosing
      · have each : ∀ child ∈ children, child.source "" = "" := by simpa [enclosing] using filled
        have none : inner ("" ++ indentStep) (children.map (source ("" ++ indentStep))) = "" := by
          rw [map_source_eq (moves_of_isUnbroken unbroken.2), inner_afterBreaks_eq_empty_iff]
          simpa using each
        rw [none]
      · exact Form.text_of_not_encloses (mt Form.encloses_iff.mp enclosing) _ _
    rw [alone]
    refine .of_isUnbroken (Form.isUnbroken_text_empty words fun code passed => ?_)
      (text_form_ne_empty processed _ _)
    exact processed (kind_of_form_verbatim passed)

/-- Raw source is passed through, unless it is blank. -/
theorem source_raw (code : String) (children : List Solid) :
    (node (.raw code) children).source "" = if Text.allBlank code then "" else code := by
  rw [source_node, form, Form.text, afterBreaks_empty]

end Solid

/-! ### The text of a scene -/

namespace Scene

/-- If no expression has a line break, and raw source at the top has no empty line and no line
break at its ends, then the text of a scene without cycles can be split where two line breaks
meet: into the line of the generator and the texts of the nodes at the top, in order and without
the empty ones. Apart from that no line is empty: neither in the text of a node at the top nor in
the lines of a node at any depth. -/
theorem paragraphs_text {scene : Scene} (built : scene.IsBuilt) (acyclic : scene.IsAcyclic)
    (unbroken : ∀ handle node, scene.IsAttached handle → scene.nodes.get? handle = some node →
      node.payload.IsUnbroken)
    (gapless : ∀ root ∈ scene.top, ∀ code children,
      scene.nodes.get? root = some ⟨.raw code, children⟩ → IsGapless code) :
    paragraphs scene.text = credit :: (scene.top.map (scene.source "")).filter (· ≠ "") ∧
      (∀ root ∈ scene.top, scene.source "" root ≠ "" → IsDense (scene.source "" root)) ∧
      ∀ handle, scene.IsAttached handle → ∀ indent, IsUnbroken indent → indent ≠ "" →
        IsDense (indent ++ scene.source indent handle) := by
  have dense : ∀ root ∈ scene.top, scene.source "" root ≠ "" →
      IsDense (scene.source "" root) := by
    intro root member filled
    obtain ⟨⟨payload, children⟩, unfolds⟩ :=
      exists_unfolds built.isClosed (built.isClosed.top_live root member) (acyclic root member)
    rw [unfolds.source_eq] at filled ⊢
    by_cases raw : payload.kind = .raw
    · obtain ⟨code, rfl⟩ := exists_code_of_kind_raw raw
      obtain ⟨handles, found, -⟩ := unfolds_node_iff.mp unfolds
      rw [Solid.source_raw] at filled ⊢
      split_ifs at filled ⊢ with blank
      · exact absurd rfl filled
      · exact (gapless root member code handles found).isDense filled
    · exact Solid.isDense_source raw (unfolds.holds_iff.mpr fun other node path =>
        unbroken other node ⟨root, member, path⟩)
  refine ⟨?_, dense, ?_⟩
  · obtain ⟨solids, unfolds⟩ := exists_unfolds_top built.isClosed acyclic
    rw [text, solids_eq_of_unfolds unfolds, ← map_source_eq_of_unfolds unfolds]
    refine paragraphs_intercalate (by simp) (List.forall_mem_cons.mpr
      ⟨.of_isUnbroken (by decide) (by decide), fun statement member => ?_⟩)
    obtain ⟨listed, filled⟩ := List.mem_filter.mp member
    obtain ⟨root, rootMember, rfl⟩ := List.mem_map.mp listed
    exact dense root rootMember (by simpa using filled)
  · rintro handle ⟨root, member, path⟩ indent indentUnbroken filled
    have live := built.isClosed.live_of_reaches (built.isClosed.top_live root member) path
    obtain ⟨solid, unfolds⟩ :=
      exists_unfolds built.isClosed live ((acyclic root member).of_reaches path)
    have holds := unfolds.holds_iff.mpr fun other node rest =>
      unbroken other node ⟨root, member, path.trans rest⟩
    have moves := Solid.moves_of_isUnbroken (List.forall_mem_singleton.mpr holds)
    rw [unfolds.source_eq, List.forall_mem_singleton.mp moves indent]
    exact isDense_indented indentUnbroken filled _

/-- A scene with raw source at the top, behind a union of raw source full of line breaks. -/
def gapped : Scene :=
  Operation.afterAll .empty [.insert .union, .insert (.raw "\na();\n\n\nb();\n"),
    .insert (.raw "c();\nd();"), .append (.under ⟨1, 1⟩) ⟨2, 1⟩, .append .top ⟨1, 1⟩,
    .append .top ⟨3, 1⟩]

/-- Its solids. -/
def gappedSolids : List Solid :=
  [.node .union [.node (.raw "\na();\n\n\nb();\n") []], .node (.raw "c();\nd();") []]

theorem unfolds_gapped : List.Forall₂ gapped.Unfolds gapped.top gappedSolids := by
  have inside : gapped.Unfolds ⟨2, 1⟩ (.node (.raw "\na();\n\n\nb();\n") []) :=
    unfolds_node_iff.mpr ⟨[], by cbv, .nil⟩
  have union : gapped.Unfolds ⟨1, 1⟩ (.node .union [.node (.raw "\na();\n\n\nb();\n") []]) :=
    unfolds_node_iff.mpr ⟨[⟨2, 1⟩], by cbv, .cons inside .nil⟩
  have below : gapped.Unfolds ⟨3, 1⟩ (.node (.raw "c();\nd();") []) :=
    unfolds_node_iff.mpr ⟨[], by cbv, .nil⟩
  have top : gapped.top = [⟨1, 1⟩, ⟨3, 1⟩] := by cbv
  rw [top]
  exact .cons union (.cons below .nil)

/-- The line breaks inside the union do not split it. -/
theorem paragraphs_text_gapped :
    paragraphs gapped.text =
      [credit, "union() \x7b\n  \n  a();\n  \n  \n  b();\n  \n\x7d", "c();\nd();"] := by
  have built : gapped.IsBuilt := IsBuilt.empty.afterAll (by simp [Operation.IsAdmitted])
  have unbroken : ∀ handle node, gapped.IsAttached handle →
      gapped.nodes.get? handle = some node → node.payload.IsUnbroken := by
    have holds : ∀ solid ∈ gappedSolids, solid.Holds Payload.IsUnbroken := by
      simp [gappedSolids, Solid.holds_node_iff, Payload.IsUnbroken, Payload.expressions]
    rintro handle node ⟨root, member, path⟩ found
    exact (holds_iff_of_unfolds unfolds_gapped).mp holds root member handle node path found
  have gapless : ∀ root ∈ gapped.top, ∀ code children,
      gapped.nodes.get? root = some ⟨.raw code, children⟩ → IsGapless code := by
    have top : gapped.top = [⟨1, 1⟩, ⟨3, 1⟩] := by cbv
    have first : gapped.nodes.get? ⟨1, 1⟩ = some ⟨.union, [⟨2, 1⟩]⟩ := by cbv
    have second : gapped.nodes.get? ⟨3, 1⟩ = some ⟨.raw "c();\nd();", []⟩ := by cbv
    rw [top, List.forall_mem_cons, List.forall_mem_singleton, first, second]
    refine ⟨fun code children same => ?_, fun code children same => ?_⟩
    · cases same
    · cases same
      exact ⟨by decide, by decide, by decide⟩
  have split := (paragraphs_text built (isAcyclic_of_unfolds unfolds_gapped) unbroken gapless).1
  rw [map_source_eq_of_unfolds unfolds_gapped] at split
  exact split.trans (by decide)

end Scene

end SolidScene
