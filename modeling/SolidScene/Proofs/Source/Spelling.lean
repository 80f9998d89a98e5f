/-
This file shows that the statement of a text, a height map or an imported file tells
what the node is. The arguments are read back one by one, so a string that looks
like further arguments is not taken for them. All that a statement leaves open is
which of the numbers with one numeral was meant.

For each of the three kinds the arguments of its statement are listed once, and it
is shown that each text in the list is one argument and that each name finds the
value of its own field. Statements that are the same therefore have the same name,
the same list of arguments and the same value under each name; a literal tells its
string, a keyword tells its choice, and a missing argument is told from every one
that is there. The other direction is computed, because payloads that are spelled
alike have one form.
-/
import SolidScene.Proofs.Node.Fields
import SolidScene.Proofs.Source.Arguments
import SolidScene.Proofs.Source.Literal
import SolidScene.Proofs.Source.Plain
import SolidScene.Source.Generate

namespace SolidScene

/-- The kinds of leaves that hold strings other than expressions. -/
def Kind.lettered : List Kind := [.text, .surface, .imported]

namespace Payload

open Source

/-- Two payloads of one kind with the same strings, choices and truth values, whose numbers are
missing in the same places and have the same numerals elsewhere. Only payloads of the lettered kinds
are compared. -/
inductive IsSpelledLike : Payload → Payload → Prop where
  | text (lettering : Lettering) {size spacing : Option Binary64}
    (sameSize : lettering.size.map numeral = size.map numeral)
    (sameSpacing : lettering.spacing.map numeral = spacing.map numeral) :
    IsSpelledLike (text lettering) (text { lettering with size, spacing })
  | surface (map : HeightMap) {convexity : Option Binary64}
    (sameConvexity : map.convexity.map numeral = convexity.map numeral) :
    IsSpelledLike (surface map) (surface { map with convexity })
  | imported (source : ImportedFile) {convexity : Option Binary64}
    (sameConvexity : source.convexity.map numeral = convexity.map numeral) :
    IsSpelledLike (imported source) (imported { source with convexity })

end Payload

namespace Source

/-! ### The arguments of statements -/

/-- The arguments of the statement of a text. -/
def letteringArguments (lettering : Lettering) : List String :=
  argument "text" (quote lettering.text) ::
    optional "size" numeral lettering.size ++ optional "font" quote lettering.font ++
    optional "halign" keyword lettering.horizontal ++
    optional "valign" keyword lettering.vertical ++
    optional "direction" keyword lettering.direction ++
    optional "language" quote lettering.language ++ optional "script" quote lettering.script ++
    optional "spacing" numeral lettering.spacing

/-- The arguments of the statement of a height map. -/
def heightMapArguments (map : HeightMap) : List String :=
  argument "file" (quote map.file) :: whenTrue "center" map.center ++
    whenTrue "invert" map.invert ++ optional "convexity" numeral map.convexity

/-- The arguments of the statement of an imported file. The path has no name. -/
def importArguments (source : ImportedFile) : List String :=
  quote source.file :: optional "convexity" numeral source.convexity ++
    optional "layer" quote source.layer

/-- The form of a text is a call with these arguments. -/
theorem form_text (lettering : Lettering) :
    form (.text lettering) = .statement (call "text" (letteringArguments lettering)) := rfl

theorem form_surface (map : HeightMap) :
    form (.surface map) = .statement (call "surface" (heightMapArguments map)) := rfl

theorem form_imported (source : ImportedFile) :
    form (.imported source) = .statement (call "import" (importArguments source)) := rfl

/-- A numeral is one argument, as it has neither quotes nor commas. -/
theorem isArgument_numeral (number : Binary64) : IsArgument (numeral number) :=
  isArgument_of_bare (isPlain_numeral number).isBare (comma_not_mem_numeral number)

/-- An argument that may be missing is one argument if it is there. -/
theorem isArgument_of_mem_optional {α : Type} {write : α → String}
    (each : ∀ value, IsArgument (write value)) {name : String} (isName : IsName name)
    (value? : Option α) : ∀ text ∈ optional name write value?, IsArgument text := by
  cases value? with
  | none => exact List.forall_mem_nil _
  | some value => exact List.forall_mem_singleton.mpr ((each value).argument isName)

theorem isArgument_of_mem_whenTrue {name : String} (isName : IsName name) (value : Bool) :
    ∀ text ∈ whenTrue name value, IsArgument text := by
  cases value with
  | false => exact List.forall_mem_nil _
  | true =>
    have word : IsArgument "true" := isArgument_of_bare (by simp [IsBare]) (by decide)
    exact List.forall_mem_singleton.mpr (word.argument isName)

theorem isArgument_keyword {α : Type} [Keyword α] (value : α) : IsArgument (keyword value) :=
  isArgument_quote _

/-- Every argument of a text is one argument, whatever its strings are. -/
theorem isArgument_of_mem_letteringArguments (lettering : Lettering) :
    ∀ text ∈ letteringArguments lettering, IsArgument text := by
  simp only [letteringArguments, List.forall_mem_append, List.forall_mem_cons]
  refine ⟨⟨⟨⟨⟨⟨⟨⟨(isArgument_quote _).argument (by decide), ?_⟩, ?_⟩, ?_⟩, ?_⟩, ?_⟩, ?_⟩, ?_⟩, ?_⟩
  · exact isArgument_of_mem_optional isArgument_numeral (by decide) _
  · exact isArgument_of_mem_optional isArgument_quote (by decide) _
  · exact isArgument_of_mem_optional isArgument_keyword (by decide) _
  · exact isArgument_of_mem_optional isArgument_keyword (by decide) _
  · exact isArgument_of_mem_optional isArgument_keyword (by decide) _
  · exact isArgument_of_mem_optional isArgument_quote (by decide) _
  · exact isArgument_of_mem_optional isArgument_quote (by decide) _
  · exact isArgument_of_mem_optional isArgument_numeral (by decide) _

theorem isArgument_of_mem_heightMapArguments (map : HeightMap) :
    ∀ text ∈ heightMapArguments map, IsArgument text := by
  simp only [heightMapArguments, List.forall_mem_append, List.forall_mem_cons]
  refine ⟨⟨⟨(isArgument_quote _).argument (by decide), ?_⟩, ?_⟩, ?_⟩
  · exact isArgument_of_mem_whenTrue (by decide) _
  · exact isArgument_of_mem_whenTrue (by decide) _
  · exact isArgument_of_mem_optional isArgument_numeral (by decide) _

theorem isArgument_of_mem_importArguments (source : ImportedFile) :
    ∀ text ∈ importArguments source, IsArgument text := by
  simp only [importArguments, List.forall_mem_append, List.forall_mem_cons]
  refine ⟨⟨isArgument_quote _, ?_⟩, ?_⟩
  · exact isArgument_of_mem_optional isArgument_numeral (by decide) _
  · exact isArgument_of_mem_optional isArgument_quote (by decide) _

/-! ### Arguments found under their names -/

theorem valueOf?_letteringArguments (lettering : Lettering) :
    valueOf? "text" (letteringArguments lettering) = some (quote lettering.text) ∧
      valueOf? "size" (letteringArguments lettering) = lettering.size.map numeral ∧
      valueOf? "font" (letteringArguments lettering) = lettering.font.map quote ∧
      valueOf? "halign" (letteringArguments lettering) = lettering.horizontal.map keyword ∧
      valueOf? "valign" (letteringArguments lettering) = lettering.vertical.map keyword ∧
      valueOf? "direction" (letteringArguments lettering) = lettering.direction.map keyword ∧
      valueOf? "language" (letteringArguments lettering) = lettering.language.map quote ∧
      valueOf? "script" (letteringArguments lettering) = lettering.script.map quote ∧
      valueOf? "spacing" (letteringArguments lettering) = lettering.spacing.map numeral := by
  unfold letteringArguments
  refine ⟨?_, ?_, ?_, ?_, ?_, ?_, ?_, ?_, ?_⟩
  all_goals
    simp (disch := decide) only [List.cons_append, valueOf?_append, valueOf?_cons_self,
      valueOf?_cons_of_ne, valueOf?_optional_self, valueOf?_optional_of_ne, Option.or_none,
      Option.none_or]

/-- Each field of a height map is found under its name. -/
theorem valueOf?_heightMapArguments (map : HeightMap) :
    valueOf? "file" (heightMapArguments map) = some (quote map.file) ∧
      valueOf? "center" (heightMapArguments map) = (if map.center then some "true" else none) ∧
      valueOf? "invert" (heightMapArguments map) = (if map.invert then some "true" else none) ∧
      valueOf? "convexity" (heightMapArguments map) = map.convexity.map numeral := by
  unfold heightMapArguments
  refine ⟨?_, ?_, ?_, ?_⟩
  all_goals
    simp (disch := decide) only [List.cons_append, valueOf?_append, valueOf?_cons_self,
      valueOf?_cons_of_ne, valueOf?_whenTrue_self, valueOf?_whenTrue_of_ne, valueOf?_optional_self,
      valueOf?_optional_of_ne, Option.or_none, Option.none_or]

/-- The path is the one argument without a name, and the first. -/
theorem valueOf?_tail_importArguments (source : ImportedFile) :
    valueOf? "convexity" (importArguments source).tail = source.convexity.map numeral ∧
      valueOf? "layer" (importArguments source).tail = source.layer.map quote := by
  simp only [importArguments, List.cons_append, List.tail_cons]
  refine ⟨?_, ?_⟩
  all_goals
    simp (disch := decide) only [valueOf?_append, valueOf?_optional_self, valueOf?_optional_of_ne,
      Option.or_none, Option.none_or]

/-! ### Nodes from their arguments -/

/-- Different choices have different words. -/
theorem keyword_injective {α : Type} [Keyword α] [LawfulKeyword α] :
    Function.Injective (keyword : α → String) := by
  intro value other same
  have words := congrArg (Keyword.ofWord? (α := α)) (quote_injective same)
  rwa [LawfulKeyword.ofWord?_word, LawfulKeyword.ofWord?_word, Option.some.injEq] at words

theorem isSpelledLike_text {lettering other : Lettering}
    (same : letteringArguments lettering = letteringArguments other) :
    Payload.IsSpelledLike (.text lettering) (.text other) := by
  have read := valueOf?_letteringArguments other
  rw [← same] at read
  obtain ⟨text, size, font, horizontal, vertical, direction, language, script, spacing⟩ :=
    valueOf?_letteringArguments lettering
  obtain ⟨otherText, otherSize, otherFont, otherHorizontal, otherVertical, otherDirection,
    otherLanguage, otherScript, otherSpacing⟩ := read
  have strings := Option.map_injective quote_injective
  have rest : other = { lettering with size := other.size, spacing := other.spacing } := by
    cases other
    rw [Lettering.mk.injEq]
    exact ⟨quote_injective (Option.some.inj (otherText.symm.trans text)), rfl,
      strings (otherFont.symm.trans font),
      Option.map_injective keyword_injective (otherHorizontal.symm.trans horizontal),
      Option.map_injective keyword_injective (otherVertical.symm.trans vertical),
      Option.map_injective keyword_injective (otherDirection.symm.trans direction),
      strings (otherLanguage.symm.trans language), strings (otherScript.symm.trans script), rfl⟩
  rw [rest]
  exact .text lettering (size.symm.trans otherSize) (spacing.symm.trans otherSpacing)

theorem isSpelledLike_surface {map other : HeightMap}
    (same : heightMapArguments map = heightMapArguments other) :
    Payload.IsSpelledLike (.surface map) (.surface other) := by
  have read := valueOf?_heightMapArguments other
  rw [← same] at read
  obtain ⟨file, center, invert, convexity⟩ := valueOf?_heightMapArguments map
  obtain ⟨otherFile, otherCenter, otherInvert, otherConvexity⟩ := read
  have flags {value other : Bool} (words : (if value then some "true" else none) =
      if other then some "true" else none) : value = other := by
    cases value <;> cases other <;> simp_all
  have rest : other = { map with convexity := other.convexity } := by
    cases other
    rw [HeightMap.mk.injEq]
    exact ⟨quote_injective (Option.some.inj (otherFile.symm.trans file)),
      flags (otherCenter.symm.trans center), flags (otherInvert.symm.trans invert), rfl⟩
  rw [rest]
  exact .surface map (convexity.symm.trans otherConvexity)

theorem isSpelledLike_imported {source other : ImportedFile}
    (same : importArguments source = importArguments other) :
    Payload.IsSpelledLike (.imported source) (.imported other) := by
  have read := valueOf?_tail_importArguments other
  rw [← same] at read
  obtain ⟨convexity, layer⟩ := valueOf?_tail_importArguments source
  obtain ⟨otherConvexity, otherLayer⟩ := read
  have rest : other = { source with convexity := other.convexity } := by
    cases other
    rw [ImportedFile.mk.injEq]
    exact ⟨(quote_injective (List.cons.inj same).1).symm, rfl,
      Option.map_injective quote_injective (otherLayer.symm.trans layer)⟩
  rw [rest]
  exact .imported source (convexity.symm.trans otherConvexity)

/-! ### Statements -/

/-- An optional argument is known from what is written for its value. -/
theorem optional_eq_of_map_eq {α : Type} {write : α → String} {value? other? : Option α}
    (same : value?.map write = other?.map write) (name : String) :
    optional name write value? = optional name write other? := by
  cases value? <;> cases other? <;> simp_all [optional]

end Source

namespace Payload

open Source

theorem IsSpelledLike.form_eq {payload other : Payload} (alike : payload.IsSpelledLike other) :
    form payload = form other := by
  cases alike with
  | text lettering sameSize sameSpacing =>
    simp only [form_text, letteringArguments, optional_eq_of_map_eq sameSize,
      optional_eq_of_map_eq sameSpacing]
  | surface map sameConvexity =>
    simp only [form_surface, heightMapArguments, optional_eq_of_map_eq sameConvexity]
  | imported source sameConvexity =>
    simp only [form_imported, importArguments, optional_eq_of_map_eq sameConvexity]

theorem IsSpelledLike.quotedFields_eq {payload other : Payload}
    (alike : payload.IsSpelledLike other) : payload.quotedFields = other.quotedFields := by
  cases alike <;> rfl

theorem exists_of_mem_lettered {payload : Payload} (lettered : payload.kind ∈ Kind.lettered) :
    (∃ lettering, payload = text lettering) ∨ (∃ map, payload = surface map) ∨
      ∃ source, payload = imported source := by
  cases payload <;> simp [kind, Kind.lettered] at lettered ⊢

/-- A payload of a lettered kind writes a call: its name is that of the kind, and its arguments are
read one by one. -/
theorem isSpelledLike_of_form_eq {payload other : Payload} (lettered : payload.kind ∈ Kind.lettered)
    (otherLettered : other.kind ∈ Kind.lettered) (same : form payload = form other) :
    payload.IsSpelledLike other := by
  rcases exists_of_mem_lettered lettered with ⟨lettering, rfl⟩ | ⟨map, rfl⟩ | ⟨source, rfl⟩ <;>
    rcases exists_of_mem_lettered otherLettered with
      ⟨otherLettering, rfl⟩ | ⟨otherMap, rfl⟩ | ⟨otherSource, rfl⟩ <;>
    simp only [form_text, form_surface, form_imported, Form.statement.injEq] at same <;>
    obtain ⟨names, inside⟩ := call_injective (by decide) (by decide) same
  case inl.inl =>
    exact isSpelledLike_text (eq_of_intercalate_eq
      (isArgument_of_mem_letteringArguments lettering)
      (isArgument_of_mem_letteringArguments otherLettering) (List.cons_ne_nil _ _)
      (List.cons_ne_nil _ _) inside)
  case inr.inl.inr.inl =>
    exact isSpelledLike_surface (eq_of_intercalate_eq (isArgument_of_mem_heightMapArguments map)
      (isArgument_of_mem_heightMapArguments otherMap) (List.cons_ne_nil _ _)
      (List.cons_ne_nil _ _) inside)
  case inr.inr.inr.inr =>
    exact isSpelledLike_imported (eq_of_intercalate_eq (isArgument_of_mem_importArguments source)
      (isArgument_of_mem_importArguments otherSource) (List.cons_ne_nil _ _)
      (List.cons_ne_nil _ _) inside)
  all_goals exact absurd names (by decide)

end Payload

namespace Solid

open Source

/-- The source of a lettered leaf is a statement, whatever the indent and the children are. -/
theorem exists_source_eq_of_lettered {payload : Payload} (lettered : payload.kind ∈ Kind.lettered) :
    ∃ call, form payload = .statement call ∧
      ∀ indent children, (node payload children).source indent = call ++ ";" := by
  have statement {call : String} (formed : form payload = .statement call) (indent : String)
      (children : List Solid) : (node payload children).source indent = call ++ ";" := by
    rw [source, formed, Form.text]
  rcases Payload.exists_of_mem_lettered lettered with ⟨lettering, rfl⟩ | ⟨map, rfl⟩ | ⟨source, rfl⟩
  · exact ⟨_, form_text lettering, statement (form_text lettering)⟩
  · exact ⟨_, form_surface map, statement (form_surface map)⟩
  · exact ⟨_, form_imported source, statement (form_imported source)⟩

/-- The sources of two nodes that carry strings are the same only if the nodes are of one kind, have
the same strings, choices, truth values and missing arguments, and numbers that are written alike.
The strings may be any, and the numbers need not even be finite. -/
theorem source_eq_iff_isSpelledLike {payload other : Payload}
    (lettered : payload.kind ∈ Kind.lettered) (otherLettered : other.kind ∈ Kind.lettered)
    (indent otherIndent : String) (children otherChildren : List Solid) :
    (node payload children).source indent = (node other otherChildren).source otherIndent ↔
      payload.IsSpelledLike other := by
  obtain ⟨call, formed, source⟩ := exists_source_eq_of_lettered lettered
  obtain ⟨otherCall, otherFormed, otherSource⟩ := exists_source_eq_of_lettered otherLettered
  rw [source, otherSource, String.append_left_inj]
  constructor
  · intro same
    refine Payload.isSpelledLike_of_form_eq lettered otherLettered ?_
    rw [formed, otherFormed, same]
  · intro alike
    have forms := alike.form_eq
    rwa [formed, otherFormed, Form.statement.injEq] at forms

/-- A text that looks like a shorter one with a size behind it is not taken for that, and two height
maps with the two zeros have one source. -/
theorem source_eq_iff_isSpelledLike_imitation :
    (node (.text ⟨"a\", size = 5", none, none, none, none, none, none, none, none⟩) []).source "" ≠
        (node (.text ⟨"a", some (.ofSmall 5), none, none, none, none, none, none, none⟩) []).source
          "" ∧
      (node (.surface ⟨"a, b", true, false, some (.zero true)⟩) []).source "" =
        (node (.surface ⟨"a, b", true, false, some (.zero false)⟩) []).source "" := by
  constructor
  · intro same
    have alike := (source_eq_iff_isSpelledLike (by decide) (by decide) _ _ _ _).mp same
    exact absurd alike.quotedFields_eq (by decide)
  · exact (source_eq_iff_isSpelledLike (by decide) (by decide) _ _ _ _).mpr
      (.surface ⟨"a, b", true, false, some (.zero true)⟩ (by decide +kernel))

end Solid

end SolidScene
