/-
This file says what the text of a payload is made of. There are plain words and
numerals, expressions that are passed through, and literals with strings of the
payload in them; they are listed with commas and put between brackets, and nothing
else happens to them. The same is said of two payloads side by side: where they
differ in strings only, their texts differ in literals only.

The relation between two texts that are written alike is parametrised by what is
known of expressions, so that one proof about the payloads serves for several
properties of expressions: that they open no literal, that they have no line break,
that their brackets are nested. It lists the strings of both texts, and these are
the strings that the payloads hold. The second payload of interest is what is left
of the first one without its strings, which is why every payload is compared with
that.
-/
import SolidScene.Proofs.Source.Brackets
import SolidScene.Source.Statement

namespace SolidScene

/-! ### What a payload holds -/

/-- The expression of an argument, if it is one. -/
def Scalar.expressions : Scalar → List String
  | number _ => []
  | expression text => [text]

/-- The expressions of an argument for two axes, in order. -/
def Vec2.expressions : Vec2 → List String
  | uniform value => value.expressions
  | components x y => x.expressions ++ y.expressions

/-- The expressions of an argument for three axes, in order. -/
def Vec3.expressions : Vec3 → List String
  | uniform value => value.expressions
  | components x y z => x.expressions ++ y.expressions ++ z.expressions

/-- The expressions of a sphere or a circle. Only one of radius and diameter is written. -/
def Round.expressions (shape : Round) : List String :=
  shape.radius.toList.flatMap Scalar.expressions ++
    shape.diameter.toList.flatMap Scalar.expressions

/-- The expressions of a cylinder, in order. -/
def Cylinder.expressions (shape : Cylinder) : List String :=
  shape.height.expressions ++ shape.bottom.expressions ++ shape.top.expressions

/-- The expressions of a linear extrusion, in order. -/
def LinearExtrusion.expressions (extrusion : LinearExtrusion) : List String :=
  extrusion.height.expressions ++ extrusion.twist.toList.flatMap Scalar.expressions ++
    extrusion.scale.toList.flatMap Vec2.expressions

namespace Payload

/-- The expressions of a payload, also those that are not written. -/
def expressions : Payload → List String
  | cube size _ => size.expressions
  | sphere shape => shape.expressions
  | cylinder shape => shape.expressions
  | square size _ => size.expressions
  | circle shape => shape.expressions
  | translate offset => offset.expressions
  | rotate angles axis => angles.expressions ++ axis.toList.flatMap Vec3.expressions
  | scale factors => factors.expressions
  | linearExtrude extrusion => extrusion.expressions
  | rotateExtrude extrusion => extrusion.angle.toList.flatMap Scalar.expressions
  | polyhedron _ => []
  | polygon _ => []
  | union => []
  | difference => []
  | intersection => []
  | text _ => []
  | surface _ => []
  | imported _ => []
  | group => []
  | raw _ => []
  | unknown .. => []

/-- The strings that a payload writes in quotes, in order: names, paths, texts and the words of
its choices. -/
def quotedFields : Payload → List String
  | text lettering => lettering.text :: lettering.font.toList ++
      (lettering.horizontal.map Keyword.word).toList ++
      (lettering.vertical.map Keyword.word).toList ++
      (lettering.direction.map Keyword.word).toList ++
      lettering.language.toList ++ lettering.script.toList
  | surface map => [map.file]
  | imported source => source.file :: source.layer.toList
  | _ => []

/-- A payload with nothing in its strings, and without the name and the properties of a kind that
is not known. Strings that are missing stay so. -/
def masked : Payload → Payload
  | text lettering => text { lettering with
      text := ""
      font := lettering.font.map fun _ => ""
      language := lettering.language.map fun _ => ""
      script := lettering.script.map fun _ => "" }
  | surface map => surface { map with file := "" }
  | imported source => imported { source with
      file := ""
      layer := source.layer.map fun _ => "" }
  | unknown _ _ => unknown "" []
  | other => other

end Payload

/-! ### Texts written alike -/

namespace Source

/-- Two texts are written alike if they are made in the same way of the same plain words and
expressions and of literals that may hold different strings. The strings of both are listed. A
separator keeps the texts that it joins apart, whatever they begin and end with. -/
inductive Alike (known : String → Prop) :
    (text other : String) → (fields otherFields : List String) → Prop where
  /-- Plain words and numerals are the same in both. -/
  | plain {text : String} (isPlain : IsPlain text) : Alike known text text [] []
  /-- So are expressions. -/
  | expression {text : String} (isKnown : known text) : Alike known text text [] []
  /-- Literals may hold different strings. -/
  | literal (field other : String) : Alike known (quote field) (quote other) [field] [other]
  | behind {front text other : String} {fields otherFields : List String}
    (isPlain : IsPlain front) (rest : Alike known text other fields otherFields) :
    Alike known (front ++ text) (front ++ other) fields otherFields
  | joined {text other separator : String} {fields otherFields : List String}
    {next nextOther : String} {nextFields nextOtherFields : List String}
    (first : Alike known text other fields otherFields) (isPlain : IsPlain separator)
    (apart : separator ≠ "") (rest : Alike known next nextOther nextFields nextOtherFields) :
    Alike known (text ++ separator ++ next) (other ++ separator ++ nextOther)
      (fields ++ nextFields) (otherFields ++ nextOtherFields)
  | enclosed {text other : String} {fields otherFields : List String} (bracket : Bracket)
    (inside : Alike known text other fields otherFields) :
    Alike known (bracket.around text) (bracket.around other) fields otherFields

/-- The items of two lists are written alike, one by one. -/
inductive AllAlike (known : String → Prop) :
    (texts others : List String) → (fields otherFields : List String) → Prop where
  | nil : AllAlike known [] [] [] []
  | cons {text other : String} {texts others fields otherFields : List String}
    {nextFields nextOtherFields : List String}
    (first : Alike known text other fields otherFields)
    (rest : AllAlike known texts others nextFields nextOtherFields) :
    AllAlike known (text :: texts) (other :: others) (fields ++ nextFields)
      (otherFields ++ nextOtherFields)

/-- A text without literals, written like itself. -/
abbrev Fixed (known : String → Prop) (text : String) : Prop := Alike known text text [] []

section

variable {known : String → Prop} {text other : String} {texts others : List String}
  {fields otherFields nextFields nextOtherFields : List String}

theorem Alike.symm (alike : Alike known text other fields otherFields) :
    Alike known other text otherFields fields := by
  induction alike with
  | plain isPlain => exact plain isPlain
  | expression isKnown => exact expression isKnown
  | literal field other => exact literal other field
  | behind isPlain _ inductionHypothesis => exact behind isPlain inductionHypothesis
  | joined _ isPlain apart _ firstHypothesis restHypothesis =>
    exact joined firstHypothesis isPlain apart restHypothesis
  | enclosed bracket _ inductionHypothesis => exact enclosed bracket inductionHypothesis

/-- A plain end adds no strings. -/
theorem Alike.before {tail : String} (alike : Alike known text other fields otherFields)
    (isPlain : IsPlain tail) (apart : tail ≠ "") :
    Alike known (text ++ tail) (other ++ tail) fields otherFields := by
  have empty : Fixed known "" := Alike.plain (by decide)
  simpa using Alike.joined alike isPlain apart empty

theorem AllAlike.single (alike : Alike known text other fields otherFields) :
    AllAlike known [text] [other] fields otherFields := by
  simpa using AllAlike.cons alike AllAlike.nil

/-- Two lists one after the other are written alike if each of them is. -/
theorem AllAlike.append {moreTexts moreOthers : List String}
    (front : AllAlike known texts others fields otherFields)
    (rest : AllAlike known moreTexts moreOthers nextFields nextOtherFields) :
    AllAlike known (texts ++ moreTexts) (others ++ moreOthers) (fields ++ nextFields)
      (otherFields ++ nextOtherFields) := by
  induction front with
  | nil => exact rest
  | cons first _ inductionHypothesis => simpa using AllAlike.cons first inductionHypothesis

/-- Nothing is added to the strings by texts without literals. -/
theorem AllAlike.appendFixed {moreTexts : List String}
    (front : AllAlike known texts others fields otherFields)
    (rest : AllAlike known moreTexts moreTexts [] []) :
    AllAlike known (texts ++ moreTexts) (others ++ moreTexts) fields otherFields := by
  simpa using front.append rest

/-- A list of texts without literals. -/
theorem AllAlike.fixed (each : ∀ text ∈ texts, Fixed known text) :
    AllAlike known texts texts [] [] := by
  induction texts with
  | nil => exact nil
  | cons first rest inductionHypothesis =>
    exact cons (each first List.mem_cons_self)
      (inductionHypothesis fun text member => each text (List.mem_cons_of_mem _ member))

/-- Texts with commas between them are written alike if each of them is. -/
theorem AllAlike.intercalate (all : AllAlike known texts others fields otherFields) :
    Alike known (", ".intercalate texts) (", ".intercalate others) fields otherFields := by
  induction all with
  | nil => exact Alike.plain (by simp [IsPlain])
  | @cons text other texts others fields otherFields _ _ first rest inductionHypothesis =>
    cases rest with
    | nil => simpa using first
    | cons second later =>
      rw [String.intercalate_cons_cons, String.intercalate_cons_cons]
      exact Alike.joined first (by decide) (by decide) inductionHypothesis

theorem Alike.bracketed (all : AllAlike known texts others fields otherFields) :
    Alike known (bracketed texts) (bracketed others) fields otherFields :=
  Alike.enclosed .square all.intercalate

theorem Alike.call {name : String} (isPlain : IsPlain name)
    (all : AllAlike known texts others fields otherFields) :
    Alike known (call name texts) (call name others) fields otherFields := by
  have split (items : List String) :
      Source.call name items = name ++ Bracket.round.around (", ".intercalate items) := by
    rw [Source.call, String.append_assoc, String.append_assoc]
    rfl
  rw [split, split]
  exact Alike.behind isPlain (Alike.enclosed .round all.intercalate)

theorem Alike.argument {name : String} (isPlain : IsPlain name)
    (alike : Alike known text other fields otherFields) :
    Alike known (argument name text) (argument name other) fields otherFields :=
  Alike.behind (isPlain.append (by simp [IsPlain, marks])) alike

/-! ### Arguments -/

theorem fixed_numeral (number : Binary64) : Fixed known (numeral number) :=
  Alike.plain (isPlain_numeral number)

/-- An argument has no literals: it is a numeral, or an expression of which something is known. -/
theorem fixed_scalar {value : Scalar} (each : ∀ text ∈ value.expressions, known text) :
    Fixed known (scalar value) := by
  cases value with
  | number value => exact fixed_numeral value
  | expression text => exact Alike.expression (each text List.mem_cons_self)

theorem fixed_vec2 {value : Vec2} (each : ∀ text ∈ value.expressions, known text) :
    Fixed known (vec2 value) := by
  cases value with
  | uniform value => exact fixed_scalar each
  | components x y =>
    simp only [Vec2.expressions, List.forall_mem_append] at each
    refine Alike.bracketed (AllAlike.fixed ?_)
    simp only [List.forall_mem_cons]
    exact ⟨fixed_scalar each.1, fixed_scalar each.2, by simp⟩

theorem fixed_vec3 {value : Vec3} (each : ∀ text ∈ value.expressions, known text) :
    Fixed known (vec3 value) := by
  cases value with
  | uniform value => exact fixed_scalar each
  | components x y z =>
    simp only [Vec3.expressions, List.forall_mem_append] at each
    refine Alike.bracketed (AllAlike.fixed ?_)
    simp only [List.forall_mem_cons]
    exact ⟨fixed_scalar each.1.1, fixed_scalar each.1.2, fixed_scalar each.2, by simp⟩

theorem fixed_rows (table : Rows) : Fixed known (rows table) := by
  refine Alike.bracketed (AllAlike.fixed fun row member => ?_)
  obtain ⟨numbers, _, rfl⟩ := List.mem_map.mp member
  refine Alike.bracketed (AllAlike.fixed fun text inside => ?_)
  obtain ⟨number, _, rfl⟩ := List.mem_map.mp inside
  exact fixed_numeral number

theorem fixed_flag (value : Bool) : Fixed known (flag value) := by
  cases value <;> exact Alike.plain (by simp [flag, IsPlain, marks])

/-- A named argument that may be missing and has no literal in it. -/
theorem AllAlike.optional {α : Type} {name : String} (isPlain : IsPlain name)
    {write : α → String} {value? : Option α}
    (each : ∀ value, value? = some value → Fixed known (write value)) :
    AllAlike known (Source.optional name write value?) (Source.optional name write value?)
      [] [] := by
  cases value? with
  | none => exact nil
  | some value => exact single (Alike.argument isPlain (each value rfl))

/-- A named string that may be missing. -/
theorem AllAlike.optionalQuote {name : String} (isPlain : IsPlain name) (field? : Option String)
    (change : String → String) :
    AllAlike known (Source.optional name quote field?)
      (Source.optional name quote (field?.map change)) field?.toList
      (field?.map change).toList := by
  cases field? with
  | none => exact nil
  | some field => exact single (Alike.argument isPlain (Alike.literal field (change field)))

/-- A named choice that may be missing: its word is written as a string. -/
theorem AllAlike.optionalKeyword {α : Type} [Keyword α] {name : String} (isPlain : IsPlain name)
    (value? : Option α) :
    AllAlike known (Source.optional name keyword value?) (Source.optional name keyword value?)
      (value?.map Keyword.word).toList (value?.map Keyword.word).toList := by
  cases value? with
  | none => exact nil
  | some value =>
    exact single (Alike.argument isPlain (Alike.literal (Keyword.word value) (Keyword.word value)))

theorem AllAlike.whenTrue {name : String} (isPlain : IsPlain name) (value : Bool) :
    AllAlike known (Source.whenTrue name value) (Source.whenTrue name value) [] [] := by
  cases value with
  | false => exact nil
  | true => exact single (Alike.argument isPlain (Alike.plain (by simp [IsPlain, marks])))

theorem AllAlike.roundArguments {shape : Round} (each : ∀ text ∈ shape.expressions, known text) :
    AllAlike known (roundArguments shape) (roundArguments shape) [] [] := by
  simp only [Round.expressions, List.forall_mem_append] at each
  refine @AllAlike.cons known _ _ _ _ [] [] [] [] ?_
    (AllAlike.optional (by decide) fun number _ => fixed_numeral number)
  cases diameter : shape.diameter with
  | some diameter' =>
    rw [diameter] at each
    exact Alike.argument (by decide) (fixed_scalar (by simpa using each.2))
  | none =>
    cases radius : shape.radius with
    | some radius' =>
      rw [radius] at each
      exact Alike.argument (by decide) (fixed_scalar (by simpa using each.1))
    | none => exact Alike.argument (by decide) (Alike.plain (by decide))

end

/-! ### Forms -/

/-- Two forms are written alike if they are of one kind and their own texts are written alike.
Heads of blocks have no literals. What is passed through has to be the same; remarks may differ. -/
inductive Form.Alike (known : String → Prop) :
    (form other : Form) → (fields otherFields : List String) → Prop where
  | statement {text other : String} {fields otherFields : List String}
    (alike : Source.Alike known text other fields otherFields) :
    Form.Alike known (.statement text) (.statement other) fields otherFields
  | block {head : String} (fixed : Fixed known head) :
    Form.Alike known (.block head) (.block head) [] []
  | verbatim (code : String) : Form.Alike known (.verbatim code) (.verbatim code) [] []
  | remark (label other : String) : Form.Alike known (.remark label) (.remark other) [] []

/-- What a payload writes is written like what is left of it without its strings. -/
theorem alike_form_masked {known : String → Prop} {payload : Payload}
    (each : ∀ text ∈ payload.expressions, known text) :
    Form.Alike known (form payload) (form payload.masked) payload.quotedFields
      payload.masked.quotedFields := by
  have number (value? : Option Binary64) {name : String} (isPlain : IsPlain name) :
      AllAlike known (optional name numeral value?) (optional name numeral value?) [] [] :=
    AllAlike.optional isPlain fun value _ => fixed_numeral value
  cases payload with
  | cube size center =>
    exact .statement (.call (by decide)
      (.cons (.argument (by decide) (fixed_vec3 each))
        (.single (.argument (by decide) (fixed_flag center)))))
  | sphere shape => exact .statement (.call (by decide) (.roundArguments each))
  | cylinder shape =>
    simp only [Payload.expressions, Cylinder.expressions, List.forall_mem_append] at each
    exact .statement (.call (by decide)
      (.cons (.argument (by decide) (fixed_scalar each.1.1))
        (.cons (.argument (by decide) (fixed_scalar each.1.2))
          (.cons (.argument (by decide) (fixed_scalar each.2)) (number _ (by decide))))))
  | polyhedron shape =>
    exact .statement (.call (by decide)
      (.cons (.argument (by decide) (fixed_rows _))
        (.cons (.argument (by decide) (fixed_rows _)) (number _ (by decide)))))
  | square size center =>
    exact .statement (.call (by decide)
      (.cons (.argument (by decide) (fixed_vec2 each))
        (.single (.argument (by decide) (fixed_flag center)))))
  | circle shape => exact .statement (.call (by decide) (.roundArguments each))
  | polygon shape =>
    exact .statement (.call (by decide)
      (.append (.cons (.argument (by decide) (fixed_rows _))
        (.optional (by decide) fun paths _ => fixed_rows paths)) (number _ (by decide))))
  | union => exact .block (.call (by decide) .nil)
  | difference => exact .block (.call (by decide) .nil)
  | intersection => exact .block (.call (by decide) .nil)
  | translate offset => exact .block (.call (by decide) (.single (fixed_vec3 each)))
  | rotate angles axis =>
    simp only [Payload.expressions, List.forall_mem_append] at each
    refine .block (.call (by decide) (.fixed ?_))
    rw [List.forall_mem_cons]
    refine ⟨fixed_vec3 each.1, fun text member => ?_⟩
    cases axis with
    | none => exact absurd member List.not_mem_nil
    | some axis =>
      rw [List.mem_singleton.mp member]
      exact fixed_vec3 (by simpa using each.2)
  | scale factors => exact .block (.call (by decide) (.single (fixed_vec3 each)))
  | linearExtrude extrusion =>
    simp only [Payload.expressions, LinearExtrusion.expressions, List.forall_mem_append] at each
    refine .block (.call (by decide) (.append (.append (.append (.append (.append
      (.cons (.argument (by decide) (fixed_scalar each.1.1)) (.whenTrue (by decide) _))
      (.optional (by decide) fun twist held => fixed_scalar ?_))
      (.optional (by decide) fun scale held => fixed_vec2 ?_))
      (number _ (by decide))) (number _ (by decide))) (number _ (by decide))))
    · simpa [held] using each.1.2
    · simpa [held] using each.2
  | rotateExtrude extrusion =>
    refine .block (.call (by decide) (.append (.append
      (.optional (by decide) fun angle held => fixed_scalar ?_)
      (number _ (by decide))) (number _ (by decide))))
    simpa [Payload.expressions, held] using each
  | text lettering =>
    exact .statement (.call (by decide) (.appendFixed (.append (.append (.append (.append (.append
      (.append (.cons (.argument (by decide) (.literal lettering.text "")) (number _ (by decide)))
        (.optionalQuote (by decide) lettering.font fun _ => ""))
        (.optionalKeyword (by decide) lettering.horizontal))
        (.optionalKeyword (by decide) lettering.vertical))
        (.optionalKeyword (by decide) lettering.direction))
        (.optionalQuote (by decide) lettering.language fun _ => ""))
        (.optionalQuote (by decide) lettering.script fun _ => ""))
      (number _ (by decide))))
  | surface map =>
    exact .statement (.call (by decide)
      (.append (.append (.cons (.argument (by decide) (.literal map.file ""))
        (.whenTrue (by decide) _)) (.whenTrue (by decide) _)) (number _ (by decide))))
  | imported source =>
    exact .statement (.call (by decide)
      (.append (.cons (.literal source.file "") (number _ (by decide)))
        (.optionalQuote (by decide) source.layer fun _ => "")))
  | group => exact .block (.plain (by decide))
  | raw code => exact .verbatim code
  | unknown name props => exact .remark name ""

end Source

end SolidScene
