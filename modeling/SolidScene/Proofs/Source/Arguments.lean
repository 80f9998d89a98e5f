/-
This file reads the arguments of a call back from its text. A comma that is not in a
literal ends an argument, whatever the strings of the call imitate, so the text of a
list of arguments is that of no other list. The names tell which arguments are there
and which were left out.

What is proved is that lists are told apart, not that a reader computes them: two
lists of arguments with one text are the same list. Where an argument ends is found
through lexemes, of which the commas that are code are the ones that count; the text
of an argument may hold any other comma inside of a literal. An argument is then
looked up by its name, and since names are made of characters that mean nothing
else, no value can be taken for a name in front of another value.
-/
import SolidScene.Proofs.Source.Lexeme

namespace SolidScene.Source

/-! ### Where an argument ends -/

/-- A list is cut in one way in front of the first mark. -/
theorem eq_of_append_cons_eq {α : Type} {mark : α} {front other rest otherRest : List α}
    (apart : mark ∉ front) (otherApart : mark ∉ other)
    (same : front ++ mark :: rest = other ++ mark :: otherRest) :
    front = other ∧ rest = otherRest := by
  rcases List.append_eq_append_iff.mp same with ⟨between, rfl, tail⟩ | ⟨between, rfl, tail⟩
  · cases between with
    | nil => simpa using tail
    | cons first between =>
      obtain ⟨rfl, -⟩ := List.cons_eq_cons.mp tail
      simp at otherApart
  · cases between with
    | nil => simpa using tail.symm
    | cons first between =>
      obtain ⟨rfl, -⟩ := List.cons_eq_cons.mp tail
      simp at apart

/-- A text is known from its lexemes, since they make it up. -/
theorem lexemes_injective : Function.Injective lexemes := by
  intro text other same
  rw [← characters_lexemes text, same, characters_lexemes]

/-- A text that a reader takes for one argument: it leaves no literal open, and no comma stands
outside of its literals. -/
structure IsArgument (text : String) : Prop where
  isCode : IsCode text.toList
  noComma : .code ',' ∉ lexemes text.toList

/-- A name of a call or of an argument: no character of it means anything to a reader of calls. -/
def IsName (name : String) : Prop :=
  ∀ character ∈ name.toList, character ∉ ['"', '/', '(', ',', ' ']

-- Deciding goes through the characters of the name, not through all characters that there are.
instance (name : String) : Decidable (IsName name) :=
  List.decidableBAll (fun character => character ∉ ['"', '/', '(', ',', ' ']) name.toList

section

variable {text other rest otherRest name : String}

theorem IsName.not_mem (isName : IsName name) {mark : Char}
    (marks : mark ∈ ['"', '/', '(', ',', ' ']) : mark ∉ name.toList :=
  fun member => isName mark member marks

theorem isArgument_of_bare (bare : IsBare text.toList) (noComma : ',' ∉ text.toList) :
    IsArgument text where
  isCode rest _ := bare.splits rest
  noComma := by
    rw [bare.lexemes_eq]
    simpa using noComma

/-- A comma inside of a literal is not met. -/
theorem isArgument_quote (field : String) : IsArgument (quote field) where
  isCode rest _ := by
    rw [Splits, lexemes_quote_append, lexemes_quote, List.singleton_append]
  noComma := by
    rw [lexemes_quote]
    simp

/-- The name in front of an argument is read by itself. -/
theorem IsArgument.argument (value : IsArgument text) (isName : IsName name) :
    IsArgument (argument name text) := by
  have signIsBare : IsBare (" = ").toList := by simp [IsBare]
  have bare : IsBare (name ++ " = ").toList := by
    intro character member
    rw [String.toList_append, List.mem_append] at member
    rcases member with inside | sign
    · exact ⟨fun same => isName.not_mem (by decide) (same ▸ inside),
        fun same => isName.not_mem (by decide) (same ▸ inside)⟩
    · exact signIsBare character sign
  have noComma : ',' ∉ (name ++ " = ").toList := by
    rw [String.toList_append, List.mem_append, not_or]
    exact ⟨isName.not_mem (by decide), by decide⟩
  rw [Source.argument]
  refine ⟨fun rest apart => ?_, ?_⟩
  · rw [String.toList_append]
    exact (bare.splits _).append (bare.splits _) (value.isCode rest apart)
  · rw [String.toList_append, bare.splits, bare.lexemes_eq, List.mem_append, not_or]
    exact ⟨by simpa using noComma, value.noComma⟩

/-- The first comma that a reader meets is the one behind the argument. -/
theorem IsArgument.lexemes_append (argument : IsArgument text) (rest : String) :
    lexemes (text ++ ", " ++ rest).toList =
      lexemes text.toList ++ .code ',' :: .code ' ' :: lexemes rest.toList := by
  have comma : IsBare ", ".toList := by simp [IsBare]
  rw [String.append_assoc, String.toList_append, argument.isCode, String.toList_append,
    comma.splits, comma.lexemes_eq]
  · rfl
  · simp

/-- An argument with a comma behind it is found at the front of any text. -/
theorem IsArgument.append_injective (argument : IsArgument text) (another : IsArgument other)
    (same : text ++ ", " ++ rest = other ++ ", " ++ otherRest) :
    text = other ∧ rest = otherRest := by
  have read := congrArg (fun source => lexemes source.toList) same
  simp only [argument.lexemes_append, another.lexemes_append] at read
  obtain ⟨front, behind⟩ := eq_of_append_cons_eq argument.noComma another.noComma read
  exact ⟨String.toList_inj.mp (lexemes_injective front),
    String.toList_inj.mp (lexemes_injective (List.cons.inj behind).2)⟩

/-- No argument is two. -/
theorem IsArgument.ne_append (argument : IsArgument text) (another : IsArgument other) :
    text ≠ other ++ ", " ++ rest := by
  rintro rfl
  refine argument.noComma ?_
  rw [another.lexemes_append]
  simp

end

/-! ### Lists of arguments -/

/-- Lists of arguments with one text are the same. The text of an empty list is that of a list of
one empty argument, so neither of the lists is empty. -/
theorem eq_of_intercalate_eq {arguments others : List String}
    (each : ∀ text ∈ arguments, IsArgument text) (otherEach : ∀ text ∈ others, IsArgument text)
    (filled : arguments ≠ []) (otherFilled : others ≠ [])
    (same : ", ".intercalate arguments = ", ".intercalate others) : arguments = others := by
  induction arguments generalizing others with
  | nil => exact absurd rfl filled
  | cons first rest inductionHypothesis =>
    cases others with
    | nil => exact absurd rfl otherFilled
    | cons other otherRest =>
      obtain ⟨isArgument, later⟩ := List.forall_mem_cons.mp each
      obtain ⟨otherIsArgument, otherLater⟩ := List.forall_mem_cons.mp otherEach
      cases rest <;> cases otherRest
      case nil.nil => simpa using same
      case nil.cons next otherRest =>
        rw [String.intercalate_singleton, String.intercalate_cons_cons] at same
        exact absurd same (isArgument.ne_append otherIsArgument)
      case cons.nil next rest =>
        rw [String.intercalate_singleton, String.intercalate_cons_cons] at same
        exact absurd same.symm (otherIsArgument.ne_append isArgument)
      case cons.cons next rest otherNext otherRest =>
        rw [String.intercalate_cons_cons, String.intercalate_cons_cons] at same
        obtain ⟨rfl, behind⟩ := isArgument.append_injective otherIsArgument same
        rw [inductionHypothesis later otherLater (List.cons_ne_nil _ _) (List.cons_ne_nil _ _)
          behind]

/-- A call is known by its name up to the bracket, and then by the text of its arguments. -/
theorem call_injective {name other : String} {arguments others : List String}
    (isName : IsName name) (otherIsName : IsName other)
    (same : call name arguments = call other others) :
    name = other ∧ ", ".intercalate arguments = ", ".intercalate others := by
  have split (name : String) (arguments : List String) :
      (call name arguments).toList =
        name.toList ++ '(' :: ((", ".intercalate arguments).toList ++ [')']) := by
    simp [call]
  have characters := congrArg String.toList same
  rw [split, split] at characters
  obtain ⟨names, inside⟩ := eq_of_append_cons_eq (isName.not_mem (by decide))
    (otherIsName.not_mem (by decide)) characters
  exact ⟨String.toList_inj.mp names, String.toList_inj.mp (List.append_cancel_right inside)⟩

/-! ### Named arguments -/

/-- The value of an argument, if it has the name. -/
def valueUnder? (name argument : String) : Option String :=
  ((name ++ " = ").toList.isPrefixOf? argument.toList).map String.ofList

/-- The value of the argument of a name, if there is one. -/
def valueOf? (name : String) (arguments : List String) : Option String :=
  arguments.findSome? (valueUnder? name)

section

variable {name other : String}

theorem valueUnder?_argument (name value : String) :
    valueUnder? name (argument name value) = some value := by
  have front : (name ++ " = ").toList.isPrefixOf? (argument name value).toList =
      some value.toList :=
    List.isPrefixOf?_eq_some_iff_append_eq.mpr String.toList_append.symm
  rw [valueUnder?, front, Option.map_some, String.ofList_toList]

theorem valueUnder?_of_ne (isName : IsName name) (otherIsName : IsName other)
    (apart : other ≠ name) (value : String) : valueUnder? name (argument other value) = none := by
  rw [valueUnder?, Option.map_eq_none_iff, Option.eq_none_iff_forall_ne_some]
  intro rest front
  rw [List.isPrefixOf?_eq_some_iff_append_eq, argument] at front
  simp only [String.toList_append, List.append_assoc] at front
  have names := (eq_of_append_cons_eq (isName.not_mem (by decide))
    (otherIsName.not_mem (by decide)) front).1
  exact apart (String.toList_inj.mp names).symm

theorem valueOf?_append (name : String) (arguments others : List String) :
    valueOf? name (arguments ++ others) = (valueOf? name arguments).or (valueOf? name others) :=
  List.findSome?_append

/-- An argument is found under its name in front of any others. -/
theorem valueOf?_cons_self (name value : String) (rest : List String) :
    valueOf? name (argument name value :: rest) = some value := by
  rw [valueOf?, List.findSome?_cons, valueUnder?_argument]

theorem valueOf?_cons_of_ne (isName : IsName name) (otherIsName : IsName other)
    (apart : other ≠ name) (value : String) (rest : List String) :
    valueOf? name (argument other value :: rest) = valueOf? name rest := by
  rw [valueOf?, List.findSome?_cons, valueUnder?_of_ne isName otherIsName apart, valueOf?]

variable {α : Type} (write : α → String) (value? : Option α) (value : Bool)

/-- An argument that may be missing is found exactly if it is there. -/
theorem valueOf?_optional_self (name : String) :
    valueOf? name (optional name write value?) = value?.map write := by
  cases value? with
  | none => rfl
  | some value => exact valueOf?_cons_self name (write value) []

theorem valueOf?_optional_of_ne (isName : IsName name) (otherIsName : IsName other)
    (apart : other ≠ name) : valueOf? name (optional other write value?) = none := by
  cases value? with
  | none => rfl
  | some value => exact valueOf?_cons_of_ne isName otherIsName apart (write value) []

theorem valueOf?_whenTrue_self (name : String) :
    valueOf? name (whenTrue name value) = if value then some "true" else none := by
  cases value with
  | false => rfl
  | true => exact valueOf?_cons_self name "true" []

theorem valueOf?_whenTrue_of_ne (isName : IsName name) (otherIsName : IsName other)
    (apart : other ≠ name) : valueOf? name (whenTrue other value) = none := by
  cases value with
  | false => rfl
  | true => exact valueOf?_cons_of_ne isName otherIsName apart "true" []

end

end SolidScene.Source
