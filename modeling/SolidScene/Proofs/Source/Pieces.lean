/-
This file reads nested lists back from the generated source. A reader cuts a list at
the commas that are in no group of brackets, and the arguments of a statement alike.
A numeral has no comma, and those of a list are in the group between its brackets,
so neither is cut, and the reader gets every row with every entry.

The reader is the one by which brackets are nested, with the commas outside of
groups added to it. A text that it takes for one piece, whatever comes behind it, is
called a piece here, and pieces are closed under the ways in which the source is put
together: a numeral is one, a bracketed list of pieces is one, and so is a named
argument with a piece as its value. From that the lists are read back at any depth,
here at two.
-/
import Mathlib.Data.List.Basic
import SolidScene.Proofs.Results
import SolidScene.Proofs.Source.Brackets
import SolidScene.Source.Statement

namespace SolidScene

namespace Source

/-! ### A reader of nested lists -/

/-- Pieces with some more characters in front of the first one. -/
def prepend (front : List Char) (pieces : List (List Char)) : List (List Char) :=
  pieces.modifyHead (front ++ ·)

@[simp] theorem prepend_cons (front first : List Char) (rest : List (List Char)) :
    prepend front (first :: rest) = (front ++ first) :: rest := rfl

/-- The pieces between the commas that are in no group, given the groups that are open in front of
the characters. A space follows each of these commas. -/
def piecesIn? (groups : List Bracket) : List Char → Option (List (List Char))
  | [] => if groups = [] then some [[]] else none
  | character :: rest =>
    if character = ',' ∧ groups = [] then
      match rest with
      | ' ' :: behind => (piecesIn? [] behind).map ([] :: ·)
      | _ => none
    else (groupsAfter groups character).bind fun after =>
      (piecesIn? after rest).map (prepend [character])

/-- The pieces of a text; the empty text has none. -/
def pieces? (text : String) : Option (List String) :=
  if text = "" then some [] else (piecesIn? [] text.toList).map (List.map String.ofList)

/-- What stands between two texts. -/
def between? (opening closing text : String) : Option String := do
  let rest ← opening.toList.isPrefixOf? text.toList
  let inside ← closing.toList.isSuffixOf? rest
  return String.ofList inside

/-- The texts of the items of a list. -/
def items? (literal : String) : Option (List String) := (between? "[" "]" literal).bind pieces?

/-- The texts of the entries of the rows of a list. -/
def rows? (literal : String) : Option (List (List String)) :=
  (items? literal).bind fun literals => literals.mapM items?

/-- The texts of the arguments of a statement that calls a name. -/
def arguments? (name statement : String) : Option (List String) :=
  (between? (name ++ "(") ");" statement).bind pieces?

theorem between?_append (opening closing text : String) :
    between? opening closing (opening ++ text ++ closing) = some text := by
  have front : opening.toList.isPrefixOf? (opening ++ text ++ closing).toList =
      some (text.toList ++ closing.toList) :=
    List.isPrefixOf?_eq_some_iff_append_eq.mpr (by simp)
  have behind : closing.toList.isSuffixOf? (text.toList ++ closing.toList) = some text.toList :=
    List.isSuffixOf?_eq_some_iff_append_eq.mpr rfl
  rw [between?, front]
  simp only [Option.bind_eq_bind, Option.bind_some, behind, Option.pure_def, String.ofList_toList]

/-! ### Pieces -/

/-- A text that is one piece, whatever comes behind it. -/
structure IsPiece (text : String) : Prop where
  /-- An empty text is no piece, since the text of no pieces is empty. -/
  ne_empty : text ≠ ""
  isNested : IsNested text.toList
  /-- The reader passes over it. -/
  passes (rest : List Char) : piecesIn? [] (text.toList ++ rest) =
    (piecesIn? [] rest).map (prepend text.toList)

theorem piecesIn?_comma (rest : List Char) :
    piecesIn? [] (',' :: ' ' :: rest) = (piecesIn? [] rest).map ([] :: ·) := by
  rw [piecesIn?, if_pos ⟨rfl, rfl⟩]

theorem piecesIn?_cons {groups after : List Bracket} {character : Char}
    (apart : ¬ (character = ',' ∧ groups = []))
    (step : groupsAfter groups character = some after) (rest : List Char) :
    piecesIn? groups (character :: rest) =
      (piecesIn? after rest).map (prepend [character]) := by
  rw [piecesIn?.eq_def]
  dsimp only
  rw [if_neg apart, step, Option.bind_some]

theorem map_prepend_append (first second : List Char) (pieces? : Option (List (List Char))) :
    (pieces?.map (prepend second)).map (prepend first) =
      pieces?.map (prepend (first ++ second)) := by
  cases pieces? with
  | none => rfl
  | some pieces =>
    cases pieces with
    | nil => rfl
    | cons piece rest => simp

theorem map_prepend_nil (pieces? : Option (List (List Char))) :
    pieces?.map (prepend []) = pieces? := by
  cases pieces? with
  | none => rfl
  | some pieces => cases pieces <;> rfl

/-- A text inside of a group is passed over, its commas included, as long as it does not close the
group. -/
theorem piecesIn?_within {text : List Char} {groups after : List Bracket}
    (steps : text.foldlM groupsAfter groups = some after) (bracket : Bracket)
    (rest : List Char) :
    piecesIn? (groups ++ [bracket]) (text ++ rest) =
      (piecesIn? (after ++ [bracket]) rest).map (prepend text) := by
  induction text generalizing groups with
  | nil =>
    rw [← Option.some.inj steps, List.nil_append, map_prepend_nil]
  | cons character text inductionHypothesis =>
    rw [List.foldlM_cons] at steps
    obtain ⟨between, step, later⟩ := Option.bind_eq_some_iff.mp steps
    -- The bracket around the text is open at every character, so none of its commas cuts.
    rw [List.cons_append, piecesIn?_cons (by simp) (groupsAfter_append step [bracket]),
      inductionHypothesis later]
    exact map_prepend_append [character] text _

/-- So is a text without brackets and commas that is in no group. -/
theorem piecesIn?_append_of_bare {text : List Char}
    (bare : ∀ character ∈ text, character ∉ marks) (noComma : ',' ∉ text) (rest : List Char) :
    piecesIn? [] (text ++ rest) = (piecesIn? [] rest).map (prepend text) := by
  induction text with
  | nil => rw [List.nil_append, map_prepend_nil]
  | cons character text inductionHypothesis =>
    obtain ⟨unmarked, later⟩ := List.forall_mem_cons.mp bare
    obtain ⟨noCommaHere, noCommaLater⟩ := List.ne_and_not_mem_of_not_mem_cons noComma
    rw [List.cons_append, piecesIn?_cons (fun both => noCommaHere both.1.symm)
      (groupsAfter_of_not_mem_marks unmarked []), inductionHypothesis later noCommaLater]
    exact map_prepend_append [character] text _

theorem numeral_ne_empty (number : Binary64) : numeral number ≠ "" := by
  have filled : numeralDigits number ≠ [] := by
    unfold numeralDigits fixedDigits exponentDigits
    dsimp only
    split_ifs <;> simp
  unfold numeral
  split_ifs
  · simpa using filled
  all_goals decide

theorem isPiece_numeral (number : Binary64) : IsPiece (numeral number) where
  ne_empty := numeral_ne_empty number
  isNested := isNested_of_isPlain (isPlain_numeral number)
  passes := piecesIn?_append_of_bare (isPlain_numeral number) (comma_not_mem_numeral number)

theorem isNested_intercalate {items : List String}
    (nested : ∀ item ∈ items, IsNested item.toList) : IsNested (", ".intercalate items).toList := by
  induction items with
  | nil => rfl
  | cons first rest inductionHypothesis =>
    obtain ⟨here, later⟩ := List.forall_mem_cons.mp nested
    cases rest with
    | nil => rwa [String.intercalate_singleton]
    | cons next rest =>
      rw [String.intercalate_cons_cons, String.toList_append, String.toList_append]
      exact (here.append (by decide)).append (inductionHypothesis later)

/-- A list is one piece: its commas are in the group between its brackets. -/
theorem isPiece_bracketed {items : List String}
    (nested : ∀ item ∈ items, IsNested item.toList) : IsPiece (bracketed items) := by
  have inside := isNested_intercalate nested
  have around : (bracketed items).toList =
      '[' :: (", ".intercalate items).toList ++ [']'] := by
    rw [bracketed, String.toList_append, String.toList_append]
    rfl
  refine ⟨fun empty => ?_, ?_, fun rest => ?_⟩
  · simp [empty] at around
  · rw [around]
    exact inside.around .square
  · have opens : groupsAfter [] '[' = some [.square] := rfl
    have closes : groupsAfter [.square] ']' = some [] := rfl
    have passes := piecesIn?_within inside .square (']' :: rest)
    rw [List.nil_append, piecesIn?_cons (by simp) closes] at passes
    rw [around, List.append_assoc, List.singleton_append, List.cons_append,
      piecesIn?_cons (by simp) opens, passes]
    exact (map_prepend_append ['['] _ _).trans (map_prepend_append _ [']'] _)

theorem IsPiece.argument {name value : String} (piece : IsPiece value) (isPlain : IsPlain name)
    (noComma : ',' ∉ name.toList) : IsPiece (argument name value) := by
  have sign : IsPlain (name ++ " = ") := isPlain.append (by decide)
  have noComma : ',' ∉ (name ++ " = ").toList := by
    rw [String.toList_append, List.mem_append, not_or]
    exact ⟨noComma, by decide⟩
  refine ⟨fun empty => ?_, ?_, fun rest => ?_⟩
  · simp [Source.argument] at empty
  · rw [Source.argument, String.toList_append]
    exact (isNested_of_isPlain sign).append piece.isNested
  · rw [Source.argument, String.toList_append, List.append_assoc,
      piecesIn?_append_of_bare sign noComma, piece.passes, map_prepend_append]

/-- An argument that may be missing is one piece if it is there. -/
theorem isPiece_of_mem_optional {α : Type} {write : α → String}
    (each : ∀ value, IsPiece (write value)) {name : String} (isPlain : IsPlain name)
    (noComma : ',' ∉ name.toList) (value? : Option α) :
    ∀ text ∈ optional name write value?, IsPiece text := by
  cases value? with
  | none => exact List.forall_mem_nil _
  | some value => exact List.forall_mem_singleton.mpr ((each value).argument isPlain noComma)

/-! ### Reading lists back -/

theorem piecesIn?_intercalate {first : String} {rest : List String}
    (each : ∀ item ∈ first :: rest, IsPiece item) :
    piecesIn? [] (", ".intercalate (first :: rest)).toList =
      some ((first :: rest).map String.toList) := by
  induction rest generalizing first with
  | nil =>
    have passes := (each first List.mem_cons_self).passes []
    rw [List.append_nil] at passes
    rw [String.intercalate_singleton, passes, piecesIn?, if_pos rfl, Option.map_some]
    simp
  | cons next rest inductionHypothesis =>
    obtain ⟨here, later⟩ := List.forall_mem_cons.mp each
    have comma : ", ".toList = [',', ' '] := rfl
    rw [String.intercalate_cons_cons, String.toList_append, String.toList_append, comma,
      List.append_assoc, here.passes, List.cons_append, List.singleton_append, piecesIn?_comma,
      inductionHypothesis later]
    simp

theorem pieces?_intercalate {items : List String} (each : ∀ item ∈ items, IsPiece item) :
    pieces? (", ".intercalate items) = some items := by
  cases items with
  | nil => rfl
  | cons first rest =>
    have pieces := piecesIn?_intercalate each
    have filled : ", ".intercalate (first :: rest) ≠ "" := by
      intro empty
      have blank := (each first List.mem_cons_self).ne_empty
      cases rest with
      | nil => exact blank (by simpa using empty)
      | cons next rest => simp [String.intercalate_cons_cons] at empty
    rw [pieces?, if_neg filled, pieces, Option.map_some, List.map_map]
    simp

/-- The items of a list are found again. -/
theorem items?_bracketed {items : List String} (each : ∀ item ∈ items, IsPiece item) :
    items? (bracketed items) = some items := by
  rw [items?, bracketed, between?_append, Option.bind_some, pieces?_intercalate each]

theorem isPiece_of_mem_numerals {row : List Binary64} : ∀ item ∈ row.map numeral, IsPiece item :=
  List.forall_mem_map.mpr fun number _ => isPiece_numeral number

theorem isPiece_row (row : List Binary64) : IsPiece (bracketed (row.map numeral)) :=
  isPiece_bracketed fun item member => (isPiece_of_mem_numerals item member).isNested

/-- Rows of positions are one piece, and their commas are inside. -/
theorem isPiece_rows (rows : Rows) : IsPiece (Source.rows rows) :=
  isPiece_bracketed (List.forall_mem_map.mpr fun row _ => (isPiece_row row).isNested)

/-- Every row is read back, and every entry in it. -/
theorem rows?_rows (rows : Rows) :
    rows? (Source.rows rows) = some (rows.map fun row => row.map numeral) := by
  have each : ∀ item ∈ rows.map fun row => bracketed (row.map numeral), IsPiece item :=
    List.forall_mem_map.mpr fun row _ => isPiece_row row
  have literals : (rows.map fun row => bracketed (row.map numeral)) =
      (rows.map fun row => row.map numeral).map bracketed := by
    rw [List.map_map]
    rfl
  rw [rows?, Source.rows, items?_bracketed each, Option.bind_some, literals]
  exact mapM_map_eq_pure (List.forall_mem_map.mpr fun row _ =>
    items?_bracketed isPiece_of_mem_numerals)

-- An entry that is no list is not read as an empty row.
example : rows? "[[0, 1], []]" = some [["0", "1"], []] ∧ rows? "[[0, 1], 2]" = none := by cbv

/-- The arguments of a statement are found again. -/
theorem arguments?_call {arguments : List String} (each : ∀ text ∈ arguments, IsPiece text)
    (name : String) : arguments? name (call name arguments ++ ";") = some arguments := by
  have split : call name arguments ++ ";" =
      name ++ "(" ++ ", ".intercalate arguments ++ ");" := by
    rw [call, String.append_assoc]
    rfl
  rw [arguments?, split, between?_append, Option.bind_some, pieces?_intercalate each]

end Source

end SolidScene
