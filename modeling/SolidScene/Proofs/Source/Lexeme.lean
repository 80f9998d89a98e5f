/-
This file reads source by the lexical rules of the solid modelling language. A quote
opens a literal, in which a backslash takes the next character with it and a bare
quote is the end. Two slashes outside a literal open a comment, which ends in front
of the next line break. Every other character is code.

A text may be read on its own or in front of another one. Both give the same, unless
the other text goes on where this one leaves a literal, a comment or a slash open.
Most of the file is about texts that are read apart in this sense: code is read
apart from what does not begin with a slash, and a line from what stands in the
lines below it. Whatever is collected from lexemes, be it literals or the characters
outside of them, is then collected part by part.
-/
import SolidScene.Proofs.Source.Literal
import SolidScene.Proofs.Source.Wording

namespace SolidScene.Source

/-! ### Reading -/

/-- A piece of source, with all its characters. -/
inductive Lexeme where
  /-- A character of code. -/
  | code (character : Char)
  /-- A literal with its two quotes. -/
  | literal (text : List Char)
  /-- A literal that is still open at the end of the source. -/
  | unclosed (text : List Char)
  /-- A comment with its slashes, up to the end of its line. -/
  | comment (text : List Char)
deriving DecidableEq

/-- What a reader of source is inside of, with the characters it has met there, the last first. -/
inductive Reading where
  | code
  | literal (met : List Char)
  /-- Behind a backslash in a literal. -/
  | escape (met : List Char)
  | comment (met : List Char)

/-- The lexemes of source from a point on. -/
def lexemesFrom : Reading → List Char → List Lexeme
  | .code, [] => []
  | .code, '/' :: '/' :: rest => lexemesFrom (.comment ['/', '/']) rest
  | .code, character :: rest =>
    if character = '"' then lexemesFrom (.literal ['"']) rest
    else .code character :: lexemesFrom .code rest
  | .literal met, [] => [.unclosed met.reverse]
  | .literal met, character :: rest =>
    if character = '"' then .literal (character :: met).reverse :: lexemesFrom .code rest
    else if character = '\\' then lexemesFrom (.escape (character :: met)) rest
    else lexemesFrom (.literal (character :: met)) rest
  | .escape met, [] => [.unclosed met.reverse]
  | .escape met, character :: rest => lexemesFrom (.literal (character :: met)) rest
  | .comment met, [] => [.comment met.reverse]
  | .comment met, character :: rest =>
    if character = '\r' ∨ character = '\n' then
      .comment met.reverse :: .code character :: lexemesFrom .code rest
    else lexemesFrom (.comment (character :: met)) rest

/-- The lexemes of source. -/
def lexemes (source : List Char) : List Lexeme := lexemesFrom .code source

namespace Lexeme

/-- The characters of a lexeme. -/
def characters : Lexeme → List Char
  | code character => [character]
  | literal text => text
  | unclosed text => text
  | comment text => text

/-- The characters of a lexeme that stand outside of comments and of what a literal holds. -/
def outer : Lexeme → List Char
  | code character => [character]
  | literal _ => ['"', '"']
  | unclosed _ => ['"']
  | comment _ => []

/-- A lexeme that is not code. -/
def enclosure : Lexeme → List Lexeme
  | code _ => []
  | enclosure => [enclosure]

end Lexeme

/-- What is taken out of the lexemes of source, in order. -/
def collect {α : Type} (take : Lexeme → List α) (source : List Char) : List α :=
  (lexemes source).flatMap take

/-- The characters of source that stand outside of comments and of what its literals hold. -/
def outside (source : List Char) : List Char := collect Lexeme.outer source

/-- The literals and comments of source, in order. -/
def enclosures (source : List Char) : List Lexeme := collect Lexeme.enclosure source

/-- What a reader has met and not yet put into a lexeme. -/
def Reading.met : Reading → List Char
  | code => []
  | literal met => met
  | escape met => met
  | comment met => met

/-- Reading loses nothing: the lexemes of source make it up. -/
theorem characters_lexemesFrom (reading : Reading) (source : List Char) :
    (lexemesFrom reading source).flatMap Lexeme.characters = reading.met.reverse ++ source := by
  fun_induction lexemesFrom reading source <;> simp_all [Lexeme.characters, Reading.met]

theorem characters_lexemes (source : List Char) :
    (lexemes source).flatMap Lexeme.characters = source :=
  characters_lexemesFrom .code source

/-! ### Code -/

theorem lexemes_nil : lexemes [] = [] := by simp [lexemes, lexemesFrom]

theorem collect_nil {α : Type} (take : Lexeme → List α) : collect take [] = [] := by
  rw [collect, lexemes_nil, List.flatMap_nil]

/-- A character that opens nothing is code, unless it is a slash in front of another one. -/
theorem lexemes_cons {character : Char} {rest : List Char} (bare : character ≠ '"')
    (apart : character = '/' → rest.head? ≠ some '/') :
    lexemes (character :: rest) = .code character :: lexemes rest := by
  rw [lexemes, lexemesFrom.eq_3]
  · rw [if_neg bare, lexemes]
  · rintro other rfl rfl
    exact apart rfl rfl

/-- Characters that open nothing are code, whatever comes after them. -/
theorem lexemes_append_of_bare {front : List Char}
    (bare : ∀ character ∈ front, character ≠ '"' ∧ character ≠ '/') (rest : List Char) :
    lexemes (front ++ rest) = front.map .code ++ lexemes rest := by
  induction front with
  | nil => rfl
  | cons character front inductionHypothesis =>
    obtain ⟨⟨noQuote, noSlash⟩, later⟩ := List.forall_mem_cons.mp bare
    rw [List.cons_append, lexemes_cons noQuote fun slash => absurd slash noSlash,
      inductionHypothesis later, List.map_cons, List.cons_append]

/-- Code without a quote and without two slashes in a row is code also in front of another text,
unless that text begins with a slash. -/
theorem lexemes_append_of_apart {front : List Char} (noQuote : '"' ∉ front)
    (noComment : ¬ ['/', '/'] <:+: front) {rest : List Char} (apart : rest.head? ≠ some '/') :
    lexemes (front ++ rest) = front.map .code ++ lexemes rest := by
  induction front with
  | nil => rfl
  | cons character front inductionHypothesis =>
    have later := inductionHypothesis (fun member => noQuote (List.mem_cons_of_mem _ member))
      fun inside => noComment (inside.trans (List.suffix_cons character front).isInfix)
    have bare : character ≠ '"' := fun same => noQuote (same ▸ List.mem_cons_self)
    rw [List.cons_append, lexemes_cons bare, later, List.map_cons, List.cons_append]
    rintro rfl
    cases front with
    | nil => exact apart
    | cons next front =>
      intro same
      rw [List.cons_append, List.head?_cons, Option.some.injEq] at same
      exact noComment (same ▸ (List.prefix_append ['/', '/'] front).isInfix)

/-! ### Literals and comments -/

/-- A literal is read up to its last quote: the quotes and backslashes of its string are hidden
behind backslashes. -/
theorem lexemesFrom_literal (met field rest : List Char) :
    lexemesFrom (.literal met) (quotedBody field ++ '"' :: rest) =
      .literal (met.reverse ++ quotedBody field ++ ['"']) :: lexemes rest := by
  induction field generalizing met with
  | nil => simp [quotedBody, lexemesFrom, lexemes]
  | cons character field inductionHypothesis =>
    rw [quotedBody_cons]
    unfold quotedCharacter
    split_ifs <;> simp_all [lexemesFrom]

theorem lexemes_quote_append (field : String) (rest : List Char) :
    lexemes ((quote field).toList ++ rest) = .literal (quote field).toList :: lexemes rest := by
  rw [toList_quote, List.cons_append, List.append_assoc, lexemes, lexemesFrom.eq_3]
  · rw [if_pos rfl, List.singleton_append, lexemesFrom_literal]
    rfl
  · rintro other slash
    exact absurd slash (by decide)

theorem lexemes_quote (field : String) :
    lexemes (quote field).toList = [.literal (quote field).toList] := by
  have alone := lexemes_quote_append field []
  rwa [List.append_nil, lexemes_nil] at alone

/-- A comment is read up to the end of its line. -/
theorem lexemesFrom_comment {text rest : List Char} (met : List Char)
    (oneLine : ∀ character ∈ text, character ≠ '\r' ∧ character ≠ '\n')
    (ends : rest = [] ∨ rest.head? = some '\n') :
    lexemesFrom (.comment met) (text ++ rest) =
      .comment (met.reverse ++ text) :: lexemes rest := by
  induction text generalizing met with
  | nil =>
    rcases ends with rfl | breaks
    · simp [lexemesFrom, lexemes]
    · obtain ⟨later, rfl⟩ := List.head?_eq_some_iff.mp breaks
      have code : lexemes ('\n' :: later) = .code '\n' :: lexemes later :=
        lexemes_cons (by decide) fun slash => absurd slash (by decide)
      rw [code]
      simp [lexemesFrom, lexemes]
  | cons character text inductionHypothesis =>
    obtain ⟨here, later⟩ := List.forall_mem_cons.mp oneLine
    rw [List.cons_append, lexemesFrom, if_neg (not_or.mpr here), inductionHypothesis _ later,
      List.reverse_cons, List.append_assoc, List.singleton_append]

/-- A comment is one lexeme in front of the end of its line. -/
theorem lexemes_comment_append {text rest : List Char}
    (oneLine : ∀ character ∈ text, character ≠ '\r' ∧ character ≠ '\n')
    (ends : rest = [] ∨ rest.head? = some '\n') :
    lexemes ('/' :: '/' :: text ++ rest) = .comment ('/' :: '/' :: text) :: lexemes rest := by
  rw [lexemes, List.cons_append, List.cons_append, lexemesFrom,
    lexemesFrom_comment ['/', '/'] oneLine ends]
  rfl

/-! ### Texts that are read apart -/

/-- A text that is read the same on its own and in front of another one. -/
def Splits (front rest : List Char) : Prop :=
  lexemes (front ++ rest) = lexemes front ++ lexemes rest

theorem Splits.collect_append {α : Type} {front rest : List Char} (splits : Splits front rest)
    (take : Lexeme → List α) :
    collect take (front ++ rest) = collect take front ++ collect take rest := by
  rw [collect, splits, List.flatMap_append]
  rfl

/-- Two texts one after the other are read apart from a third one if they are read apart in turn. -/
theorem Splits.append {first second rest : List Char} (apart : Splits first (second ++ rest))
    (inside : Splits first second) (later : Splits second rest) :
    Splits (first ++ second) rest := by
  rw [Splits, List.append_assoc, apart, later, inside, List.append_assoc]

/-- From bare code each character is taken. -/
theorem collect_of_lexemes {α : Type} {text : List Char} (code : lexemes text = text.map .code)
    (take : Lexeme → List α) :
    collect take text = text.flatMap fun character => take (.code character) := by
  rw [collect, code, List.flatMap_map]

/-! ### Bare characters and code -/

/-- Characters that open neither a literal nor a comment. -/
def IsBare (characters : List Char) : Prop :=
  ∀ character ∈ characters, character ≠ '"' ∧ character ≠ '/'

/-- Code that is read apart from what comes after it, unless that begins with a slash. -/
def IsCode (text : List Char) : Prop :=
  ∀ rest : List Char, rest.head? ≠ some '/' → Splits text rest

/-- A text that is read apart from what stands in the lines below it. -/
def IsLine (text : List Char) : Prop :=
  ∀ rest : List Char, rest = [] ∨ rest.head? = some '\n' → Splits text rest

theorem IsPlain.isBare {text : String} (isPlain : IsPlain text) : IsBare text.toList := by
  intro character member
  have unmarked := isPlain character member
  exact ⟨fun same => unmarked (same ▸ by decide), fun same => unmarked (same ▸ by decide)⟩

section

variable {text separator rest : List Char}

theorem IsBare.lexemes_eq (bare : IsBare text) : lexemes text = text.map .code := by
  simpa [lexemes_nil] using lexemes_append_of_bare bare []

theorem IsBare.splits (bare : IsBare text) (rest : List Char) : Splits text rest := by
  rw [Splits, lexemes_append_of_bare bare, bare.lexemes_eq]

theorem isBare_opening (bracket : Bracket) : IsBare [bracket.opening] := by
  cases bracket <;> simp [IsBare, Bracket.opening]

theorem isBare_closing (bracket : Bracket) : IsBare [bracket.closing] := by
  cases bracket <;> simp [IsBare, Bracket.closing]

theorem IsCode.isLine (code : IsCode text) : IsLine text := by
  intro rest ends
  refine code rest ?_
  rcases ends with rfl | breaks
  · simp
  · simp [breaks]

/-- Nothing that is bare begins with a slash. -/
theorem IsCode.splits_bare (code : IsCode text) (bare : IsBare separator)
    (some : separator ≠ []) (rest : List Char) : Splits text (separator ++ rest) := by
  refine code _ ?_
  cases separator with
  | nil => exact absurd rfl some
  | cons first separator =>
    intro same
    exact (bare first List.mem_cons_self).2 (Option.some.inj same)

theorem IsLine.splits_break (line : IsLine text) (rest : List Char) :
    Splits text ('\n' :: rest) :=
  line _ (Or.inr rfl)

/-- A text that is read apart from something bare is with it read apart from all that comes. -/
theorem splits_append (apart : ∀ rest, Splits text (separator ++ rest)) (bare : IsBare separator)
    (rest : List Char) : Splits (text ++ separator) rest := by
  refine (apart rest).append ?_ (bare.splits rest)
  simpa using apart []

variable {α : Type} (take : Lexeme → List α)

theorem IsBare.collect_append (bare : IsBare text) (rest : List Char) :
    collect take (text ++ rest) =
      (text.flatMap fun character => take (.code character)) ++ collect take rest := by
  rw [(bare.splits rest).collect_append, collect_of_lexemes bare.lexemes_eq]

/-- Something bare between two texts is taken by itself. -/
theorem collect_joined (apart : ∀ rest, Splits text (separator ++ rest)) (bare : IsBare separator)
    (rest : List Char) :
    collect take (text ++ separator ++ rest) = collect take text ++
      (separator.flatMap fun character => take (.code character)) ++ collect take rest := by
  have alone : Splits text separator := by simpa using apart []
  rw [(splits_append apart bare rest).collect_append, alone.collect_append,
    collect_of_lexemes bare.lexemes_eq]

theorem IsCode.collect_around (code : IsCode text) (bracket : Bracket) :
    collect take (bracket.opening :: text ++ [bracket.closing]) =
      take (.code bracket.opening) ++ collect take text ++ take (.code bracket.closing) := by
  have bare := isBare_closing bracket
  have closes := collect_joined take (code.splits_bare bare (by simp)) bare []
  have opens := (isBare_opening bracket).collect_append take (text ++ [bracket.closing])
  rw [List.append_nil] at closes
  rw [List.cons_append, ← List.singleton_append, opens, closes]
  simp [collect_nil]

end

end SolidScene.Source
