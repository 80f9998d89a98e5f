/-
This file reads reports back. A line tells by the blanks in front of it how deep its
entry is, and then the kind and the size. The entries below an entry are those one
level deeper that come directly behind it. So the lines are read from the last one
up: what has been read is a row of entries with their depths, each with all that is
below it, and the next line takes from the front of the row what stands one level
below its own entry.

The text of a report tells all that the report holds, so two reports with one text
are the same. Only the lines are read for that: a kind is known by its name, which
is one word, and a size by the digits between the brackets. How entries are nested
is told by the depths alone, and the induction that shows it goes over the entries
below the first one and over the ones after it.
-/
import SolidScene.Proofs.Decimal.Digits
import SolidScene.Proofs.Results
import SolidScene.Proofs.Source.Paragraphs

namespace SolidScene

open Source

/-! ### Where a row of like items ends -/

section

variable {α : Type} {test : α → Bool} {front rest : List α}

theorem takeWhile_append_of_stops (passes : ∀ item ∈ front, test item)
    (stops : ∀ item ∈ rest.head?, ¬ test item) : (front ++ rest).takeWhile test = front := by
  rw [List.takeWhile_append_of_pos passes]
  cases rest with
  | nil => simp
  | cons first rest => simp [stops first rfl]

theorem dropWhile_append_of_stops (passes : ∀ item ∈ front, test item)
    (stops : ∀ item ∈ rest.head?, ¬ test item) : (front ++ rest).dropWhile test = rest := by
  rw [List.dropWhile_append_of_pos passes]
  cases rest with
  | nil => simp
  | cons first rest => simp [stops first rfl]

end

/-! ### Numbers -/

/-- The number at the front of a text, if nothing but `behind` comes after it. -/
def readNumber? (behind text : List Char) : Option Nat :=
  let digits := text.takeWhile Char.isDigit
  if digits ≠ [] ∧ text.dropWhile Char.isDigit = behind then
    some (Nat.ofDigitChars 10 digits 0)
  else none

/-- The digits of a number are read back in front of what does not begin with a digit. -/
theorem readNumber?_append {behind : List Char} (stops : ∀ item ∈ behind.head?, ¬ item.isDigit)
    (number : Nat) :
    readNumber? behind (Nat.toDigits 10 number ++ behind) = some number := by
  have digits : ∀ item ∈ Nat.toDigits 10 number, item.isDigit :=
    fun _ => Decimal.isDigit_of_mem_toDigits
  rw [readNumber?, takeWhile_append_of_stops digits stops, dropWhile_append_of_stops digits stops]
  simp [Nat.toDigits_ne_nil, Nat.ofDigitChars_toDigits]

theorem break_not_mem_toDigits (number : Nat) : '\n' ∉ Nat.toDigits 10 number := fun member =>
  absurd (Decimal.isDigit_of_mem_toDigits member) (by decide)

namespace Entry

/-! ### Lines -/

/-- A fact of all rows of entries, from the entries below the first one and those after it. -/
@[elab_as_elim]
theorem list_induction {motive : List Entry → Prop} (nil : motive [])
    (cons : ∀ kind size children rest, motive children → motive rest →
      motive (.node kind size children :: rest)) : ∀ entries, motive entries
  | [] => nil
  | .node kind size children :: rest =>
    cons kind size children rest (list_induction nil cons children) (list_induction nil cons rest)
termination_by entries => sizeOf entries
decreasing_by all_goals simp only [List.cons.sizeOf_spec, Entry.node.sizeOf_spec]; omega

/-- What the line of an entry tells. -/
structure Caption where
  depth : Nat
  kind : Kind
  size : Nat

/-- The line of a caption. -/
def Caption.line (caption : Caption) : String :=
  Entry.line caption.depth caption.kind caption.size

mutual

/-- The captions of an entry at a depth and of the entries below it, in the order of the lines. -/
def captions (depth : Nat) : Entry → List Caption
  | node kind size children => ⟨depth, kind, size⟩ :: captionsAll (depth + 1) children

/-- The captions of entries at one depth and of those below them. -/
def captionsAll (depth : Nat) : List Entry → List Caption
  | [] => []
  | entry :: rest => entry.captions depth ++ captionsAll depth rest

end

theorem linesAll_eq_map (depth : Nat) (entries : List Entry) :
    linesAll depth entries = (captionsAll depth entries).map Caption.line := by
  induction entries using list_induction generalizing depth with
  | nil => rfl
  | cons kind size children rest childrenHypothesis restHypothesis =>
    rw [linesAll, Entry.lines, childrenHypothesis, restHypothesis, captionsAll, captions,
      List.map_append, List.map_cons, Caption.line]

/-- Every entry has a line of its own. -/
theorem length_linesAll (depth : Nat) (entries : List Entry) :
    (linesAll depth entries).length = countAll entries := by
  induction entries using list_induction generalizing depth with
  | nil => rfl
  | cons kind size children rest childrenHypothesis restHypothesis =>
    rw [linesAll, Entry.lines, List.length_append, List.length_cons, childrenHypothesis,
      restHypothesis, countAll, count, Nat.add_comm 1]

/-- The caption that a line tells: two blanks for each level, the name of a kind and a size. -/
def readLine? (line : String) : Option Caption := do
  let blanks := line.toList.takeWhile (· = ' ')
  let words := line.toList.dropWhile (· = ' ')
  let kind ← Kind.all.find? fun kind => kind.name.toList = words.takeWhile (· ≠ ' ')
  let number ← " (".toList.isPrefixOf? (words.dropWhile (· ≠ ' '))
  let size ← readNumber? " B)".toList number
  if blanks.length % 2 = 0 then some ⟨blanks.length / 2, kind, size⟩ else none

theorem toList_line (depth : Nat) (kind : Kind) (size : Nat) :
    (line depth kind size).toList = List.replicate (2 * depth) ' ' ++
      (kind.name.toList ++ ' ' :: '(' :: (Nat.toDigits 10 size ++ " B)".toList)) := by
  have blanks (count : Nat) (text : String) :
      (text.pushn ' ' count).toList = text.toList ++ List.replicate count ' ' := by
    rw [String.pushn_eq_repeat_push]
    induction count with
    | zero => simp [Nat.repeat]
    | succ count inductionHypothesis =>
      rw [Nat.repeat, String.toList_push, inductionHypothesis, List.replicate_succ',
        List.append_assoc]
  simp [line, blanks]

theorem isUnbroken_line (depth : Nat) (kind : Kind) (size : Nat) :
    IsUnbroken (line depth kind size) := by
  have name : '\n' ∉ kind.name.toList := by cases kind <;> decide
  rw [IsUnbroken, toList_line]
  simp [name, break_not_mem_toDigits]

/-- The name of a kind is one word. -/
theorem blank_not_mem_name (kind : Kind) : ' ' ∉ kind.name.toList := by
  cases kind <;> decide

theorem name_ne_empty (kind : Kind) : kind.name.toList ≠ [] := by
  cases kind <;> decide

theorem find?_name (kind : Kind) :
    (Kind.all.find? fun other => other.name.toList = kind.name.toList) = some kind := by
  cases kind <;> decide

/-- A caption is read back from its line. -/
theorem readLine?_line (caption : Caption) : readLine? caption.line = some caption := by
  obtain ⟨depth, kind, size⟩ := caption
  obtain ⟨first, others, name⟩ := List.exists_cons_of_ne_nil (name_ne_empty kind)
  have apart := blank_not_mem_name kind
  have blanks : ∀ item ∈ List.replicate (2 * depth) ' ', decide (item = ' ') :=
    fun item member => decide_eq_true (List.eq_of_mem_replicate member)
  have starts (rest : List Char) :
      ∀ item ∈ (kind.name.toList ++ rest).head?, ¬ decide (item = ' ') := by
    rw [name] at apart ⊢
    rintro item ⟨⟩
    simpa using (List.ne_of_not_mem_cons apart).symm
  have number : readNumber? " B)".toList (Nat.toDigits 10 size ++ " B)".toList) = some size :=
    readNumber?_append (by simp) size
  have opening (rest : List Char) : " (".toList.isPrefixOf? (' ' :: '(' :: rest) = some rest :=
    List.isPrefixOf?_eq_some_iff_append_eq.mpr rfl
  simp only [readLine?, Caption.line, toList_line]
  rw [takeWhile_append_of_stops blanks (starts _), dropWhile_append_of_stops blanks (starts _),
    Decimal.takeWhile_append_cons apart, Decimal.dropWhile_append_cons apart, find?_name, opening]
  simp only [Option.bind_eq_bind, Option.bind_some, number, List.length_replicate]
  rw [if_pos (Nat.mul_mod_right 2 depth), Nat.mul_div_cancel_left depth (by decide)]

/-! ### Entries with their depths -/

/-- The line of an entry in front of a row of entries with their depths: it takes those one level
deeper, up to the first that is not. -/
def nest (caption : Caption) (row : List (Nat × Entry)) : List (Nat × Entry) :=
  let isBelow (item : Nat × Entry) : Bool := item.1 = caption.depth + 1
  (caption.depth, .node caption.kind caption.size ((row.takeWhile isBelow).map Prod.snd)) ::
    row.dropWhile isBelow

/-- The entries of lines, if none is left over below the level of the top. -/
def ofCaptions? (captions : List Caption) : Option (List Entry) :=
  let row := captions.foldr nest []
  if ∀ item ∈ row, item.1 = 0 then some (row.map Prod.snd) else none

/-- The lines of entries at a depth, in front of a row that does not begin deeper, make these
entries. The induction is on the entries; the ones after an entry stand in the row when its own
line is read, and they are no deeper than it. -/
theorem foldr_nest_captionsAll {depth : Nat} {row : List (Nat × Entry)} (entries : List Entry)
    (apart : ∀ item ∈ row.head?, item.1 ≤ depth) :
    (captionsAll depth entries).foldr nest row = entries.map (depth, ·) ++ row := by
  induction entries using list_induction generalizing depth row with
  | nil => rfl
  | cons kind size children rest childrenHypothesis restHypothesis =>
    have behind : ∀ item ∈ (rest.map (depth, ·) ++ row).head?, item.1 ≤ depth := by
      cases rest with
      | nil => exact apart
      | cons first rest =>
        rintro item ⟨⟩
        exact Nat.le_refl depth
    have below : ∀ item ∈ children.map (depth + 1, ·), decide (item.1 = depth + 1) := by
      simp
    have stops : ∀ item ∈ (rest.map (depth, ·) ++ row).head?, ¬ decide (item.1 = depth + 1) := by
      intro item member
      have shallow := behind item member
      simp
      omega
    rw [captionsAll, captions, List.cons_append, List.foldr_cons, List.foldr_append,
      restHypothesis apart,
      childrenHypothesis fun item member => Nat.le_succ_of_le (behind item member), nest]
    simp only
    rw [takeWhile_append_of_stops below stops, dropWhile_append_of_stops below stops]
    simp [Function.comp_def]

/-- Entries are made again from their captions. -/
theorem ofCaptions?_captionsAll (entries : List Entry) :
    ofCaptions? (captionsAll 0 entries) = some entries := by
  have row : (captionsAll 0 entries).foldr nest [] = entries.map (0, ·) ++ [] :=
    foldr_nest_captionsAll entries (by simp)
  rw [List.append_nil] at row
  rw [ofCaptions?, row]
  simp [Function.comp_def]

end Entry

namespace Report

/-! ### Reports -/

/-- The total that the last line of a report tells. -/
def readTotal? (line : String) : Option Nat :=
  ("total: ".toList.isPrefixOf? line.toList).bind (readNumber? " B".toList)

/-- The report of a text. -/
def read? (text : String) : Option Report := do
  let last ← (lines text).getLast?
  let total ← readTotal? last
  let captions ← (lines text).dropLast.mapM Entry.readLine?
  let entries ← Entry.ofCaptions? captions
  return ⟨entries, total⟩

theorem readTotal?_total (total : Nat) :
    readTotal? ("total: " ++ toString total ++ " B") = some total := by
  have split : ("total: " ++ toString total ++ " B").toList =
      "total: ".toList ++ (Nat.toDigits 10 total ++ " B".toList) := by
    simp
  have rest := List.isPrefixOf?_eq_some_iff_append_eq.mpr split.symm
  rw [readTotal?, rest, Option.bind_some, readNumber?_append (by simp)]

/-- The lines of a report are those of its entries and the one of its total. -/
theorem lines_text (report : Report) :
    lines report.text = (Entry.captionsAll 0 report.entries).map Entry.Caption.line ++
      ["total: " ++ toString report.total ++ " B"] := by
  rw [text, Entry.linesAll_eq_map]
  refine lines_intercalate (by simp) fun line member => ?_
  rcases List.mem_append.mp member with entry | last
  · obtain ⟨caption, -, rfl⟩ := List.mem_map.mp entry
    exact Entry.isUnbroken_line _ _ _
  · rw [List.mem_singleton.mp last, IsUnbroken]
    simp [break_not_mem_toDigits]

/-- A report is read back from its text. -/
theorem read?_text (report : Report) : read? report.text = some report := by
  have captions : ((Entry.captionsAll 0 report.entries).map Entry.Caption.line).mapM
      Entry.readLine? = some (Entry.captionsAll 0 report.entries) :=
    mapM_map_eq_pure fun caption _ => Entry.readLine?_line caption
  rw [read?, lines_text, List.getLast?_concat, List.dropLast_concat, captions]
  simp only [Option.bind_eq_bind, Option.bind_some, Option.pure_def, readTotal?_total,
    Entry.ofCaptions?_captionsAll]

/-- The text of a report has one line for each entry and one more for the total, and a reader finds
in it the entries, however deep they are nested, and the total. So two reports with one text are
the same. -/
theorem report_reads_back (report other : Report) :
    (lines report.text).length = report.count + 1 ∧ read? report.text = some report ∧
      (report.text = other.text ↔ report = other) := by
  refine ⟨?_, read?_text report, fun same => ?_, congrArg text⟩
  · rw [lines_text, ← Entry.linesAll_eq_map, List.length_append, Entry.length_linesAll,
      List.length_singleton, count]
  · have both := read?_text report
    rw [same, read?_text other, Option.some.injEq] at both
    exact both.symm

-- An entry two levels below the one in front of it would be in no list.
example : read? "group (9 B)\n    cube (3 B)\ntotal: 9 B" = none := by cbv

end Report

end SolidScene
