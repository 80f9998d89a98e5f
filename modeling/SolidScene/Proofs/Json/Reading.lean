/-
This file says which texts are JSON documents: those whose tokens spell a value in
which at most 127 arrays and objects stand inside one another. The reader finds the
value of such a text, and accepts no other text as a whole. The value is found
because a spelling is read alike wherever it stands; nothing else is accepted
because the point that the reader has reached tells which tokens led there.

The reader keeps no syntax tree of its own: it has a stack of the arrays and objects
that are open and a word for what it awaits. For the one direction the spelling of a
value is read in front of any rest and under any stack with room for it, by
induction on the value. For the other direction the stack and the awaited point are
turned back into the tokens that were spent on the way; these tokens, together with
the ones left, are the same at every step, and at the end they are the spelling of
the value found.
-/
import SolidScene.Json.Reader
import SolidScene.Proofs.Json.Numbers
import SolidScene.Proofs.Results

namespace SolidScene.Json

/-! ### Documents -/

/-- A fact of all values, from the items of an array and the values of an object. -/
@[elab_as_elim]
theorem induction {motive : Json → Prop}
    (scalar : ∀ json : Json, ¬json.IsCompound → motive json)
    (array : ∀ items, (∀ item ∈ items, motive item) → motive (.array items))
    (object : ∀ entries, (∀ entry ∈ entries, motive entry.2) → motive (.object entries)) :
    ∀ json, motive json
  | .null | .bool _ | .number _ | .string _ => scalar _ id
  | .array items => array items fun item _ => induction scalar array object item
  | .object entries => object entries fun entry _ => induction scalar array object entry.2
termination_by json => sizeOf json
decreasing_by
  · have smaller := List.sizeOf_lt_of_mem ‹item ∈ items›
    simp only [Json.array.sizeOf_spec]
    omega
  · have smaller := List.sizeOf_lt_of_mem ‹entry ∈ entries›
    have part : sizeOf entry.2 < sizeOf entry := by
      obtain ⟨name, value⟩ := entry
      simp only [Prod.mk.sizeOf_spec]
      omega
    simp only [Json.object.sizeOf_spec]
    omega

mutual

/-- The tokens of a value: its items or entries in order, with a comma between any two. -/
def spelling : Json → List Token
  | .array items => .openArray :: ([.comma].intercalate (spellings items) ++ [.closeArray])
  | .object entries =>
    .openObject :: ([.comma].intercalate (entrySpellings entries) ++ [.closeObject])
  | scalar => [.scalar scalar]

/-- The spellings of several values. -/
def spellings : List Json → List (List Token)
  | [] => []
  | item :: rest => spelling item :: spellings rest

/-- The tokens of every entry: its name, a colon and its value. -/
def entrySpellings : List (String × Json) → List (List Token)
  | [] => []
  | (name, value) :: rest =>
    (.scalar (.string name) :: .colon :: spelling value) :: entrySpellings rest

end

mutual

/-- The number of arrays and objects around the innermost part of a value. -/
def depth : Json → Nat
  | .array items => deepest items + 1
  | .object entries => deepestEntry entries + 1
  | _ => 0

/-- The greatest depth of several values; of none it is zero. -/
def deepest : List Json → Nat
  | [] => 0
  | item :: rest => max (depth item) (deepest rest)

/-- The greatest depth of the values of several entries. -/
def deepestEntry : List (String × Json) → Nat
  | [] => 0
  | (_, value) :: rest => max (depth value) (deepestEntry rest)

end

/-- A text is the document of a value when its tokens spell the value, and no more arrays and
objects stand inside one another than the reader opens. A number that is out of range and half of
a pair of escapes are no tokens, so a text with one of them is the document of no value. -/
structure Spells (text : String) (json : Json) : Prop where
  /-- The text is nothing but the tokens of the value, with blanks between them. -/
  tokens_eq : tokens text.toList = json.spelling
  /-- The reader gives up on values that are deeper. -/
  depth_le : json.depth ≤ maxDepth

/-! ### Spelling and depth -/

theorem spelling_of_not_isCompound {json : Json} (scalar : ¬json.IsCompound) :
    json.spelling = [.scalar json] := by
  cases json with
  | array | object => exact (scalar trivial).elim
  | null | bool | number | string => rfl

theorem spellings_append (left right : List Json) :
    spellings (left ++ right) = spellings left ++ spellings right := by
  induction left with
  | nil => rfl
  | cons item rest inductionHypothesis =>
    simp only [List.cons_append, spellings, inductionHypothesis]

theorem entrySpellings_append (left right : List (String × Json)) :
    entrySpellings (left ++ right) = entrySpellings left ++ entrySpellings right := by
  induction left with
  | nil => rfl
  | cons entry rest inductionHypothesis =>
    simp only [List.cons_append, entrySpellings, inductionHypothesis]

theorem deepest_le_iff {items : List Json} {levels : Nat} :
    deepest items ≤ levels ↔ ∀ item ∈ items, item.depth ≤ levels := by
  induction items with
  | nil => simp [deepest]
  | cons item rest inductionHypothesis =>
    simp only [deepest, Nat.max_le, inductionHypothesis, List.forall_mem_cons]

theorem deepestEntry_le_iff {entries : List (String × Json)} {levels : Nat} :
    deepestEntry entries ≤ levels ↔ ∀ entry ∈ entries, entry.2.depth ≤ levels := by
  induction entries with
  | nil => simp [deepestEntry]
  | cons entry rest inductionHypothesis =>
    simp only [deepestEntry, Nat.max_le, inductionHypothesis, List.forall_mem_cons]

/-- Separated parts are parts that are each followed by the separator, and the last one. -/
theorem intercalate_concat {α : Type} (separator last : List α) (parts : List (List α)) :
    separator.intercalate (parts ++ [last]) =
      parts.flatMap (· ++ separator) ++ last := by
  induction parts with
  | nil => simp
  | cons part rest inductionHypothesis =>
    rw [List.cons_append, List.intercalate_cons_of_ne_nil (by simp), inductionHypothesis,
      List.flatMap_cons, List.append_assoc, List.append_assoc, List.append_assoc]

/-! ### Reading a spelling -/

/-- The spelling of a value is read as the value, wherever its arrays and objects may be opened. -/
def IsReadBack (json : Json) : Prop :=
  ∀ (orClose : Bool) (stack : List Open) (rest : List Token),
    stack.length + json.depth ≤ maxDepth →
    readFrom (.value orClose) stack (json.spelling ++ rest) = readFrom (.next json) stack rest

/-- Items are added to the array that is open, one after another, until it is closed. -/
theorem readFrom_items (orClose : Bool) (before : List Json) (item : Json) (later : List Json)
    (stack : List Open) (rest : List Token)
    (each : ∀ other ∈ item :: later, other.IsReadBack)
    (room : ∀ other ∈ item :: later, stack.length + 1 + other.depth ≤ maxDepth) :
    readFrom (.value orClose) (.array before :: stack)
        ([.comma].intercalate (spellings (item :: later)) ++ .closeArray :: rest) =
      readFrom (.next (.array (before.reverse ++ item :: later))) stack rest := by
  induction later generalizing orClose before item with
  | nil =>
    rw [spellings, spellings, List.intercalate_singleton,
      each item List.mem_cons_self orClose (.array before :: stack) _
        (room item List.mem_cons_self), readFrom,
      List.reverse_cons]
  | cons next later inductionHypothesis =>
    have others := inductionHypothesis false (item :: before) next
      (fun other member => each other (List.mem_cons_of_mem _ member))
      (fun other member => room other (List.mem_cons_of_mem _ member))
    rw [spellings, spellings, List.intercalate_cons_cons, ← spellings, List.append_assoc,
      List.append_assoc, each item List.mem_cons_self orClose (.array before :: stack) _
        (room item List.mem_cons_self),
      List.singleton_append, readFrom, others, List.reverse_cons, List.append_assoc,
      List.singleton_append]

/-- A name and a colon lead to the value behind them, which is read under the name. -/
theorem readFrom_entry {entry : String × Json} (back : entry.2.IsReadBack) (orClose : Bool)
    (before : List (String × Json)) {stack : List Open} (rest : List Token)
    (room : stack.length + 1 + entry.2.depth ≤ maxDepth) :
    readFrom (.name before orClose) stack
        (.scalar (.string entry.1) :: .colon :: (entry.2.spelling ++ rest)) =
      readFrom (.next entry.2) (.object before entry.1 :: stack) rest := by
  rw [readFrom, readFrom]
  exact back false _ rest room

/-- Entries are added to the object that is open, one after another, until it is closed. -/
theorem readFrom_entries (orClose : Bool) (before : List (String × Json)) (entry : String × Json)
    (later : List (String × Json)) (stack : List Open) (rest : List Token)
    (each : ∀ other ∈ entry :: later, other.2.IsReadBack)
    (room : ∀ other ∈ entry :: later, stack.length + 1 + other.2.depth ≤ maxDepth) :
    readFrom (.name before orClose) stack
        ([.comma].intercalate (entrySpellings (entry :: later)) ++ .closeObject :: rest) =
      readFrom (.next (.object (before.reverse ++ entry :: later))) stack rest := by
  induction later generalizing orClose before entry with
  | nil =>
    rw [entrySpellings, entrySpellings, List.intercalate_singleton, List.cons_append,
      List.cons_append, readFrom_entry (each entry List.mem_cons_self) orClose before _
        (room entry List.mem_cons_self), readFrom, List.reverse_cons]
  | cons next later inductionHypothesis =>
    have others := inductionHypothesis false (entry :: before) next
      (fun other member => each other (List.mem_cons_of_mem _ member))
      (fun other member => room other (List.mem_cons_of_mem _ member))
    rw [entrySpellings, entrySpellings, List.intercalate_cons_cons, ← entrySpellings,
      List.append_assoc, List.append_assoc, List.cons_append, List.cons_append,
      readFrom_entry (each entry List.mem_cons_self) orClose before _
        (room entry List.mem_cons_self), List.singleton_append, readFrom, others,
      List.reverse_cons, List.append_assoc, List.singleton_append]

/-- Every value is read from its spelling. The induction is on the value. -/
theorem isReadBack (json : Json) : json.IsReadBack := by
  induction json using Json.induction with
  | scalar json scalar =>
    intro orClose stack rest _
    rw [spelling_of_not_isCompound scalar, List.singleton_append, readFrom]
  | array items inductionHypothesis =>
    intro orClose stack rest room
    rw [depth] at room
    have below : ¬maxDepth ≤ stack.length := by omega
    rw [spelling, List.cons_append, List.append_assoc, List.singleton_append, readFrom,
      if_neg below]
    cases items with
    | nil => rw [spellings, List.intercalate_nil, List.nil_append, readFrom, List.reverse_nil]
    | cons item later =>
      refine readFrom_items true [] item later stack rest inductionHypothesis fun other member => ?_
      have shallow := deepest_le_iff.mp (Nat.le_refl _) other member
      omega
  | object entries inductionHypothesis =>
    intro orClose stack rest room
    rw [depth] at room
    have below : ¬maxDepth ≤ stack.length := by omega
    rw [spelling, List.cons_append, List.append_assoc, List.singleton_append, readFrom,
      if_neg below]
    cases entries with
    | nil =>
      rw [entrySpellings, List.intercalate_nil, List.nil_append, readFrom, List.reverse_nil]
    | cons entry later =>
      refine readFrom_entries true [] entry later stack rest inductionHypothesis
        fun other member => ?_
      have shallow := deepestEntry_le_iff.mp (Nat.le_refl _) other member
      omega

/-! ### What was read -/

theorem eq_of_scanWord {value found : Json} {word text rest : List Char}
    (scan : scanWord value word text = .ok (found, rest)) : found = value := by
  induction word generalizing text with
  | nil =>
    cases scan
    rfl
  | cons expected word inductionHypothesis =>
    cases text with
    | nil => cases scan
    | cons character text =>
      rw [scanWord] at scan
      split_ifs at scan
      exact inductionHypothesis scan

theorem not_isCompound_of_scanNumber {text rest : List Char} {found : Json}
    (scan : scanNumber text = .ok (found, rest)) : ¬found.IsCompound := by
  simp only [scanNumber, bind_eq_ok_iff] at scan
  obtain ⟨⟨whole, _⟩, -, ⟨fraction, _⟩, -, ⟨exponent, _⟩, -, scan⟩ := scan
  split at scan
  · cases scan
    exact id
  · cases scan

/-- No scalar token carries an array or an object. -/
theorem not_isCompound_of_scanScalar {budget : Nat} {text rest : List Char} {found : Json}
    (scan : scanScalar budget text = .ok (found, rest)) : ¬found.IsCompound := by
  unfold scanScalar at scan
  split at scan
  · rw [eq_of_scanWord scan]
    exact id
  · rw [eq_of_scanWord scan]
    exact id
  · rw [eq_of_scanWord scan]
    exact id
  · obtain ⟨⟨content, _⟩, -, same⟩ := bind_eq_ok_iff.mp scan
    cases same
    exact id
  · exact not_isCompound_of_scanNumber scan

/-- No token of a text carries an array or an object. -/
theorem not_isCompound_of_mem_tokensWithin {budget : Nat} {text : List Char} {found : Json}
    (member : .scalar found ∈ tokensWithin budget text) : ¬found.IsCompound := by
  fun_induction tokensWithin budget text with
  | case1 | case2 => cases member
  | case3 _ _ _ _ inductionHypothesis => exact inductionHypothesis member
  | case4 _ _ _ _ token punctuation inductionHypothesis =>
    rcases List.mem_cons.mp member with rfl | later
    · unfold punctuation? at punctuation
      split at punctuation <;> cases punctuation
    · exact inductionHypothesis later
  | case5 _ _ _ _ _ value after scan inductionHypothesis =>
    rcases List.mem_cons.mp member with same | later
    · cases same
      exact not_isCompound_of_scanScalar scan
    · exact inductionHypothesis later
  | case6 =>
    rcases List.mem_singleton.mp member with same
    split at same <;> cases same

/-- The tokens that led into an array or object, and through what it holds so far. -/
def Open.spent : Open → List Token
  | .array items => .openArray :: (spellings items.reverse).flatMap (· ++ [.comma])
  | .object entries name =>
    .openObject :: ((entrySpellings entries.reverse).flatMap (· ++ [.comma]) ++
      [.scalar (.string name), .colon])

/-- The tokens that led to a point inside a value. -/
def Awaited.spent (stack : List Open) : Awaited → List Token
  | .value _ => stack.reverse.flatMap Open.spent
  | .name entries _ =>
    stack.reverse.flatMap Open.spent ++
      .openObject :: (entrySpellings entries.reverse).flatMap (· ++ [.comma])
  | .colon entries key =>
    stack.reverse.flatMap Open.spent ++
      .openObject :: ((entrySpellings entries.reverse).flatMap (· ++ [.comma]) ++
        [.scalar (.string key)])
  | .next finished => stack.reverse.flatMap Open.spent ++ finished.spelling

/-- The arrays and objects that are open stand inside one another at no more levels than are
allowed, together with what they hold. -/
def Stacked : List Open → Prop
  | [] => True
  | .array items :: outer =>
    (∀ item ∈ items, outer.length + 1 + item.depth ≤ maxDepth) ∧ outer.length < maxDepth ∧
      Stacked outer
  | .object entries _ :: outer =>
    (∀ entry ∈ entries, outer.length + 1 + entry.2.depth ≤ maxDepth) ∧ outer.length < maxDepth ∧
      Stacked outer

/-- What a point inside a value has to do with the arrays and objects that are open there. An
array or object that may be closed at once is still empty. -/
def Awaited.Fits (stack : List Open) : Awaited → Prop
  | .value orClose =>
    Stacked stack ∧ (orClose = true → ∃ outer, stack = .array [] :: outer)
  | .name entries orClose =>
    Stacked (.object entries "" :: stack) ∧ (orClose = true → entries = [])
  | .colon entries key => Stacked (.object entries key :: stack)
  | .next finished => Stacked stack ∧ stack.length + finished.depth ≤ maxDepth

theorem Stacked.length_le {stack : List Open} (stacked : Stacked stack) :
    stack.length ≤ maxDepth := by
  cases stack with
  | nil => exact Nat.zero_le _
  | cons opened outer =>
    cases opened with
    | array | object => exact stacked.2.1

theorem Stacked.next_scalar {stack : List Open} (stacked : Stacked stack) {found : Json}
    (scalar : ¬found.IsCompound) : (Awaited.next found).Fits stack := by
  cases found with
  | array | object => exact (scalar trivial).elim
  | null | bool | number | string => exact ⟨stacked, stacked.length_le⟩

/-- A finished value is added to the array that is open. -/
theorem Stacked.cons_item {items : List Json} {stack : List Open} {finished : Json}
    (stacked : Stacked (.array items :: stack))
    (room : (Open.array items :: stack).length + finished.depth ≤ maxDepth) :
    Stacked (.array (finished :: items) :: stack) :=
  ⟨List.forall_mem_cons.mpr ⟨room, stacked.1⟩, stacked.2⟩

theorem Stacked.close_array {items : List Json} {stack : List Open}
    (stacked : Stacked (.array items :: stack)) :
    (Awaited.next (.array items.reverse)).Fits stack := by
  obtain ⟨each, room, below⟩ := stacked
  have shallow : deepest items.reverse ≤ maxDepth - (stack.length + 1) :=
    deepest_le_iff.mpr fun item member => by
      have bound := each item (List.mem_reverse.mp member)
      omega
  refine ⟨below, ?_⟩
  rw [depth]
  omega

/-- A finished value is added to the object that is open. -/
theorem Stacked.cons_entry {entries : List (String × Json)} {name : String} {stack : List Open}
    {finished : Json} (stacked : Stacked (.object entries name :: stack))
    (room : (Open.object entries name :: stack).length + finished.depth ≤ maxDepth) :
    Stacked (.object ((name, finished) :: entries) name :: stack) :=
  ⟨List.forall_mem_cons.mpr ⟨room, stacked.1⟩, stacked.2⟩

theorem Stacked.close_object {entries : List (String × Json)} {name : String} {stack : List Open}
    (stacked : Stacked (.object entries name :: stack)) :
    (Awaited.next (.object entries.reverse)).Fits stack := by
  obtain ⟨each, room, below⟩ := stacked
  have shallow : deepestEntry entries.reverse ≤ maxDepth - (stack.length + 1) :=
    deepestEntry_le_iff.mpr fun entry member => by
      have bound := each entry (List.mem_reverse.mp member)
      omega
  refine ⟨below, ?_⟩
  rw [depth]
  omega

/-- What was spent and what is left stay the same tokens together, until the value and what
follows it are found. -/
theorem spent_append_of_readFrom {awaited : Awaited} {stack : List Open} {tokens : List Token}
    {json : Json} {rest : List Token} (fits : awaited.Fits stack)
    (scalars : ∀ value, .scalar value ∈ tokens → ¬value.IsCompound)
    (result : readFrom awaited stack tokens = .ok (json, rest)) :
    awaited.spent stack ++ tokens = json.spelling ++ rest ∧ json.depth ≤ maxDepth := by
  have later {token : Token} {rest : List Token}
      (scalars : ∀ value, .scalar value ∈ token :: rest → ¬value.IsCompound) (value : Json)
      (member : .scalar value ∈ rest) : ¬value.IsCompound :=
    scalars value (List.mem_cons_of_mem _ member)
  fun_induction readFrom awaited stack tokens with
  | case1 finished tokens =>
    cases result
    exact ⟨by simp [Awaited.spent], by simpa [Awaited.Fits] using fits.2⟩
  -- A scalar, and the brackets that open an array or an object.
  | case6 orClose stack found rest inductionHypothesis =>
    have scalar := scalars found List.mem_cons_self
    have step := inductionHypothesis (fits.1.next_scalar scalar) (later scalars) result
    simpa [Awaited.spent, spelling_of_not_isCompound scalar] using step
  | case8 orClose stack rest room inductionHypothesis =>
    have step := inductionHypothesis ⟨⟨nofun, by omega, fits.1⟩, fun _ => ⟨stack, rfl⟩⟩
      (later scalars) result
    simpa [Awaited.spent, Open.spent, spellings] using step
  | case10 orClose stack rest room inductionHypothesis =>
    have step := inductionHypothesis ⟨⟨nofun, by omega, fits.1⟩, fun _ => rfl⟩
      (later scalars) result
    simpa [Awaited.spent, entrySpellings] using step
  -- The end of an array that holds nothing.
  | case11 items stack rest inductionHypothesis =>
    obtain ⟨outer, same⟩ := fits.2 rfl
    cases same
    have step := inductionHypothesis fits.1.close_array (later scalars) result
    simpa [Awaited.spent, Open.spent, spelling, spellings] using step
  -- The name of an entry, the end of an object that holds nothing, and the colon.
  | case12 entries orClose stack found rest inductionHypothesis =>
    have step := inductionHypothesis fits.1 (later scalars) result
    simpa [Awaited.spent] using step
  | case13 entries stack rest inductionHypothesis =>
    cases fits.2 rfl
    have step := inductionHypothesis fits.1.close_object (later scalars) result
    simpa [Awaited.spent, spelling, entrySpellings] using step
  | case14 entries name stack rest inductionHypothesis =>
    have step := inductionHypothesis ⟨fits, nofun⟩ (later scalars) result
    simpa [Awaited.spent, Open.spent] using step
  -- A comma or the end behind an item, and behind an entry.
  | case15 finished items stack rest inductionHypothesis =>
    have step := inductionHypothesis ⟨fits.1.cons_item fits.2, nofun⟩ (later scalars) result
    simpa [Awaited.spent, Open.spent, spellings, spellings_append] using step
  | case16 finished items stack rest inductionHypothesis =>
    have step := inductionHypothesis (fits.1.cons_item fits.2).close_array (later scalars) result
    simpa [Awaited.spent, Open.spent, spelling, spellings, spellings_append, intercalate_concat]
      using step
  | case17 finished entries name stack rest inductionHypothesis =>
    have step := inductionHypothesis ⟨fits.1.cons_entry fits.2, nofun⟩ (later scalars) result
    simpa [Awaited.spent, Open.spent, entrySpellings, entrySpellings_append] using step
  | case18 finished entries name stack rest inductionHypothesis =>
    have step := inductionHypothesis (fits.1.cons_entry fits.2).close_object (later scalars) result
    simpa [Awaited.spent, Open.spent, spelling, entrySpellings, entrySpellings_append,
      intercalate_concat] using step
  | _ => cases result

/-! ### What the reader accepts -/

/-- The reader finds a value in a text, with nothing behind it, exactly when the text is a
document of the value. -/
theorem readFront_eq_ok_iff (text : String) (json : Json) :
    readFront text = .ok (json, []) ↔ Spells text json := by
  constructor
  · intro result
    have found : (Awaited.value false).spent [] ++ tokens text.toList = json.spelling ++ [] ∧
        json.depth ≤ maxDepth :=
      spent_append_of_readFrom ⟨trivial, nofun⟩
        (fun value member => not_isCompound_of_mem_tokensWithin member) result
    exact ⟨by simpa [Awaited.spent] using found.1, found.2⟩
  · rintro ⟨spelled, shallow⟩
    have read := json.isReadBack false [] [] (by simpa using shallow)
    rw [List.append_nil, readFrom] at read
    rw [readFront, spelled, read]

end SolidScene.Json
