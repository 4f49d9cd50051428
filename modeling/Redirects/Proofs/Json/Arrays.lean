import Mathlib.Data.List.DropRight
import Mathlib.Data.List.Forall2
import Redirects.Proofs.Json.Passages

/-!
# The passages of array items

A value is read from a passage of its own, which ends where nothing goes on with it.  So the text of
an array can be cut at the commas between its items, and each cut alone between brackets is an array
of its item only.
-/

namespace Redirects.Json

/-! ## Blanks -/

/-- There is nothing but blanks. -/
def Blank (text : List Char) : Prop := skipBlanks text = []

theorem Blank.skipBlanks_append {gap : List Char} (blank : Blank gap) (behind : List Char) :
    skipBlanks (gap ++ behind) = skipBlanks behind :=
  List.dropWhile_append_of_pos (List.dropWhile_eq_nil_iff.mp blank)

theorem skipBlanks_skipBlanks (text : List Char) :
    skipBlanks (skipBlanks text) = skipBlanks text :=
  List.dropWhile_idempotent _ text

/-- What the blanks are in front of comes behind them whatever follows it. -/
theorem exists_blanks {text body : List Char} {c : Char} (skipped : skipBlanks text = c :: body) :
    ∃ gap, text = gap ++ c :: body ∧ Blank gap ∧
      ∀ behind, skipBlanks (gap ++ c :: behind) = c :: behind := by
  let isBlank (c : Char) : Bool := c == ' ' || c == '\n' || c == '\t' || c == '\r'
  have visible : isBlank c = false := by
    have refused := List.head?_dropWhile_not isBlank text
    have first : (text.dropWhile isBlank).head? = some c := congrArg List.head? skipped
    rwa [first] at refused
  have blank : Blank (text.takeWhile isBlank) :=
    List.dropWhile_eq_nil_iff.mpr fun c => List.mem_takeWhile_imp
  refine ⟨text.takeWhile isBlank, ?_, blank, fun behind => ?_⟩
  · rw [← skipped]
    exact List.takeWhile_append_dropWhile.symm
  · rw [blank.skipBlanks_append]
    exact List.dropWhile_cons_of_neg (by simpa [isBlank] using visible)

/-- What stands behind a value up to the next mark does not go on with a number. -/
theorem ends_of_skipBlanks {text rest : List Char} {mark : Char}
    (marked : mark = ']' ∨ mark = ',' ∨ mark = '\x7d') (skipped : skipBlanks text = mark :: rest) :
    Ends text := by
  intro c first
  obtain ⟨text, rfl⟩ := List.head?_eq_some_iff.mp first
  rw [skipBlanks, List.dropWhile_cons] at skipped
  split at skipped
  · next blank =>
      simp only [Bool.or_eq_true, beq_iff_eq] at blank
      rcases blank with ((rfl | rfl) | rfl) | rfl <;> decide
  · obtain ⟨rfl, -⟩ := List.cons.inj skipped
    rcases marked with rfl | rfl | rfl <;> decide

/-! ## One step of the reader -/

/-- The value that is opened by a bracket or brace, behind it: nothing up to the closing mark, or
the parts that are read up to it. -/
def readInside {α : Type} (closing : Char) (build : List α → Json)
    (read : List Char → Option (List α × List Char)) (text : List Char) :
    Option (Json × List Char) :=
  if (skipBlanks text).head? = some closing then some (build [], (skipBlanks text).tail)
  else (read (skipBlanks text)).map fun (parts, rest) => (build parts, rest)

theorem readInside_of_parts {α : Type} {closing : Char} {build : List α → Json}
    {read : List Char → Option (List α × List Char)} {text : List Char}
    (opens : ∀ rest, skipBlanks text ≠ closing :: rest) :
    readInside closing build read text =
      (read (skipBlanks text)).map fun (parts, rest) => (build parts, rest) := by
  refine if_neg fun first => ?_
  obtain ⟨rest, closes⟩ := List.head?_eq_some_iff.mp first
  exact opens rest closes

theorem readValue_bracket_eq {text tail : List Char} (fuel : Nat)
    (skipped : skipBlanks text = '[' :: tail) :
    readValue (fuel + 1) text = readInside ']' .array (readItems fuel) tail := by
  rw [readValue, skipped]
  simp only
  split
  · next closes => simp [readInside, closes]
  · next opens => exact (readInside_of_parts opens).symm

theorem readValue_brace_eq {text tail : List Char} (fuel : Nat)
    (skipped : skipBlanks text = '\x7b' :: tail) :
    readValue (fuel + 1) text = readInside '\x7d' .object (readEntries fuel) tail := by
  rw [readValue, skipped]
  simp only
  split
  · next closes => simp [readInside, closes]
  · next opens => exact (readInside_of_parts opens).symm

theorem readValue_numeral {text : List Char} {c : Char} {body : List Char} (fuel : Nat)
    (skipped : skipBlanks text = c :: body) (begins : c = '-' ∨ c.isDigit = true) :
    readValue (fuel + 1) text =
      (readNumeral (c :: body)).map fun (numeral, rest) => (.number numeral, rest) := by
  rw [readValue, skipped]
  split
  all_goals first | rfl | simp_all

theorem readItems_succ_iff {fuel : Nat} {text rest : List Char} {items : List Json} :
    readItems (fuel + 1) text = some (items, rest) ↔
      ∃ item behind, readValue fuel text = some (item, behind) ∧
        (skipBlanks behind = ']' :: rest ∧ items = [item] ∨
          ∃ more others, skipBlanks behind = ',' :: more ∧
            readItems fuel more = some (others, rest) ∧ items = item :: others) := by
  rw [readItems]
  constructor
  · intro read
    split at read
    · contradiction
    next item behind found =>
    refine ⟨item, behind, found, ?_⟩
    split at read
    · next closes =>
        obtain ⟨rfl, rfl⟩ := Prod.mk.inj (Option.some.inj read)
        exact .inl ⟨closes, rfl⟩
    · next more goes_on =>
        obtain ⟨⟨others, _⟩, others_read, items_eq⟩ := Option.map_eq_some_iff.mp read
        obtain ⟨rfl, rfl⟩ := Prod.mk.inj items_eq
        exact .inr ⟨more, others, goes_on, others_read, rfl⟩
    · contradiction
  · rintro ⟨item, behind, found, ⟨closes, rfl⟩ | ⟨more, others, goes_on, others_read, rfl⟩⟩
    · simp [found, closes]
    · simp [found, goes_on, others_read]

theorem readEntries_succ_iff {fuel : Nat} {text rest : List Char}
    {entries : List (Option String × Json)} :
    readEntries (fuel + 1) text = some (entries, rest) ↔
      ∃ inner name after body value behind, skipBlanks text = '"' :: inner ∧
        readString inner = some (name, after) ∧ skipBlanks after = ':' :: body ∧
        readValue fuel body = some (value, behind) ∧
        (skipBlanks behind = '\x7d' :: rest ∧ entries = [(name, value)] ∨
          ∃ more others, skipBlanks behind = ',' :: more ∧
            readEntries fuel more = some (others, rest) ∧ entries = (name, value) :: others) := by
  rw [readEntries]
  constructor
  · intro read
    split at read
    · next inner opens =>
      split at read
      · contradiction
      next name after named =>
      split at read
      · next body colon =>
        split at read
        · contradiction
        next value behind found =>
        refine ⟨inner, name, after, body, value, behind, opens, named, colon, found, ?_⟩
        split at read
        · next closes =>
            obtain ⟨rfl, rfl⟩ := Prod.mk.inj (Option.some.inj read)
            exact .inl ⟨closes, rfl⟩
        · next more goes_on =>
            obtain ⟨⟨others, _⟩, others_read, entries_eq⟩ := Option.map_eq_some_iff.mp read
            obtain ⟨rfl, rfl⟩ := Prod.mk.inj entries_eq
            exact .inr ⟨more, others, goes_on, others_read, rfl⟩
        · contradiction
      · contradiction
    · contradiction
  · rintro ⟨inner, name, after, body, value, behind, opens, named, colon, found,
      ⟨closes, rfl⟩ | ⟨more, others, goes_on, others_read, rfl⟩⟩
    · simp [opens, named, colon, found, closes]
    · simp [opens, named, colon, found, goes_on, others_read]

/-! ## Passages of values -/

/-- The characters are read as the value wherever they stand, if nothing goes on with them. -/
structure Writes {α : Type} (read : Nat → List Char → Option (α × List Char)) (front : List Char)
    (value : α) : Prop where
  ne_nil : front ≠ []
  reads : ∀ behind fuel, Ends behind → 2 * front.length ≤ fuel →
    read fuel (front ++ behind) = some (value, behind)

theorem Writes.of_succ {α : Type} {read : Nat → List Char → Option (α × List Char)}
    {front : List Char} {value : α} (ne_nil : front ≠ [])
    (reads : ∀ behind fuel, Ends behind → 2 * front.length ≤ fuel + 1 →
      read (fuel + 1) (front ++ behind) = some (value, behind)) : Writes read front value := by
  refine ⟨ne_nil, fun behind fuel ends enough => ?_⟩
  have some_character := List.length_pos_of_ne_nil ne_nil
  obtain ⟨fuel, rfl⟩ : ∃ less, fuel = less + 1 := ⟨fuel - 1, by omega⟩
  exact reads behind fuel ends enough

/-- Whatever the reader finds is written by characters of its own. -/
def Fronted {α : Type} (read : Nat → List Char → Option (α × List Char)) (fuel : Nat) : Prop :=
  ∀ {text : List Char} {value : α} {rest : List Char}, read fuel text = some (value, rest) →
    ∃ front, text = front ++ rest ∧ Writes read front value

/-- Blanks before a value are written with it. -/
theorem exists_front {text rest : List Char} {c : Char} {value : Json} (body : List Char)
    (skipped : skipBlanks text = c :: (body ++ rest))
    (reads : ∀ text behind fuel, Ends behind → 2 * body.length ≤ fuel →
      skipBlanks text = c :: (body ++ behind) → readValue (fuel + 1) text = some (value, behind)) :
    ∃ front, text = front ++ rest ∧ Writes readValue front value := by
  obtain ⟨gap, rfl, -, again⟩ := exists_blanks skipped
  refine ⟨gap ++ c :: body, by simp, .of_succ (by simp) fun behind fuel ends enough => ?_⟩
  simp only [List.length_append, List.length_cons] at enough
  refine reads _ behind fuel ends (by omega) ?_
  rw [List.append_assoc]
  exact again (body ++ behind)

theorem readInside_front {α : Type} {closing : Char} {build : List α → Json}
    {read : Nat → List Char → Option (List α × List Char)} {fuel : Nat}
    (fronted : Fronted read fuel) {tail rest : List Char} {value : Json}
    (found : readInside closing build (read fuel) tail = some (value, rest)) :
    ∃ body, tail = body ++ rest ∧ ∀ behind fuel, Ends behind → 2 * body.length ≤ fuel →
      readInside closing build (read fuel) (body ++ behind) = some (value, behind) := by
  rw [readInside] at found
  split_ifs at found with closes
  · obtain ⟨_, skipped⟩ := List.head?_eq_some_iff.mp closes
    obtain ⟨rfl, rfl⟩ := Prod.mk.inj (Option.some.inj found)
    obtain ⟨gap, rfl, -, again⟩ := exists_blanks skipped
    refine ⟨gap ++ [closing], by simp [again], fun behind fuel _ _ => ?_⟩
    have inside : skipBlanks (gap ++ [closing] ++ behind) = closing :: behind := by
      simpa using again behind
    rw [readInside, inside]
    simp
  · obtain ⟨⟨parts, _⟩, parts_read, value_eq⟩ := Option.map_eq_some_iff.mp found
    obtain ⟨rfl, rfl⟩ := Prod.mk.inj value_eq
    obtain ⟨front, skipped, writes⟩ := fronted parts_read
    obtain ⟨c, front, rfl⟩ := List.exists_cons_of_ne_nil writes.ne_nil
    rw [List.cons_append] at skipped
    obtain ⟨gap, rfl, -, again⟩ := exists_blanks skipped
    refine ⟨gap ++ c :: front, by simp, fun behind fuel ends enough => ?_⟩
    simp only [List.length_append, List.length_cons] at enough
    have inside : skipBlanks (gap ++ c :: front ++ behind) = c :: front ++ behind := by
      simpa using again (front ++ behind)
    have other : (c :: front ++ behind).head? ≠ some closing := by
      rwa [skipped] at closes
    rw [readInside, inside, if_neg other, writes.reads behind fuel ends (by simp; omega)]
    rfl

theorem fronted_readValue {fuel : Nat} (items : Fronted readItems fuel)
    (entries : Fronted readEntries fuel) : Fronted readValue (fuel + 1) := by
  intro text value rest read
  have steps := read
  rw [readValue] at steps
  split at steps
  · next skipped =>
      obtain ⟨rfl, rfl⟩ := Prod.mk.inj (Option.some.inj steps)
      refine exists_front "ull".toList skipped fun text behind fuel _ _ skipped => ?_
      rw [readValue, skipped]
      rfl
  · next skipped =>
      obtain ⟨rfl, rfl⟩ := Prod.mk.inj (Option.some.inj steps)
      refine exists_front "rue".toList skipped fun text behind fuel _ _ skipped => ?_
      rw [readValue, skipped]
      rfl
  · next skipped =>
      obtain ⟨rfl, rfl⟩ := Prod.mk.inj (Option.some.inj steps)
      refine exists_front "alse".toList skipped fun text behind fuel _ _ skipped => ?_
      rw [readValue, skipped]
      rfl
  · next inner skipped =>
      obtain ⟨⟨_, _⟩, string_read, value_eq⟩ := Option.map_eq_some_iff.mp steps
      obtain ⟨rfl, rfl⟩ := Prod.mk.inj value_eq
      obtain ⟨body, rfl, again⟩ := readString_inside string_read
      refine exists_front (body ++ ['"']) (by simpa using skipped) ?_
      intro text behind fuel _ _ skipped
      rw [readValue, skipped]
      simp [again]
  · next tail skipped =>
      rw [readValue_bracket_eq fuel skipped] at read
      obtain ⟨body, rfl, again⟩ := readInside_front items read
      refine exists_front body skipped fun text behind fuel ends enough skipped => ?_
      rw [readValue_bracket_eq fuel skipped, again behind fuel ends enough]
  · next tail skipped =>
      rw [readValue_brace_eq fuel skipped] at read
      obtain ⟨body, rfl, again⟩ := readInside_front entries read
      refine exists_front body skipped fun text behind fuel ends enough skipped => ?_
      rw [readValue_brace_eq fuel skipped, again behind fuel ends enough]
  · obtain ⟨⟨_, _⟩, number_read, value_eq⟩ := Option.map_eq_some_iff.mp steps
    obtain ⟨rfl, rfl⟩ := Prod.mk.inj value_eq
    obtain ⟨c, front, skipped, begins, again⟩ := readNumeral_front number_read
    rw [List.cons_append] at skipped
    refine exists_front front skipped fun text behind fuel ends _ skipped => ?_
    rw [readValue_numeral fuel skipped begins]
    simpa using again behind ends

theorem fronted_readItems {fuel : Nat} (value : Fronted readValue fuel)
    (items : Fronted readItems fuel) : Fronted readItems (fuel + 1) := by
  intro text found rest read
  obtain ⟨item, behind, item_read, ⟨closes, rfl⟩ | ⟨more, others, goes_on, others_read, rfl⟩⟩ :=
    readItems_succ_iff.mp read
  · obtain ⟨front, rfl, writes⟩ := value item_read
    obtain ⟨gap, rfl, -, again⟩ := exists_blanks closes
    refine ⟨front ++ (gap ++ [']']), by simp, .of_succ (by simp) fun behind fuel _ enough => ?_⟩
    simp only [List.length_append, List.length_cons] at enough
    refine readItems_succ_iff.mpr ⟨item, gap ++ ']' :: behind, ?_, .inl ⟨again behind, rfl⟩⟩
    have item_again := writes.reads _ fuel (ends_of_skipBlanks (.inl rfl) (again behind)) (by omega)
    simpa using item_again
  · obtain ⟨front, rfl, writes⟩ := value item_read
    obtain ⟨gap, rfl, -, again⟩ := exists_blanks goes_on
    obtain ⟨front', rfl, others_write⟩ := items others_read
    refine ⟨front ++ (gap ++ ',' :: front'), by simp, .of_succ (by simp) ?_⟩
    intro behind fuel ends enough
    simp only [List.length_append, List.length_cons] at enough
    have comma := again (front' ++ behind)
    refine readItems_succ_iff.mpr ⟨item, gap ++ ',' :: (front' ++ behind), ?_, .inr
      ⟨_, others, comma, others_write.reads behind fuel ends (by omega), rfl⟩⟩
    have item_again := writes.reads _ fuel (ends_of_skipBlanks (.inr (.inl rfl)) comma) (by omega)
    simpa using item_again

theorem fronted_readEntries {fuel : Nat} (value : Fronted readValue fuel)
    (entries : Fronted readEntries fuel) : Fronted readEntries (fuel + 1) := by
  intro text found rest read
  obtain ⟨inner, name, after, body, json, behind, opens, named, colon, json_read,
    ends_or_goes_on⟩ := readEntries_succ_iff.mp read
  obtain ⟨gap, rfl, -, mark_again⟩ := exists_blanks opens
  obtain ⟨letters, rfl, name_again⟩ := readString_inside named
  obtain ⟨gap', rfl, -, colon_again⟩ := exists_blanks colon
  obtain ⟨front, rfl, writes⟩ := value json_read
  rcases ends_or_goes_on with ⟨closes, rfl⟩ | ⟨more, others, goes_on, others_read, rfl⟩
  · obtain ⟨gap'', rfl, -, again⟩ := exists_blanks closes
    refine ⟨gap ++ '"' :: (letters ++ '"' :: (gap' ++ ':' :: (front ++ (gap'' ++ ['\x7d'])))),
      by simp, .of_succ (by simp) fun behind fuel _ enough => ?_⟩
    simp only [List.length_append, List.length_cons] at enough
    refine readEntries_succ_iff.mpr ⟨_, name, _, _, json, gap'' ++ '\x7d' :: behind, ?_,
      name_again (gap' ++ ':' :: (front ++ (gap'' ++ '\x7d' :: behind))), colon_again _, ?_,
      .inl ⟨again behind, rfl⟩⟩
    · simpa using mark_again _
    · exact writes.reads _ fuel (ends_of_skipBlanks (.inr (.inr rfl)) (again behind)) (by omega)
  · obtain ⟨gap'', rfl, -, again⟩ := exists_blanks goes_on
    obtain ⟨front', rfl, others_write⟩ := entries others_read
    refine ⟨gap ++ '"' :: (letters ++ '"' :: (gap' ++ ':' :: (front ++ (gap'' ++ ',' :: front')))),
      by simp, .of_succ (by simp) fun behind fuel ends enough => ?_⟩
    simp only [List.length_append, List.length_cons] at enough
    have comma := again (front' ++ behind)
    refine readEntries_succ_iff.mpr ⟨_, name, _, _, json, gap'' ++ ',' :: (front' ++ behind), ?_,
      name_again (gap' ++ ':' :: (front ++ (gap'' ++ ',' :: (front' ++ behind)))), colon_again _,
      ?_, .inr ⟨_, others, comma, others_write.reads behind fuel ends (by omega), rfl⟩⟩
    · simpa using mark_again _
    · exact writes.reads _ fuel (ends_of_skipBlanks (.inr (.inl rfl)) comma) (by omega)

theorem fronted (fuel : Nat) :
    Fronted readValue fuel ∧ Fronted readItems fuel ∧ Fronted readEntries fuel := by
  induction fuel with
  | zero =>
      refine ⟨?_, ?_, ?_⟩ <;> intro _ _ _ read <;>
        simp [readValue, readItems, readEntries] at read
  | succ fuel ih =>
      obtain ⟨value, items, entries⟩ := ih
      exact ⟨fronted_readValue items entries, fronted_readItems value items,
        fronted_readEntries value entries⟩

/-! ## Items alone -/

theorem readValue_skipBlanks (fuel : Nat) (text : List Char) :
    readValue fuel (skipBlanks text) = readValue fuel text := by
  cases fuel with
  | zero => simp [readValue]
  | succ fuel => rw [readValue, readValue, skipBlanks_skipBlanks]

theorem readItems_skipBlanks (fuel : Nat) (text : List Char) :
    readItems fuel (skipBlanks text) = readItems fuel text := by
  cases fuel with
  | zero => simp [readItems]
  | succ fuel => rw [readItems, readItems, readValue_skipBlanks]

/-- No value begins with the end of an array. -/
theorem readValue_closing {text rest : List Char} (fuel : Nat)
    (skipped : skipBlanks text = ']' :: rest) : readValue fuel text = none := by
  cases fuel with
  | zero => simp [readValue]
  | succ fuel =>
      rw [readValue, skipped]
      rfl

/-- The characters are an item of an array, with blanks around it. -/
def IsItem (piece : List Char) (item : Json) : Prop :=
  ∃ front gap, piece = front ++ gap ∧ Writes readValue front item ∧ Blank gap

/-- The text of items up to the end of their array is cut by the commas between them. -/
theorem exists_pieces {fuel : Nat} {text rest : List Char} {items : List Json}
    (read : readItems fuel text = some (items, rest)) :
    ∃ pieces, pieces ≠ [] ∧ text = [','].intercalate pieces ++ ']' :: rest ∧
      List.Forall₂ IsItem pieces items := by
  induction fuel generalizing text items with
  | zero => simp [readItems] at read
  | succ fuel ih =>
      obtain ⟨item, behind, item_read, ⟨closes, rfl⟩ | ⟨more, others, goes_on, others_read, rfl⟩⟩ :=
        readItems_succ_iff.mp read
      · obtain ⟨front, rfl, writes⟩ := (fronted fuel).1 item_read
        obtain ⟨gap, rfl, blank, -⟩ := exists_blanks closes
        exact ⟨[front ++ gap], by simp, by simp,
          .cons ⟨front, gap, rfl, writes, blank⟩ .nil⟩
      · obtain ⟨front, rfl, writes⟩ := (fronted fuel).1 item_read
        obtain ⟨gap, rfl, blank, -⟩ := exists_blanks goes_on
        obtain ⟨pieces, nonempty, rfl, each⟩ := ih others_read
        refine ⟨(front ++ gap) :: pieces, by simp, ?_, .cons ⟨front, gap, rfl, writes, blank⟩ each⟩
        rw [List.intercalate_cons_of_ne_nil nonempty]
        simp

/-- Between brackets of its own an item is an array. -/
theorem readValue_alone {piece : List Char} {item : Json} (alone : IsItem piece item) {fuel : Nat}
    (enough : 2 * piece.length + 2 ≤ fuel) :
    readValue fuel ('[' :: piece ++ [']']) = some (.array [item], []) := by
  obtain ⟨front, gap, rfl, writes, blank⟩ := alone
  obtain ⟨fuel, rfl⟩ : ∃ less, fuel = less + 1 + 1 := ⟨fuel - 2, by omega⟩
  simp only [List.length_append] at enough
  have closes : skipBlanks (gap ++ [']']) = [']'] := blank.skipBlanks_append [']']
  have item_read (fuel : Nat) (enough : 2 * front.length ≤ fuel) :
      readValue fuel (front ++ (gap ++ [']'])) = some (item, gap ++ [']']) :=
    writes.reads _ fuel (ends_of_skipBlanks (.inl rfl) closes) enough
  have other (rest : List Char) : skipBlanks (front ++ (gap ++ [']'])) ≠ ']' :: rest := by
    intro skipped
    have missed := readValue_closing (2 * front.length) skipped
    rw [item_read _ le_rfl] at missed
    contradiction
  have items_read : readItems (fuel + 1) (front ++ (gap ++ [']'])) = some ([item], []) :=
    readItems_succ_iff.mpr ⟨item, gap ++ [']'], item_read fuel (by omega), .inl ⟨closes, rfl⟩⟩
  have opens : skipBlanks ('[' :: (front ++ gap) ++ [']']) = '[' :: (front ++ (gap ++ [']'])) := by
    simp [skipBlanks]
  rw [readValue_bracket_eq (fuel + 1) opens, readInside_of_parts other, readItems_skipBlanks,
    items_read]
  rfl

theorem read?_alone {piece : String} {item : Json} (alone : IsItem piece.toList item) :
    read? ("[" ++ piece ++ "]") = some (.array [item]) := by
  have chars : ("[" ++ piece ++ "]").toList = '[' :: piece.toList ++ [']'] := by
    simp [String.toList_append]
  rw [read?, chars, readValue_alone alone (by simp; omega)]
  rfl

/-- The texts of the items of an array, cut out of the text of the array. -/
structure ItemTexts (text : String) (pieces : List String) (items : List Json) : Prop where
  cut : pieces ≠ [] → ∃ before after, Blank before.toList ∧ Blank after.toList ∧
    text = before ++ "[" ++ ",".intercalate pieces ++ "]" ++ after
  /-- Each is the text of its item only. -/
  alone : List.Forall₂ (fun piece item => read? ("[" ++ piece ++ "]") = some (.array [item]))
    pieces items

/-- An array is opened by a bracket, and its items are read behind it. -/
theorem exists_items_of_readValue {fuel : Nat} {text rest : List Char} {items : List Json}
    (read : readValue (fuel + 1) text = some (.array items, rest)) :
    ∃ tail, skipBlanks text = '[' :: tail ∧
      (items = [] ∨ readItems fuel tail = some (items, rest)) := by
  have steps := read
  rw [readValue] at steps
  split at steps
  case h_5 tail skipped =>
    refine ⟨tail, skipped, ?_⟩
    rw [readValue_bracket_eq fuel skipped, readInside] at read
    split_ifs at read
    · obtain ⟨array_eq, -⟩ := Prod.mk.inj (Option.some.inj read)
      exact .inl (Json.array.inj array_eq).symm
    · obtain ⟨⟨_, _⟩, items_read, value_eq⟩ := Option.map_eq_some_iff.mp read
      obtain ⟨array_eq, rfl⟩ := Prod.mk.inj value_eq
      rw [readItems_skipBlanks, Json.array.inj array_eq] at items_read
      exact .inr items_read
  case h_6 => split at steps <;> simp at steps
  all_goals simp at steps

/-- Every array is cut into the texts of its items. -/
theorem exists_itemTexts {text : String} {items : List Json}
    (read : read? text = some (.array items)) : ∃ pieces, ItemTexts text pieces items := by
  rw [read?] at read
  split at read
  case h_2 => contradiction
  next value rest found =>
  rw [Option.ite_none_right_eq_some, List.isEmpty_iff, Option.some.injEq] at read
  obtain ⟨ended, rfl⟩ := read
  obtain ⟨tail, opens, rfl | items_read⟩ := exists_items_of_readValue found
  · exact ⟨[], fun nonempty => absurd rfl nonempty, .nil⟩
  obtain ⟨gap, text_eq, blank, -⟩ := exists_blanks opens
  obtain ⟨pieces, nonempty, rfl, alone⟩ := exists_pieces items_read
  refine ⟨pieces.map String.ofList, fun _ => ⟨.ofList gap, .ofList rest, ?_, ?_, ?_⟩, ?_⟩
  · rwa [String.toList_ofList]
  · rwa [String.toList_ofList]
  · apply String.toList_injective
    simp [text_eq, String.toList_append, String.toList_intercalate]
  · rw [List.forall₂_map_left_iff]
    refine alone.imp fun piece item alone => read?_alone ?_
    rwa [String.toList_ofList]

end Redirects.Json
