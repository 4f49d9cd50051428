import Redirects.Proofs.Json.Scalars

/-!
# Values survive printing

A printed value is read back as the value, whatever follows it: blanks before a value do not matter,
and what follows a value never goes on with a number.  The reader asks for no more fuel than twice
the length of what it reads.
-/

namespace Redirects.Json

/-- The values that are printed: their numbers are natural numbers, and their texts are whole. -/
inductive Printable : Json → Prop
  | null : Printable .null
  | bool (value : Bool) : Printable (.bool value)
  | natural (value : Nat) : Printable (.ofNat value)
  | text (text : String) : Printable (.ofString text)
  | array {items : List Json} (each : ∀ item ∈ items, Printable item) : Printable (.array items)
  | object {entries : List (Option String × Json)} (named : ∀ entry ∈ entries, entry.1.isSome)
      (each : ∀ entry ∈ entries, Printable entry.2) : Printable (.object entries)

/-! ## Blanks -/

theorem skipBlanks_newline (depth : Nat) (text : List Char) :
    skipBlanks (newline depth ++ text) = skipBlanks text := by
  have blanks : ∀ c ∈ newline depth,
      (c == ' ' || c == '\n' || c == '\t' || c == '\r') = true := by
    intro c listed
    rcases List.mem_cons.mp listed with rfl | listed
    · rfl
    · rw [List.eq_of_mem_replicate listed]
      rfl
  rw [skipBlanks, List.dropWhile_append_of_pos blanks, skipBlanks]

/-- The text starts with a character that stands for itself. -/
def Opens (text : List Char) : Prop :=
  ∃ c rest, text = c :: rest ∧ c ≠ ' ' ∧ c ≠ '\n' ∧ c ≠ '\t' ∧ c ≠ '\r' ∧ c ≠ ']' ∧ c ≠ '\x7d'

theorem skipBlanks_of_opens {text : List Char} (opens : Opens text) : skipBlanks text = text := by
  obtain ⟨c, rest, rfl, blank, newline, tab, carriage, -, -⟩ := opens
  simp [skipBlanks, blank, newline, tab, carriage]

theorem opens_quote (text : String) (rest : List Char) : Opens (quote text ++ rest) :=
  ⟨'"', _, rfl, by decide⟩

@[simp]
theorem printAt_ofNat (depth value : Nat) :
    printAt depth (.ofNat value) = Nat.toDigits 10 value := by
  rw [ofNat, printAt, printNumeral]
  simp [map_digitChar_digits]

theorem exists_digit_cons (value : Nat) :
    ∃ c rest, Nat.toDigits 10 value = c :: rest ∧ c.isDigit = true := by
  obtain ⟨c, rest, digits_eq⟩ := List.exists_cons_of_ne_nil (Nat.toDigits_ne_nil (n := value))
  refine ⟨c, rest, digits_eq, ?_⟩
  exact Nat.isDigit_of_mem_toDigits (b := 10) (n := value) (by decide) (by decide)
    (by simp [digits_eq])

/-- A printed value is never empty, and starts with no blank and with no closing bracket. -/
theorem opens_printAt {value : Json} (printable : Printable value) (depth : Nat)
    (rest : List Char) : Opens (printAt depth value ++ rest) := by
  cases printable with
  | null => exact ⟨'n', _, rfl, by decide⟩
  | bool value =>
      cases value with
      | true => exact ⟨'t', _, rfl, by decide⟩
      | false => exact ⟨'f', _, rfl, by decide⟩
  | natural value =>
      obtain ⟨c, others, digits_eq, digit⟩ := exists_digit_cons value
      rw [printAt_ofNat, digits_eq]
      refine ⟨c, _, rfl, ?_, ?_, ?_, ?_, ?_, ?_⟩ <;> (rintro rfl; contradiction)
  | text text =>
      rw [ofString, printAt]
      exact opens_quote text rest
  | @array items each =>
      cases items with
      | nil => exact ⟨'[', _, rfl, by decide⟩
      | cons item items => exact ⟨'[', _, rfl, by decide⟩
  | @object entries named each =>
      cases entries with
      | nil => exact ⟨'\x7b', _, rfl, by decide⟩
      | cons entry entries => exact ⟨'\x7b', _, rfl, by decide⟩

/-! ## Reading what is printed -/

/-- The value is read back where it is printed. -/
def Reads (value : Json) : Prop :=
  ∀ depth fuel rest, Ends rest → 2 * (printAt depth value).length ≤ fuel →
    readValue fuel (printAt depth value ++ rest) = some (value, rest)

-- The three readers call each other, so their equations come at once, here and not in each proof.
attribute [local simp] readValue readItems readEntries in
theorem readValue_newline (fuel depth : Nat) (text : List Char) :
    readValue fuel (newline depth ++ text) = readValue fuel text := by
  cases fuel with
  | zero => simp
  | succ fuel => simp [skipBlanks_newline]

theorem readItems_newline (fuel depth : Nat) (text : List Char) :
    readItems fuel (newline depth ++ text) = readItems fuel text := by
  cases fuel with
  | zero => rw [readItems, readItems]
  | succ fuel => rw [readItems, readItems, readValue_newline]

theorem readEntries_newline (fuel depth : Nat) (text : List Char) :
    readEntries fuel (newline depth ++ text) = readEntries fuel text := by
  cases fuel with
  | zero => rw [readEntries, readEntries]
  | succ fuel => rw [readEntries, readEntries, skipBlanks_newline]

theorem reads_null : Reads .null := by
  intro depth fuel rest _ enough
  cases fuel with
  | zero => simp [printAt] at enough
  | succ fuel => rfl

theorem reads_bool (value : Bool) : Reads (.bool value) := by
  intro depth fuel rest _ enough
  cases fuel with
  | zero => cases value <;> simp [printAt] at enough
  | succ fuel => cases value <;> rfl

theorem reads_natural (value : Nat) : Reads (.ofNat value) := by
  intro depth fuel rest ends enough
  obtain ⟨c, others, digits_eq, digit⟩ := exists_digit_cons value
  rw [printAt_ofNat] at enough ⊢
  cases fuel with
  | zero => simp [digits_eq] at enough
  | succ fuel =>
      have skipped :
          skipBlanks (Nat.toDigits 10 value ++ rest) = Nat.toDigits 10 value ++ rest := by
        have opens := opens_printAt (.natural value) depth rest
        rw [printAt_ofNat] at opens
        exact skipBlanks_of_opens opens
      have number : readValue (fuel + 1) (Nat.toDigits 10 value ++ rest) =
          (readNumeral (Nat.toDigits 10 value ++ rest)).map
            fun read => (.number read.1, read.2) := by
        rw [readValue, skipped, digits_eq, List.cons_append]
        split <;> simp_all
      rw [number, readNumeral_toDigits value ends]
      rfl

theorem reads_text (text : String) : Reads (.ofString text) := by
  intro depth fuel rest _ enough
  rw [ofString, printAt] at enough ⊢
  cases fuel with
  | zero => simp [quote] at enough
  | succ fuel =>
      rw [readValue, skipBlanks_of_opens (opens_quote _ rest)]
      simp only [Option.getD_some, quote, List.cons_append, List.append_assoc, List.nil_append]
      rw [readString_quote]
      rfl

theorem skipBlanks_comma (text : List Char) : skipBlanks (',' :: text) = ',' :: text := rfl

/-! ## Arrays -/

theorem readValue_bracket (fuel depth : Nat) {text : List Char} (opens : Opens text) :
    readValue (fuel + 1) ('[' :: (newline depth ++ text)) =
      (readItems fuel text).map fun (items, rest) => (.array items, rest) := by
  have skipped : skipBlanks (newline depth ++ text) = text := by
    rw [skipBlanks_newline, skipBlanks_of_opens opens]
  obtain ⟨c, others, rfl, -, -, -, -, closing, -⟩ := opens
  have bracket : skipBlanks ('[' :: (newline depth ++ c :: others)) =
      '[' :: (newline depth ++ c :: others) := rfl
  rw [readValue, bracket]
  simp only [skipped]
  split
  · next same => exact absurd (List.cons.inj same).1 closing
  · rfl

/-- What follows an item of an array, up to the end of the array and beyond. -/
theorem ends_printItems (inner outer : Nat) (items : List Json) (rest : List Char) :
    Ends (printItems inner items ++ newline outer ++ ']' :: rest) := by
  cases items with
  | nil => simp [printItems, newline, Ends, Char.isDigit]
  | cons item items => simp [printItems, Ends, Char.isDigit]

theorem readItems_print {item : Json} {items : List Json} (read_item : Reads item)
    (read_items : ∀ item ∈ items, Reads item) (inner outer fuel : Nat) (rest : List Char)
    (enough : 2 * (printAt inner item ++ printItems inner items).length < fuel) :
    readItems fuel
        (printAt inner item ++ (printItems inner items ++ newline outer ++ ']' :: rest)) =
      some (item :: items, rest) := by
  induction items generalizing item fuel with
  | nil =>
      cases fuel with
      | zero => simp at enough
      | succ fuel =>
          rw [List.length_append] at enough
          rw [readItems, read_item inner fuel _ (ends_printItems inner outer [] rest) (by omega)]
          dsimp only
          rw [printItems, List.nil_append, skipBlanks_newline]
          rfl
  | cons next items ih =>
      cases fuel with
      | zero => simp at enough
      | succ fuel =>
          rw [List.length_append] at enough
          rw [readItems, read_item inner fuel _ (ends_printItems inner outer _ rest) (by omega)]
          rw [printItems] at enough ⊢
          simp only [List.length_append, List.length_cons, List.cons_append] at enough
          have others := ih (read_items next List.mem_cons_self)
            (fun item listed => read_items item (List.mem_cons_of_mem _ listed)) fuel
            (by rw [List.length_append]; omega)
          rw [← readItems_newline fuel inner] at others
          simp only [List.cons_append, List.append_assoc] at others ⊢
          simp only [skipBlanks_comma, others, Option.map_some]

theorem reads_array {items : List Json} (printable : ∀ item ∈ items, Printable item)
    (each : ∀ item ∈ items, Reads item) : Reads (.array items) := by
  intro depth fuel rest _ enough
  cases items with
  | nil =>
      cases fuel with
      | zero => simp [printAt] at enough
      | succ fuel => rfl
  | cons item items =>
      cases fuel with
      | zero => simp [printAt] at enough
      | succ fuel =>
          have opens := opens_printAt (printable item List.mem_cons_self) (depth + 1)
            (printItems (depth + 1) items ++ newline depth ++ ']' :: rest)
          have read := readItems_print (each item List.mem_cons_self)
            (fun item listed => each item (List.mem_cons_of_mem _ listed)) (depth + 1) depth fuel
            rest (by simp [printAt, newline] at enough ⊢; omega)
          have array := readValue_bracket fuel (depth + 1) opens
          rw [read] at array
          simpa [printAt] using array

/-! ## Objects -/

theorem readValue_brace (fuel depth : Nat) {text : List Char} (opens : Opens text) :
    readValue (fuel + 1) ('\x7b' :: (newline depth ++ text)) =
      (readEntries fuel text).map fun (entries, rest) => (.object entries, rest) := by
  have skipped : skipBlanks (newline depth ++ text) = text := by
    rw [skipBlanks_newline, skipBlanks_of_opens opens]
  obtain ⟨c, others, rfl, -, -, -, -, -, closing⟩ := opens
  have brace : skipBlanks ('\x7b' :: (newline depth ++ c :: others)) =
      '\x7b' :: (newline depth ++ c :: others) := rfl
  rw [readValue, brace]
  simp only [skipped]
  split
  · next same => exact absurd (List.cons.inj same).1 closing
  · rfl

/-- The name of an entry is read, and then its value. -/
theorem readEntries_quote (fuel : Nat) (name : String) (text : List Char) :
    readEntries (fuel + 1) (quote name ++ ':' :: ' ' :: text) =
      match readValue fuel text with
      | none => none
      | some (value, rest) =>
        match skipBlanks rest with
        | '\x7d' :: rest => some ([(some name, value)], rest)
        | ',' :: rest =>
          (readEntries fuel rest).map fun (entries, rest) => ((some name, value) :: entries, rest)
        | _ => none := by
  have blank : readValue fuel (' ' :: text) = readValue fuel text := by
    cases fuel with
    | zero => rw [readValue, readValue]
    | succ fuel => rw [readValue, readValue]; rfl
  rw [readEntries, skipBlanks_of_opens (opens_quote name _)]
  simp only [quote, List.cons_append, List.append_assoc, List.nil_append, readString_quote]
  rw [← blank]
  rfl

theorem ends_printEntries (inner outer : Nat) (entries : List (Option String × Json))
    (rest : List Char) :
    Ends (printEntries inner entries ++ newline outer ++ '\x7d' :: rest) := by
  cases entries with
  | nil => simp [printEntries, newline, Ends, Char.isDigit]
  | cons entry entries => simp [printEntries, Ends, Char.isDigit]

theorem readEntries_print (name : String) {value : Json} {entries : List (Option String × Json)}
    (read_value : Reads value) (named : ∀ entry ∈ entries, entry.1.isSome)
    (read_entries : ∀ entry ∈ entries, Reads entry.2) (inner outer fuel : Nat) (rest : List Char)
    (enough : 2 * (printAt inner value ++ printEntries inner entries).length < fuel) :
    readEntries fuel (quote name ++ ':' :: ' ' :: (printAt inner value ++
        (printEntries inner entries ++ newline outer ++ '\x7d' :: rest))) =
      some ((some name, value) :: entries, rest) := by
  induction entries generalizing name value fuel with
  | nil =>
      cases fuel with
      | zero => simp at enough
      | succ fuel =>
          rw [List.length_append] at enough
          rw [readEntries_quote,
            read_value inner fuel _ (ends_printEntries inner outer [] rest) (by omega)]
          dsimp only
          rw [printEntries, List.nil_append, skipBlanks_newline]
          rfl
  | cons next entries ih =>
      cases fuel with
      | zero => simp at enough
      | succ fuel =>
          obtain ⟨next_name, next_value⟩ := next
          obtain ⟨next_name, rfl⟩ := Option.isSome_iff_exists.mp (named _ List.mem_cons_self)
          rw [List.length_append] at enough
          rw [readEntries_quote,
            read_value inner fuel _ (ends_printEntries inner outer _ rest) (by omega)]
          rw [printEntries] at enough ⊢
          simp only [List.length_append, List.length_cons, List.cons_append] at enough
          have others := ih next_name (read_entries (some next_name, next_value) List.mem_cons_self)
            (fun entry listed => named entry (List.mem_cons_of_mem _ listed))
            (fun entry listed => read_entries entry (List.mem_cons_of_mem _ listed)) fuel
            (by dsimp only at enough ⊢; rw [List.length_append]; omega)
          rw [← readEntries_newline fuel inner] at others
          simp only [Option.getD_some, List.cons_append, List.nil_append, List.append_assoc]
            at others ⊢
          simp only [skipBlanks_comma, others, Option.map_some]

theorem reads_object {entries : List (Option String × Json)}
    (named : ∀ entry ∈ entries, entry.1.isSome) (each : ∀ entry ∈ entries, Reads entry.2) :
    Reads (.object entries) := by
  intro depth fuel rest _ enough
  cases entries with
  | nil =>
      cases fuel with
      | zero => simp [printAt] at enough
      | succ fuel => rfl
  | cons entry entries =>
      cases fuel with
      | zero => simp [printAt] at enough
      | succ fuel =>
          obtain ⟨name, value⟩ := entry
          obtain ⟨name, rfl⟩ := Option.isSome_iff_exists.mp (named _ List.mem_cons_self)
          have read := readEntries_print name (each (some name, value) List.mem_cons_self)
            (fun entry listed => named entry (List.mem_cons_of_mem _ listed))
            (fun entry listed => each entry (List.mem_cons_of_mem _ listed)) (depth + 1) depth fuel
            rest (by simp [printAt, newline] at enough ⊢; omega)
          have object := readValue_brace fuel (depth + 1) (opens_quote name
            (':' :: ' ' :: (printAt (depth + 1) value ++
              (printEntries (depth + 1) entries ++ newline depth ++ '\x7d' :: rest))))
          rw [read] at object
          simpa [printAt] using object

/-! ## Any value -/

theorem reads_of_printable {value : Json} (printable : Printable value) : Reads value := by
  induction printable with
  | null => exact reads_null
  | bool value => exact reads_bool value
  | natural value => exact reads_natural value
  | text text => exact reads_text text
  | array each ih => exact reads_array each ih
  | object named _ ih => exact reads_object named ih

/-- Printing a value and reading the text gives the value. -/
theorem read?_print {value : Json} (printable : Printable value) :
    read? value.print = some value := by
  have ends : Ends [] := by simp [Ends]
  have read := reads_of_printable printable 0 (2 * (printAt 0 value).length + 2) [] ends (by omega)
  rw [List.append_nil] at read
  simp [read?, print, read, skipBlanks]

/-! ## Lists and records -/

@[simp]
theorem text?_ofString (text : String) : text? (.ofString text) = some text := rfl

@[simp]
theorem choice?_ofString (name : String) : choice? (.ofString name) = some name := rfl

@[simp]
theorem nullable?_ofString {α : Type} (read? : Json → Option α) (text : String) :
    nullable? read? (.ofString text) = (read? (.ofString text)).map some := rfl

/-- The items of a list are read back one by one. -/
theorem list?_map {α : Type} {read? : Json → Option α} {write : α → Json}
    (inverse : ∀ item, read? (write item) = some item) (items : List α) :
    list? read? (.array (items.map write)) = some items := by
  rw [list?]
  induction items with
  | nil => rfl
  | cons item items ih => rw [List.map_cons, List.mapM_cons, inverse, ih]; rfl

theorem printable_ofEntries {entries : List (String × Json)}
    (each : ∀ entry ∈ entries, Printable entry.2) : Printable (.ofEntries entries) := by
  refine .object (fun entry listed => ?_) fun entry listed => ?_
  · obtain ⟨_, _, rfl⟩ := List.mem_map.mp listed
    rfl
  · obtain ⟨_, written, rfl⟩ := List.mem_map.mp listed
    exact each _ written

theorem printable_array_map {α : Type} {write : α → Json} (each : ∀ item, Printable (write item))
    (items : List α) : Printable (.array (items.map write)) := by
  refine .array fun item listed => ?_
  obtain ⟨_, _, rfl⟩ := List.mem_map.mp listed
  exact each _

end Redirects.Json
