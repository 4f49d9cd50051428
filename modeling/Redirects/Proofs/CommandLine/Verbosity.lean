import Redirects.CommandLine.Arguments
import Redirects.Proofs.Files.Walk

/-!
# More words, asked for and seen early

Before a command line is read, its raw words are searched for the flag that asks for more words.
The search knows no option that takes a value, so what is attached to such an option counts as flags
to it: a value of letters can mislead it, and any other hides the flags in front of it.  Main
statement: apart from attached values the search sees what the reader counts, word by word up to two
lone hyphens (`early_verbosity_agrees_iff`).
-/

namespace Redirects.CommandLine

/-! ## Clusters of letters -/

/-- The options of all places. -/
def everyOption : List OptionForm :=
  globalOptions ++ versionOption :: CommandName.all.flatMap (·.options)

/-- The letters that take what is behind them for their value. -/
def valueLetters : List Char := (everyOption.filter Level.takesValue).filterMap (·.short)

/-- The letter takes what is behind it for its value. -/
def takesRest (letter : Char) : Bool := valueLetters.contains letter

/-- The flags of a word behind one hyphen, and what is attached to the letter behind them. -/
def cluster? (word : String) : Option (List Char × List Char) :=
  match word.toList with
  | '-' :: letter :: rest =>
    if letter = '-' then none
    else
      let letters := letter :: rest
      some (letters.takeWhile (!takesRest ·), (letters.dropWhile (!takesRest ·)).tail)
  | _ => none

/-- The word asks for more words where it is read as an option. -/
def counts (word : String) : Bool :=
  word == "--verbose" || (cluster? word).any fun (flags, _) => flags.contains 'v'

/-- The flag is not in the word, but an attached value of letters looks as if it were. -/
def misleads (word : String) : Bool :=
  (cluster? word).any fun (flags, value) =>
    !flags.contains 'v' && value.contains 'v' && value.all Char.isAlpha

/-- The flag is in the word, but an attached value that holds more than letters hides it. -/
def hides (word : String) : Bool :=
  (cluster? word).any fun (flags, value) => flags.contains 'v' && !value.all Char.isAlpha

theorem takesRest_iff {letter : Char} : takesRest letter = true ↔ letter = 'c' ∨ letter = 's' := by
  have letters_eq : valueLetters = ['c', 's'] := by decide
  simp [takesRest, letters_eq]

/-- What the options of a place have in common. -/
theorem option_of_mem {place : Place} {form : OptionForm} (listed : form ∈ place.options) :
    (∀ letter, form.short = some letter →
      letter.isAlpha = true ∧ takesRest letter = Level.takesValue form) ∧
      (form.action = .count ↔ form.short = some 'v') ∧
      (form.action = .count ↔ form.long = some "verbose") := by
  have options_alike : ∀ form ∈ place.options,
      (form.short.all fun letter =>
        letter.isAlpha && takesRest letter == Level.takesValue form) = true ∧
        (form.action = .count ↔ form.short = some 'v') ∧
        (form.action = .count ↔ form.long = some "verbose") := by
    rcases place with _ | _ | _ <;> decide
  obtain ⟨of_short, counted⟩ := options_alike form listed
  refine ⟨fun letter short_eq => ?_, counted⟩
  simpa [short_eq] using of_short

/-! ## What a level counts -/

namespace Level

variable {level after : Level} {form : OptionForm} {place : Place}

theorem verbose_settle (settled : level.settle = .ok after) : after.verbose = level.verbose := by
  rw [settle] at settled
  split at settled
  · obtain rfl := Except.ok.inj settled
    rfl
  · -- a positional argument waits
    split at settled
    · contradiction
    · obtain rfl := Except.ok.inj settled
      rfl
  · contradiction
  · -- an option waits with its value
    split at settled
    · contradiction
    · dsimp only at settled
      split at settled
      · split at settled
        · contradiction
        · obtain rfl := Except.ok.inj settled
          rfl
      · obtain rfl := Except.ok.inj settled
        rfl

theorem verbose_expect {attached : Option String}
    (expected : level.expect form attached = .ok after) : after.verbose = level.verbose := by
  obtain ⟨settled, settled_eq, expected⟩ := bind_ok_iff.mp expected
  rw [← verbose_settle settled_eq]
  dsimp only at expected
  split at expected
  · rw [verbose_settle expected]
  · obtain rfl := Except.ok.inj expected
    rfl

theorem verbose_plain {positions : List PositionForm} {word : String}
    (taken : level.plain positions word = .ok after) : after.verbose = level.verbose := by
  rw [plain] at taken
  split at taken
  · contradiction
  · obtain ⟨settled, settled_eq, taken⟩ := bind_ok_iff.mp taken
    obtain rfl := Except.ok.inj taken
    rw [← verbose_settle settled_eq]

/-- Only the counted option is counted. -/
theorem verbose_mark (marked : level.mark form = .ok after) :
    0 < after.verbose ↔ 0 < level.verbose ∨ form.action = .count := by
  obtain ⟨settled, settled_eq, marked⟩ := bind_ok_iff.mp marked
  rw [← verbose_settle settled_eq]
  split at marked
  · contradiction
  · contradiction
  · next counted =>
      obtain rfl := Except.ok.inj marked
      simp only [counted, or_true, iff_true]
      omega
  · next uncounted =>
      split at marked
      · contradiction
      · obtain rfl := Except.ok.inj marked
        exact (or_iff_left uncounted).symm

theorem verbose_take {onlyPlain : Bool} {word : String}
    (taken : level.take place onlyPlain word = .ok after) : after.verbose = level.verbose := by
  cases place with
  | front => contradiction
  | behind command => exact verbose_plain taken

/-- Letters count as far as they are flags, and these are letters of the alphabet. -/
theorem verbose_letters {letters : List Char}
    (read : level.letters place.options letters = .ok after) :
    (letters.takeWhile (!takesRest ·)).all Char.isAlpha = true ∧
      (0 < after.verbose ↔
        0 < level.verbose ∨ 'v' ∈ letters.takeWhile (!takesRest ·)) := by
  induction letters generalizing level with
  | nil =>
      obtain rfl := Except.ok.inj read
      simp
  | cons letter rest ih =>
      rw [Level.letters] at read
      split at read
      · contradiction
      · next form found =>
          have short_eq : form.short = some letter := by simpa using List.find?_some found
          obtain ⟨of_short, counted_iff, -⟩ := option_of_mem (List.mem_of_find?_eq_some found)
          obtain ⟨is_alpha, takes_eq⟩ := of_short letter short_eq
          split at read
          · next takes =>
              -- the flags end here
              have verbose_eq : after.verbose = level.verbose := by
                split at read <;> exact verbose_expect read
              simp [takes_eq, takes, verbose_eq]
          · next takes =>
              obtain ⟨next, marked, read⟩ := bind_ok_iff.mp read
              obtain ⟨rest_alpha, rest_iff⟩ := ih read
              have letter_iff : form.action = .count ↔ 'v' = letter := by
                rw [counted_iff, short_eq, Option.some.injEq, eq_comm]
              rw [rest_iff, verbose_mark marked, letter_iff]
              simp [takes_eq, takes, is_alpha, rest_alpha, or_assoc]

/-- Of the words behind two hyphens, one is counted. -/
theorem verbose_long {word : List Char} (read : level.long place.options word = .ok after) :
    0 < after.verbose ↔ 0 < level.verbose ∨ word = "verbose".toList := by
  rw [Level.long] at read
  split at read
  · contradiction
  · next form found =>
      have long_eq : form.long = some (String.ofList (word.takeWhile (· != '='))) := by
        simpa using List.find?_some found
      obtain ⟨-, -, counted_iff⟩ := option_of_mem (List.mem_of_find?_eq_some found)
      split at read
      · next takes =>
          have word_ne : word ≠ "verbose".toList := by
            rintro rfl
            have counted : form.action = .count := counted_iff.mpr (long_eq.trans (by decide))
            simp [takesValue, counted] at takes
          rw [verbose_expect read, or_iff_left word_ne]
      · split at read
        · next same_length =>
            -- without an attached value the whole word is the name
            have name_eq := (List.takeWhile_prefix (· != '=')).eq_of_length same_length
            have marked : level.mark form = .ok after := read
            rw [verbose_mark marked, counted_iff, long_eq, name_eq, Option.some.injEq,
              ← String.toList_inj, String.toList_ofList]
        · contradiction

end Level

/-! ## What is read word by word -/

variable {place : Place} {level after : Level} {word : String} {words : List String}
  {command : Option (CommandName × List String)}

/-- The flags of the word are letters of the alphabet. -/
def Sound (word : String) : Prop :=
  ∀ flags value, cluster? word = some (flags, value) → flags.all Char.isAlpha = true

/-- The word is read: it counts as it should, and its flags are letters. -/
structure Reads (word : String) (level after : Level) : Prop where
  sound : Sound word
  verbose_pos : 0 < after.verbose ↔ 0 < level.verbose ∨ counts word = true

namespace Reads

theorem of_no_cluster (no_cluster : cluster? word = none)
    (verbose_pos : 0 < after.verbose ↔ 0 < level.verbose ∨ word = "--verbose") :
    Reads word level after := by
  refine ⟨fun flags value cluster => ?_, ?_⟩
  · rw [no_cluster] at cluster
    contradiction
  · simpa [counts, no_cluster] using verbose_pos

theorem of_long {name : List Char} (word_eq : word.toList = '-' :: '-' :: name)
    (read : level.long place.options name = .ok after) : Reads word level after := by
  refine of_no_cluster (by simp [cluster?, word_eq]) ?_
  rw [Level.verbose_long read, ← String.toList_inj, word_eq]
  simp

theorem of_letters {letter : Char} {rest : List Char}
    (word_eq : word.toList = '-' :: letter :: rest) (letter_ne : letter ≠ '-')
    (read : level.letters place.options (letter :: rest) = .ok after) :
    Reads word level after := by
  have cluster_eq : cluster? word = some ((letter :: rest).takeWhile (!takesRest ·),
      ((letter :: rest).dropWhile (!takesRest ·)).tail) := by
    simp [cluster?, word_eq, letter_ne]
  have word_ne : word ≠ "--verbose" := by
    rintro rfl
    simp [letter_ne.symm] at word_eq
  obtain ⟨flags_alpha, verbose_pos⟩ := Level.verbose_letters read
  refine ⟨fun flags value cluster => ?_, ?_⟩
  · rw [cluster_eq] at cluster
    obtain ⟨rfl, -⟩ := Prod.mk.inj (Option.some.inj cluster)
    exact flags_alpha
  · simpa [counts, cluster_eq, word_ne] using verbose_pos

/-- A value or a positional argument counts nothing. -/
theorem of_plain (plain : ∀ letter rest, word.toList ≠ '-' :: letter :: rest)
    (same : after.verbose = level.verbose) : Reads word level after := by
  have word_ne : word ≠ "--verbose" := by
    rintro rfl
    exact plain _ _ rfl
  refine of_no_cluster ?_ (by simp [same, word_ne])
  rw [cluster?]
  split
  · next letter rest word_eq => exact absurd word_eq (plain letter rest)
  · rfl

end Reads

/-- What comes first is a command, two lone hyphens, or a word that is read. -/
theorem readWords_cons (read : readWords place false level (word :: words) = .ok (after, command)) :
    (place = .front ∧ ∃ name, CommandName.ofWord? word = some name ∧ after = level ∧
        command = some (name, words)) ∨
      (word = "--" ∧ readWords place true level words = .ok (after, command)) ∨
      word ≠ "--" ∧ ∃ next, Reads word level next ∧
        readWords place false next words = .ok (after, command) := by
  rw [readWords] at read
  simp only [Bool.false_eq_true, if_false] at read
  split at read
  · next name is_command =>
      obtain ⟨rfl, rfl⟩ := Prod.mk.inj (Except.ok.inj read)
      split at is_command
      · next in_front =>
          simp only [Bool.and_eq_true, decide_eq_true_eq] at in_front
          exact .inl ⟨in_front.1, name, is_command, rfl, rfl⟩
      · contradiction
  · split at read
    · contradiction
    · split at read
      · next word_eq => exact .inr (.inl ⟨String.toList_inj.mp word_eq, read⟩)
      · next name name_ne word_eq =>
          obtain ⟨next, next_eq, read⟩ := bind_ok_iff.mp read
          refine .inr (.inr ⟨?_, next, .of_long word_eq next_eq, read⟩)
          rintro rfl
          exact name_ne (by simpa using word_eq.symm)
      · next letter rest _ letter_ne word_eq =>
          obtain ⟨next, next_eq, read⟩ := bind_ok_iff.mp read
          refine .inr (.inr ⟨?_, next, .of_letters word_eq letter_ne next_eq, read⟩)
          rintro rfl
          exact letter_ne (List.cons.inj (List.cons.inj word_eq).2).1.symm
      · next word_ne _ plain =>
          refine .inr (.inr ⟨?_, ?_⟩)
          · rintro rfl
            exact word_ne rfl
          · split at read
            · refine ⟨_, .of_plain plain ?_, read⟩
              rfl
            · obtain ⟨next, next_eq, read⟩ := bind_ok_iff.mp read
              exact ⟨next, .of_plain plain (Level.verbose_take next_eq), read⟩

/-- Behind two lone hyphens nothing counts, and no command is found. -/
theorem readWords_plain (read : readWords place true level words = .ok (after, command)) :
    after.verbose = level.verbose ∧ command = none := by
  induction words generalizing level with
  | nil =>
      obtain ⟨rfl, rfl⟩ := Prod.mk.inj (Except.ok.inj read)
      exact ⟨rfl, rfl⟩
  | cons word words ih =>
      rw [readWords, if_pos rfl] at read
      obtain ⟨next, taken, read⟩ := bind_ok_iff.mp read
      rw [← Level.verbose_take taken]
      exact ih read

/-- The words in front of two lone hyphens. -/
def optionWords (words : List String) : List String := words.takeWhile (· != "--")

/-- The words of a level are read up to two lone hyphens, or up to a command. -/
theorem readWords_reads (read : readWords place false level words = .ok (after, command)) :
    ∃ front, (∀ word ∈ front, Sound word) ∧
      (0 < after.verbose ↔ 0 < level.verbose ∨ ∃ word ∈ front, counts word = true) ∧
      match command with
      | none => optionWords words = front
      | some (name, rest) =>
        place = .front ∧ optionWords words = front ++ name.word :: optionWords rest := by
  induction words generalizing level with
  | nil =>
      obtain ⟨rfl, rfl⟩ := Prod.mk.inj (Except.ok.inj read)
      exact ⟨[], by simp, by simp, rfl⟩
  | cons word words ih =>
      rcases readWords_cons read with
        ⟨in_front, name, is_command, rfl, rfl⟩ | ⟨rfl, plain⟩ | ⟨word_ne, next, reads, rest_read⟩
      · have word_eq : name.word = word := by simpa using List.find?_some is_command
        have word_ne : word ≠ "--" := by
          rw [← word_eq]
          cases name <;> decide
        exact ⟨[], by simp, by simp, in_front, by simp [optionWords, word_eq, word_ne]⟩
      · obtain ⟨verbose_eq, rfl⟩ := readWords_plain plain
        exact ⟨[], by simp, by simp [verbose_eq], rfl⟩
      · obtain ⟨front, sound, verbose_pos, words_eq⟩ := ih rest_read
        refine ⟨word :: front, List.forall_mem_cons.mpr ⟨reads.sound, sound⟩, ?_, ?_⟩
        · rw [verbose_pos, reads.verbose_pos, or_assoc]
          simp only [List.mem_cons, exists_eq_or_imp]
        · cases command with
          | none => simpa [optionWords, word_ne] using words_eq
          | some ending => simpa [optionWords, word_ne] using words_eq

theorem readBehind_reads {environment : Environment} {name : CommandName} {asked : Command}
    (read : readBehind environment name words = .ok (level, asked)) :
    (∀ word ∈ optionWords words, Sound word) ∧
      (0 < level.verbose ↔ ∃ word ∈ optionWords words, counts word = true) := by
  obtain ⟨⟨unsettled, command⟩, words_read, read⟩ := bind_ok_iff.mp read
  obtain ⟨settled, settled_eq, read⟩ := bind_ok_iff.mp read
  have level_eq : level = settled := by
    split_ifs at read
    split at read
    · exact (Prod.mk.inj (Except.ok.inj read)).1.symm
    · contradiction
  obtain ⟨front, sound, verbose_pos, words_eq⟩ := readWords_reads words_read
  cases command with
  | none =>
      rw [words_eq, level_eq, Level.verbose_settle settled_eq, verbose_pos]
      exact ⟨sound, by simp⟩
  | some ending => exact absurd words_eq.1 (by simp)

theorem sound_word (name : CommandName) : Sound name.word ∧ counts name.word = false := by
  have no_cluster : cluster? name.word = none := by cases name <;> decide
  refine ⟨fun flags value cluster => ?_, by cases name <;> decide⟩
  rw [no_cluster] at cluster
  contradiction

/-- Of a command line that is read, the words in front of two lone hyphens are sound, and they
decide whether more words are asked for. -/
theorem parse_reads {environment : Environment} {arguments : Arguments}
    (parsed : parse environment words = .ok arguments) :
    (∀ word ∈ optionWords words, Sound word) ∧
      (0 < arguments.verbose ↔ ∃ word ∈ optionWords words, counts word = true) := by
  obtain ⟨⟨unsettled, _ | ⟨name, rest⟩⟩, front_read, parsed⟩ := bind_ok_iff.mp parsed
  · obtain ⟨settled, -, parsed⟩ := bind_ok_iff.mp parsed
    split_ifs at parsed
  · obtain ⟨⟨behind, command⟩, behind_read, parsed⟩ := bind_ok_iff.mp parsed
    obtain ⟨settled, settled_eq, parsed⟩ := bind_ok_iff.mp parsed
    split at parsed
    · contradiction
    obtain rfl := Except.ok.inj parsed
    obtain ⟨front, front_sound, front_pos, -, words_eq⟩ := readWords_reads front_read
    obtain ⟨behind_sound, behind_pos⟩ := readBehind_reads behind_read
    obtain ⟨name_sound, name_plain⟩ := sound_word name
    have verbose_pos : 0 < (if behind.verbose = 0 then settled.verbose else behind.verbose) ↔
        0 < unsettled.verbose ∨ 0 < behind.verbose := by
      rw [Level.verbose_settle settled_eq]
      split <;> omega
    rw [words_eq]
    constructor
    · simp only [List.mem_append, List.mem_cons]
      rintro word (in_front | rfl | in_behind)
      · exact front_sound word in_front
      · exact name_sound
      · exact behind_sound word in_behind
    · refine verbose_pos.trans ?_
      rw [front_pos, behind_pos]
      simp [List.mem_append, or_and_right, exists_or, name_plain]

/-! ## What the words show before they are read -/

/-- The word shows that more words are asked for. -/
def shows (word : String) : Bool :=
  word == "--verbose" || (flagLetters? word).any (·.contains 'v')

theorem asksForMore_eq (words : List String) :
    asksForMore words = (optionWords words).any shows := by
  induction words with
  | nil => rfl
  | cons word words ih =>
      rw [asksForMore, ih]
      by_cases dashes : word = "--"
      · simp [dashes, optionWords]
      · by_cases long : word = "--verbose"
        · simp [long, shows, optionWords]
        · simp [dashes, long, beq_false_of_ne long, shows, optionWords]

theorem exists_of_cluster? {flags value : List Char}
    (cluster : cluster? word = some (flags, value)) :
    ∃ back, word.toList = '-' :: (flags ++ back) ∧ flags ++ back ≠ [] ∧
      (back = [] ∧ value = [] ∨ ∃ taker, takesRest taker = true ∧ back = taker :: value) := by
  rw [cluster?] at cluster
  split at cluster
  · next letter rest word_eq =>
      split at cluster
      · contradiction
      · obtain ⟨rfl, rfl⟩ := Prod.mk.inj (Option.some.inj cluster)
        refine ⟨(letter :: rest).dropWhile (!takesRest ·), ?_, ?_, ?_⟩
        · rw [List.takeWhile_append_dropWhile, word_eq]
        · simp [List.takeWhile_append_dropWhile]
        · cases back_eq : (letter :: rest).dropWhile (!takesRest ·) with
          | nil => exact .inl ⟨rfl, rfl⟩
          | cons taker value =>
              have stopped := List.head?_dropWhile_not (!takesRest ·) (letter :: rest)
              rw [back_eq] at stopped
              exact .inr ⟨taker, by simpa using stopped, rfl⟩
  · contradiction

example : cluster? "-qvcx.toml" = some (['q', 'v'], "x.toml".toList) := by decide

theorem flagLetters?_of_no_cluster (no_cluster : cluster? word = none) :
    flagLetters? word = none := by
  rw [flagLetters?]
  split
  · next letters word_eq =>
      cases letters with
      | nil => rfl
      | cons letter rest =>
          obtain rfl : letter = '-' := by simpa [cluster?, word_eq] using no_cluster
          rfl
  · rfl

/-- A sound word shows what it counts, unless an attached value hides it, or misleads. -/
theorem Sound.shows_eq (sound : Sound word) :
    shows word = (counts word && !hides word || misleads word) := by
  by_cases long : word = "--verbose"
  · subst long
    decide
  · cases cluster : cluster? word with
    | none => simp [shows, counts, misleads, long, cluster, flagLetters?_of_no_cluster cluster]
    | some found =>
        obtain ⟨flags, value⟩ := found
        have flags_alpha := sound flags value cluster
        obtain ⟨back, word_eq, letters_ne, back_eq⟩ := exists_of_cluster? cluster
        have shows_eq : shows word =
            ((flags ++ back).all Char.isAlpha && (flags ++ back).contains 'v') := by
          cases all_alpha : (flags ++ back).all Char.isAlpha <;>
            simp [shows, flagLetters?, long, word_eq, letters_ne, all_alpha]
        rw [shows_eq, List.all_append, flags_alpha]
        rcases back_eq with ⟨rfl, rfl⟩ | ⟨taker, takes, rfl⟩
        · simp [counts, hides, misleads, cluster, beq_false_of_ne long]
        · -- the letter that takes the value is a letter of the alphabet, and none of those sought
          have taker_eq : taker.isAlpha = true ∧ ('v' == taker) = false := by
            rcases takesRest_iff.mp takes with rfl | rfl <;> decide
          have contains_eq : (flags ++ taker :: value).contains 'v' =
              (flags.contains 'v' || value.contains 'v') := by
            rw [List.contains_eq_any_beq, List.any_append, List.any_cons, taker_eq.2,
              Bool.false_or, ← List.contains_eq_any_beq, ← List.contains_eq_any_beq]
          rw [contains_eq, List.all_cons, taker_eq.1]
          simp only [counts, hides, misleads, cluster, beq_false_of_ne long, Option.any_some]
          cases flags.contains 'v' <;> cases value.contains 'v' <;>
            cases value.all Char.isAlpha <;> rfl

theorem counts_of_hides (hidden : hides word = true) : counts word = true := by
  cases cluster : cluster? word with
  | none => simp [hides, cluster] at hidden
  | some found =>
      obtain ⟨flags, value⟩ := found
      simp only [hides, cluster, Option.any_some, Bool.and_eq_true] at hidden
      simp only [counts, cluster, Option.any_some, hidden.1, Bool.or_true]

/-- A command line that is read asks for more words where a word in front of two lone hyphens
counts.  Before it is read, it shows this where a word counts whose flags are not hidden by what is
attached to them, or where what is attached misleads.  So the early judgement is that of the reader
exactly if, where an attached value misleads, more words are asked for as well, and, where one hides
flags, they are shown elsewhere. -/
theorem early_verbosity_agrees_iff {environment : Environment} {arguments : Arguments}
    (parsed : parse environment words = .ok arguments) :
    (0 < arguments.verbose ↔ ∃ word ∈ optionWords words, counts word = true) ∧
      (asksForMore words = true ↔ ∃ word ∈ optionWords words,
        counts word = true ∧ hides word = false ∨ misleads word = true) ∧
      ((asksForMore words = true ↔ 0 < arguments.verbose) ↔
        ((∃ word ∈ optionWords words, misleads word = true) →
          ∃ word ∈ optionWords words, counts word = true) ∧
        ((∃ word ∈ optionWords words, hides word = true) →
          ∃ word ∈ optionWords words,
            counts word = true ∧ hides word = false ∨ misleads word = true)) := by
  obtain ⟨sound, verbose_pos⟩ := parse_reads parsed
  have shown : asksForMore words = true ↔ ∃ word ∈ optionWords words,
      counts word = true ∧ hides word = false ∨ misleads word = true := by
    rw [asksForMore_eq, List.any_eq_true]
    refine exists_congr fun word => and_congr_right fun word_mem => ?_
    simp [(sound word word_mem).shows_eq]
  refine ⟨verbose_pos, shown, ?_⟩
  rw [shown, verbose_pos]
  constructor
  · rintro ⟨counted, seen⟩
    refine ⟨fun ⟨word, word_mem, misled⟩ => counted ⟨word, word_mem, .inr misled⟩, ?_⟩
    exact fun ⟨word, word_mem, hidden⟩ => seen ⟨word, word_mem, counts_of_hides hidden⟩
  · rintro ⟨counted, seen⟩
    constructor
    · rintro ⟨word, word_mem, ⟨counts, -⟩ | misled⟩
      · exact ⟨word, word_mem, counts⟩
      · exact counted ⟨word, word_mem, misled⟩
    · rintro ⟨word, word_mem, counts⟩
      cases hidden : hides word with
      | false => exact ⟨word, word_mem, .inl ⟨counts, hidden⟩⟩
      | true => exact seen ⟨word, word_mem, hidden⟩

/-- The value `v` misleads, and `x.toml` hides the flag in front of it. -/
theorem early_verbosity_agrees_iff_attached :
    let misled : Arguments := ⟨.list none, none, none, "v", 0, false⟩
    let hidden : Arguments := ⟨.list none, none, none, "x.toml", 1, false⟩
    (parse [] ["-cv", "list"] = .ok misled ∧
      ¬(asksForMore ["-cv", "list"] = true ↔ 0 < misled.verbose)) ∧
    parse [] ["-vcx.toml", "list"] = .ok hidden ∧
      ¬(asksForMore ["-vcx.toml", "list"] = true ↔ 0 < hidden.verbose) := by
  intro misled hidden
  have misled_parsed : parse [] ["-cv", "list"] = .ok misled := by decide +kernel
  have hidden_parsed : parse [] ["-vcx.toml", "list"] = .ok hidden := by decide +kernel
  refine ⟨⟨misled_parsed, ?_⟩, hidden_parsed, ?_⟩
  · rw [(early_verbosity_agrees_iff misled_parsed).2.2]
    decide
  · rw [(early_verbosity_agrees_iff hidden_parsed).2.2]
    decide

end Redirects.CommandLine
