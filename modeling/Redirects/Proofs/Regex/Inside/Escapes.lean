import Redirects.Proofs.Regex.Inside.Counts

/-!
# Escapes and brackets inside a longer pattern

References, escapes and brackets are read alike in a longer pattern, which begins behind them with a
slash: no name, number or digit of theirs goes on with one.
-/

namespace Redirects.Regex.Reader

variable {shift : Nat} {tail : List Char}

section Tail

variable (harmless : Harmless tail)
include harmless

/-! ## References -/

/-- A number refers to the same group; a longer pattern only lets greater numbers pass. -/
theorem alike_numberedReference (cursor : Cursor) :
    Alike shift tail cursor numberedReference numberedReference := by
  rw [numberedReference]
  apply Alike.get
  have number_eq : decimal? (cursor.within shift tail).rest = _ :=
    decimal?_append harmless cursor.rest
  rw [number_eq]
  cases found : decimal? cursor.rest with
  | none => exact .fail _ _
  | some result =>
      obtain ⟨number, rest⟩ := result
      simp only [Option.map_some]
      split
      · have wider : number < ((cursor.within shift tail).position +
            Text.byteLength (cursor.within shift tail).rest) / 2 := by
          simp only [Cursor.within, Text.byteLength_append]
          omega
        rw [if_pos wider]
        rintro _ _ ⟨⟩
        refine ⟨decimal?_onward found cursor.position, ?_⟩
        have digits_eq : (cursor.rest ++ tail).length - (rest ++ tail).length =
            cursor.rest.length - rest.length := by
          simp only [List.length_append, Nat.add_sub_add_right]
        simp only [Cursor.within, digits_eq, Nat.add_right_comm _ shift]
        rfl
      · exact .fail _ _

omit harmless in
theorem eq_append_of_isPrefixOf {front text : List Char}
    (stands : ¬(!front.isPrefixOf text) = true) : text = front ++ text.drop front.length := by
  have is_front : front <+: text := by simpa using stands
  exact (List.prefix_iff_eq_append.mp is_front).symm

/-- The name at the front of a text. -/
def frontName (relative : Bool) (text : List Char) : List Char :=
  if relative && text.head? == some '-' then '-' :: (text.drop 1).takeWhile Char.isDigit
  else text.takeWhile isNameChar

omit harmless in
theorem isPrefix_frontName (relative : Bool) (text : List Char) :
    frontName relative text <+: text := by
  rw [frontName]
  split
  · cases text with
    | nil => simp at *
    | cons c text =>
        rename_i signed
        obtain rfl : c = '-' := by simpa using (Bool.and_eq_true_iff.mp signed).2
        exact List.cons_prefix_cons.mpr ⟨rfl, List.takeWhile_prefix _⟩
  · exact List.takeWhile_prefix _

theorem frontName_append (relative : Bool) (text : List Char) :
    frontName relative (text ++ tail) = frontName relative text := by
  have digit_stops : Char.isDigit '/' = false := by decide
  have name_stops : isNameChar '/' = false := by decide +kernel
  have names_eq := harmless.takeWhile_append name_stops text
  rw [frontName, frontName, harmless.head?_append_beq text (by decide), names_eq]
  cases text with
  | nil => simp
  | cons c text =>
      rw [List.cons_append, List.drop_one, List.drop_one, List.tail_cons, List.tail_cons,
        harmless.takeWhile_append digit_stops]

theorem delimitedName?_append (opening closing : List Char) (relative : Bool)
    {text name rest : List Char}
    (named : delimitedName? opening closing relative text = some (name, rest)) :
    text = opening ++ name ++ closing ++ rest ∧
      delimitedName? opening closing relative (text ++ tail) = some (name, rest ++ tail) := by
  have unfolded (text : List Char) : delimitedName? opening closing relative text =
      if !opening.isPrefixOf text then none
      else
        let text := text.drop opening.length
        let name := frontName relative text
        let rest := text.drop name.length
        if name.isEmpty || !closing.isPrefixOf rest then none
        else some (name, rest.drop closing.length) := rfl
  rw [unfolded] at named
  split at named
  · contradiction
  · rename_i opened
    have text_eq := eq_append_of_isPrefixOf opened
    generalize text.drop opening.length = more at named text_eq
    subst text_eq
    dsimp only at named
    split at named
    · contradiction
    · rename_i closed
      simp only [Bool.or_eq_true, not_or] at closed
      cases named
      have more_eq := List.prefix_iff_eq_append.mp (isPrefix_frontName relative more)
      have rest_eq := eq_append_of_isPrefixOf closed.2
      have whole : frontName relative more ++ (closing ++
          (more.drop (frontName relative more).length).drop closing.length) = more := by
        rw [← rest_eq, more_eq]
      have same_name := frontName_append harmless relative more
      generalize (more.drop (frontName relative more).length).drop closing.length = rest at whole
      generalize frontName relative more = name at closed whole same_name
      subst whole
      refine ⟨by simp only [List.append_assoc], ?_⟩
      simp only [List.append_assoc] at same_name
      rw [unfolded]
      simp [same_name, closed.1]

theorem alike_namedReference (opening closing : List Char) (relative : Bool) (cursor : Cursor) :
    Alike shift tail cursor (namedReference opening closing relative)
      (namedReference opening closing relative) := by
  rw [namedReference]
  apply Alike.get
  cases named : delimitedName? opening closing relative cursor.rest with
  | none => exact .fail _ _
  | some found =>
      obtain ⟨name, rest⟩ := found
      obtain ⟨text_eq, inside_eq⟩ := delimitedName?_append harmless opening closing relative named
      have inside_eq : delimitedName? opening closing relative (cursor.within shift tail).rest = _ :=
        inside_eq
      have group_eq : groupNamed? (cursor.within shift tail) name = groupNamed? cursor name := rfl
      have taken_eq : (cursor.within shift tail).rest.length - (rest ++ tail).length =
          cursor.rest.length - rest.length := by
        simp only [Cursor.within, List.length_append, Nat.add_sub_add_right]
      rw [inside_eq]
      dsimp only
      rw [group_eq, taken_eq]
      cases groupNamed? cursor name with
      | none => exact .fail _ _
      | some number => exact .bind (.skip (Nat.sub_le _ _)) fun _ _ _ => .pure _

/-! ## Escapes -/

/-- A digit of a hexadecimal escape. -/
def isHex (c : Char) : Bool := (Text.hexDigit? c).isSome

/-- The character with a number, behind the digits that write it. -/
def hexEnd (digits : List Char) (taken : Nat) : Reader Escaped := do
  let value := (Text.ofHex? digits).getD 0
  if value.isValidChar then
    let flags ← flags
    skip taken
    return .char flags.fold (Char.ofNat value)
  else fail .badCodepoint

/-- The digits of a hexadecimal escape, and how many characters write them. -/
def hexDigits? (count : Nat) (text : List Char) : Option (List Char × Nat) :=
  let plain := text.take count
  let braced := (text.drop 1).takeWhile isHex
  if plain.length == count && plain.all isHex then some (plain, count)
  else if text.head? == some '\x7b' && !braced.isEmpty && braced.length ≤ 8 &&
      text[braced.length + 1]? == some '\x7d' then some (braced, braced.length + 2)
  else none

omit harmless in
theorem hexChar_eq (count : Nat) : hexChar count = (do
    let text ← left
    match hexDigits? count text with
    | some (digits, taken) => hexEnd digits taken
    | none => fail .badHex) := by
  funext cursor
  let plain := cursor.rest.take count
  let braced := (cursor.rest.drop 1).takeWhile isHex
  change (if plain.length == count && plain.all isHex then hexEnd plain count
    else if cursor.rest.head? == some '\x7b' && !braced.isEmpty && braced.length ≤ 8 &&
      cursor.rest[braced.length + 1]? == some '\x7d' then hexEnd braced (braced.length + 2)
    else fail .badHex) cursor = (match hexDigits? count cursor.rest with
      | some (digits, taken) => hexEnd digits taken
      | none => fail .badHex) cursor
  rw [hexDigits?]
  dsimp only [plain, braced]
  split
  · rfl
  · split <;> rfl

theorem getElem?_append_beq {text : List Char} {index : Nat} (index_le : index ≤ text.length)
    {c : Char} (not_slash : c ≠ '/') :
    ((text ++ tail)[index]? == some c) = (text[index]? == some c) := by
  have dropped := harmless.head?_append_beq (text.drop index) not_slash
  rwa [← List.drop_append_of_le_length index_le, List.head?_drop, List.head?_drop] at dropped

theorem hexDigits?_append (count : Nat) (text : List Char) :
    hexDigits? count (text ++ tail) = hexDigits? count text := by
  have slash_stops : isHex '/' = false := by decide
  have plain_eq : (((text ++ tail).take count).length == count &&
        ((text ++ tail).take count).all isHex) =
      ((text.take count).length == count && (text.take count).all isHex) := by
    by_cases enough : count ≤ text.length
    · rw [List.take_append_of_le_length enough]
    · -- too few characters are left, and the slash is no digit
      have few : ((text.take count).length == count) = false := by simp; omega
      cases tail with
      | nil => simp
      | cons c tail =>
          obtain rfl := harmless.slash_of_head c rfl
          have slash_mem : '/' ∈ (text ++ '/' :: tail).take count := by
            rw [List.take_append, List.mem_append, List.take_cons (by omega)]
            exact .inr List.mem_cons_self
          have refused : ((text ++ '/' :: tail).take count).all isHex = false :=
            List.all_eq_false.mpr ⟨'/', slash_mem, by simp [slash_stops]⟩
          rw [few, refused, Bool.and_false, Bool.false_and]
  rw [hexDigits?, hexDigits?, plain_eq]
  split
  · rename_i plain
    have enough : count ≤ text.length := by
      simp at plain
      omega
    rw [List.take_append_of_le_length enough]
  · cases text with
    | nil =>
        have absent := harmless.head?_append_beq [] (c := '\x7b') (by decide)
        rw [List.nil_append] at absent
        simp [absent]
    | cons c text =>
        have braced_le : ((text.takeWhile isHex).length + 1) ≤ (c :: text).length :=
          Nat.succ_le_succ (List.takeWhile_prefix _).length_le
        rw [List.cons_append, List.drop_one, List.drop_one, List.tail_cons, List.tail_cons,
          harmless.takeWhile_append slash_stops, ← List.cons_append,
          getElem?_append_beq harmless braced_le (by decide)]
        rfl

omit harmless in
theorem hexDigits?_le {count taken : Nat} {text digits : List Char}
    (found : hexDigits? count text = some (digits, taken)) : taken ≤ text.length := by
  unfold hexDigits? at found
  dsimp only at found
  split at found
  · cases found
    rename_i plain
    simp at plain
    omega
  · split at found
    · cases found
      rename_i braced
      simp only [Bool.and_eq_true, beq_iff_eq] at braced
      have inside := (List.getElem?_eq_some_iff.mp braced.2).1
      omega
    · contradiction

theorem alike_hexChar (count : Nat) (cursor : Cursor) :
    Alike shift tail cursor (hexChar count) (hexChar count) := by
  rw [hexChar_eq]
  apply Alike.left
  rw [hexDigits?_append harmless]
  cases found : hexDigits? count cursor.rest with
  | none => exact .fail _ _
  | some result =>
      obtain ⟨digits, taken⟩ := result
      simp only [hexEnd]
      split
      · exact .flags (.bind (.skip (hexDigits?_le found)) fun _ _ _ => .pure _)
      · exact .fail _ _

omit harmless in
theorem alike_propertySet {start other : Nat} (negated : Bool) (cursor : Cursor) :
    Alike shift tail cursor (propertySet start negated) (propertySet other negated) := by
  rw [propertySet, propertySet]
  apply Alike.flags
  apply Alike.left
  cases rest_eq : cursor.rest with
  | nil => exact .failAt _ _ _
  | cons c rest =>
      by_cases brace : c = '\x7b'
      · subst brace
        by_cases unclosed : (rest.takeWhile (· != '\x7d')).length = rest.length
        · simp only [unclosed, beq_self_eq_true, if_true]
          exact .failAt _ _ _
        · have name_le : (rest.takeWhile (· != '\x7d')).length ≤ rest.length :=
            (List.takeWhile_prefix _).length_le
          have name_eq : (rest ++ tail).takeWhile (· != '\x7d') = rest.takeWhile (· != '\x7d') := by
            rw [List.takeWhile_append, if_neg unclosed]
          have still_unclosed :
              (rest.takeWhile (· != '\x7d')).length ≠ (rest ++ tail).length := by
            rw [List.length_append]
            omega
          simp only [List.cons_append, name_eq, beq_eq_false_iff_ne.mpr unclosed,
            beq_eq_false_iff_ne.mpr still_unclosed, Bool.false_eq_true, if_false]
          refine .bind (.skip ?_) fun _ _ _ => .pure _
          rw [rest_eq, List.length_cons]
          omega
      · simp only [List.cons_append]
        refine .bind (.skip ?_) fun _ _ _ => .pure _
        rw [rest_eq, List.length_cons]
        omega

/-- An escape reads alike, as its backslash is never the last character. -/
theorem alike_escape (inBracket : Bool) (cursor : Cursor) :
    Alike shift tail cursor (escape inBracket) (escape inBracket) := by
  rw [escape]
  apply Alike.position
  apply Alike.left
  rcases rest_eq : cursor.rest with _ | ⟨q, _ | ⟨c, rest⟩⟩
  · exact .failAt _ _ _
  · exact .failAt _ _ _
  have one_left : 1 ≤ cursor.rest.length := by simp [rest_eq]
  have two_left : 2 ≤ cursor.rest.length := by simp [rest_eq]
  simp only [List.cons_append, List.drop_one, List.tail_cons]
  refine .ite (fun _ => ?_) fun _ => ?_
  · exact .bind (.skip one_left) fun _ _ _ =>
      .bind (alike_numberedReference harmless _) fun _ _ _ => .pure _
  rw [harmless.head?_append_beq rest (by decide)]
  refine .ite (fun _ => ?_) fun _ => ?_
  · refine .bind (.skip two_left) fun _ _ _ => .ite (fun _ => ?_) fun _ => ?_
    · exact .bind (alike_namedReference harmless _ _ _ _) fun _ _ _ => .pure _
    · exact .bind (alike_namedReference harmless _ _ _ _) fun _ _ _ => .pure _
  rw [harmless.head?_append_beq rest (by decide)]
  refine .ite (fun _ => .failAt _ _ _) fun _ => ?_
  split
  · exact .bind (.skip two_left) fun _ _ _ => .pure _
  split
  · exact .bind (.skip two_left) fun _ _ _ => .pure _
  refine .ite (fun _ => ?_) fun _ => ?_
  · exact .bind (.skip two_left) fun _ _ _ => alike_hexChar harmless 2 _
  refine .ite (fun _ => ?_) fun _ => ?_
  · exact .bind (.skip two_left) fun _ _ _ => alike_hexChar harmless 4 _
  refine .ite (fun _ => ?_) fun _ => ?_
  · exact .bind (.skip two_left) fun _ _ _ => alike_hexChar harmless 8 _
  by_cases bare : (c == 'p' || c == 'P') = true ∧ rest = []
  · -- a property needs its name, so the pattern alone is at fault
    obtain ⟨letter, rfl⟩ := bare
    simp only [Bool.or_eq_true, beq_iff_eq] at letter
    rcases letter with rfl | rfl
    · cases inBracket <;> exact .failAt _ _ _
    · cases inBracket <;> exact .failAt _ _ _
  · have named_eq : ((c == 'p' || c == 'P') && !(rest ++ tail).isEmpty) =
        ((c == 'p' || c == 'P') && !rest.isEmpty) := by
      cases letter : c == 'p' || c == 'P' with
      | false => rfl
      | true =>
          cases rest with
          | nil => exact absurd ⟨letter, rfl⟩ bare
          | cons d rest => rfl
    rw [named_eq]
    refine .ite (fun _ => ?_) fun _ => ?_
    · exact .bind (.skip two_left) fun _ _ _ => alike_propertySet _ _
    split
    · exact .bind (.skip two_left) fun _ _ _ => .pure _
    · exact .ite (fun _ => .failAt _ _ _) fun _ => .bind (.skip two_left) fun _ _ _ => .pure _

/-! ## Brackets -/

theorem alike_bracketPieces (fuel further depth : Nat) (enough : fuel ≤ further)
    (cursor : Cursor) :
    Alike shift tail cursor (bracketPieces fuel depth) (bracketPieces further depth) := by
  induction fuel generalizing further depth cursor with
  | zero => exact .fail _ _
  | succ fuel ih =>
      obtain ⟨further, rfl⟩ : ∃ other, further = other + 1 := ⟨further - 1, by omega⟩
      have enough : fuel ≤ further := Nat.le_of_succ_le_succ enough
      rw [bracketPieces, bracketPieces]
      apply Alike.left
      cases rest_eq : cursor.rest with
      | nil => exact .fail _ _
      | cons c rest =>
          have one_left : 1 ≤ cursor.rest.length := by simp [rest_eq]
          rw [List.cons_append]
          by_cases quote : c = '\\'
          · subst quote
            apply Alike.position
            refine .bind (alike_escape harmless true _) fun escaped _ _ => ?_
            cases escaped with
            | term _ =>
                exact .bind (.failAt _ _ _) fun _ _ _ => .bind (ih _ _ enough _) fun _ _ _ => .pure _
            | _ => exact .bind (.pure _) fun _ _ _ => .bind (ih _ _ enough _) fun _ _ _ => .pure _
          · by_cases opens : c = '['
            · subst opens
              exact .bind (.skip one_left) fun _ _ _ => .bind (ih _ _ enough _) fun _ _ _ => .pure _
            · by_cases closes : c = ']'
              · subst closes
                refine .bind (.skip one_left) fun _ _ _ => .ite (fun _ => .pure _) fun _ => ?_
                exact .bind (ih _ _ enough _) fun _ _ _ => .pure _
              · simp only
                exact .bind (.skip one_left) fun _ _ _ => .bind (ih _ _ enough _) fun _ _ _ => .pure _

/-- The rest of a bracket behind its opening character. -/
def bracketBody (flags : Flags) : Reader Term := do
  let negation ← if ← accept '^' then pure [Piece.bare '^'] else pure []
  let first ← if ← accept ']' then pure [Piece.bare ']'] else pure []
  let pieces ← bracketPieces ((← left).length + 1) 1
  match bracket? flags.fold (negation ++ first ++ pieces) with
  | some reading => return .bracket reading
  | none => return .unreadable

omit harmless in
theorem bracket_eq : bracket = (do
    let flags ← flags
    skip 1
    bracketBody flags) := rfl

theorem alike_bracketBody (flags : Flags) (cursor : Cursor) :
    Alike shift tail cursor (bracketBody flags) (bracketBody flags) := by
  refine .bind (alike_accept harmless (by decide) _) fun negated _ _ => ?_
  cases negated <;>
    refine .bind (.pure _) fun negation _ _ =>
      .bind (alike_accept harmless (by decide) _) fun closed _ _ => ?_
  all_goals
    cases closed <;> refine .bind (.pure _) fun first _ _ => .left ?_
  all_goals
    refine .bind (alike_bracketPieces harmless _ _ _ (by simp) _) fun pieces _ _ => ?_
    cases bracket? _ _ <;> exact .pure _

theorem alike_bracket {cursor : Cursor} (some_char : cursor.rest ≠ []) :
    Alike shift tail cursor bracket bracket := by
  rw [bracket_eq]
  exact .flags (.bind (.skip (List.length_pos_iff.mpr some_char)) fun _ _ _ =>
    alike_bracketBody harmless _ _)

end Tail

end Redirects.Regex.Reader
