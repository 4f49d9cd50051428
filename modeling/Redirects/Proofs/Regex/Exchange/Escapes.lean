import Mathlib.Data.List.TakeWhile
import Redirects.Proofs.Regex.Exchange.Blanks

/-!
# Escapes and brackets with a path in the place of a wildcard

References, escapes and brackets end before the slash, save an escape whose last character it is.
-/

namespace Redirects.Regex.Reader

variable {wild : List Char} (listed : wild ∈ wildTails)
include listed

omit listed in
theorem swaps_accept {c : Char} (not_slash : c ≠ '/') (cursor : Cursor) :
    Swaps False wild cursor (accept c) (accept c) := by
  rw [accept]
  refine .left ?_
  cases rest_eq : cursor.rest with
  | nil =>
      have differs : (c == '/') = false := by simpa using not_slash
      simp only [List.nil_append, writtenPath, differs]
      exact .pure false
  | cons d rest =>
      simp only [List.cons_append]
      exact .ite (fun _ => .bind (.skip (by simp [rest_eq])) fun _ _ => .pure true) fun _ =>
        .pure false

/-! ## References -/

/-- A number refers to the same group; a longer pattern only lets greater numbers pass. -/
theorem swaps_numberedReference (cursor : Cursor) :
    Swaps False wild cursor numberedReference numberedReference := by
  rw [numberedReference]
  refine .get ?_
  have wild_eq : decimal? (cursor.within 0 ('/' :: wild)).rest = _ :=
    decimal?_append (harmless_wild listed) cursor.rest
  have path_eq : decimal? (cursor.within 0 writtenPath).rest = _ :=
    decimal?_append harmless_path cursor.rest
  rw [wild_eq, path_eq]
  cases found : decimal? cursor.rest with
  | none => exact .fail _ _
  | some result =>
      obtain ⟨number, rest⟩ := result
      simp only [Option.map_some]
      split
      · next within =>
          have wider : number < ((cursor.within 0 writtenPath).position +
              Text.byteLength (cursor.within 0 writtenPath).rest) / 2 := by
            have longer := byteLength_wild_le listed
            simp only [Cursor.within, Text.byteLength_append] at within ⊢
            omega
          rw [if_pos wider]
          rintro _ _ ⟨⟩
          have digits_eq (tail : List Char) : (cursor.rest ++ tail).length - (rest ++ tail).length =
              cursor.rest.length - rest.length := by
            simp only [List.length_append, Nat.add_sub_add_right]
          refine .inl ⟨{ cursor with
            rest
            position := cursor.position + (cursor.rest.length - rest.length)
            numbered := true }, ?_, ?_⟩
          · simp only [Cursor.within, digits_eq]
            rfl
          · simp only [Cursor.within, digits_eq]
            rfl
      · exact .fail _ _

omit listed in
theorem isPrefixOf_append {front tail : List Char} (harmless : Harmless tail)
    (slashless : '/' ∉ front) (text : List Char) :
    front.isPrefixOf (text ++ tail) = front.isPrefixOf text := by
  induction front generalizing text with
  | nil => rfl
  | cons c front ih =>
      rw [List.mem_cons, not_or] at slashless
      cases text with
      | nil =>
          cases tail with
          | nil => rfl
          | cons d tail =>
              have slash := harmless.slash_of_head d rfl
              have differs : (c == d) = false := by simpa [slash] using Ne.symm slashless.1
              simp [List.isPrefixOf, differs]
      | cons d text => simp only [List.cons_append, List.isPrefixOf, ih slashless.2]

omit listed in
/-- The delimiters of a name are found alike. -/
theorem delimitedName?_within {opening closing tail : List Char} (harmless : Harmless tail)
    (opening_slashless : '/' ∉ opening) (closing_slashless : '/' ∉ closing) (relative : Bool)
    (text : List Char) :
    delimitedName? opening closing relative (text ++ tail) =
      (delimitedName? opening closing relative text).map fun (name, rest) =>
        (name, rest ++ tail) := by
  have unfolded (text : List Char) : delimitedName? opening closing relative text =
      if !opening.isPrefixOf text then none
      else
        let text := text.drop opening.length
        let name := frontName relative text
        let rest := text.drop name.length
        if name.isEmpty || !closing.isPrefixOf rest then none
        else some (name, rest.drop closing.length) := rfl
  rw [unfolded, unfolded, isPrefixOf_append harmless opening_slashless]
  split
  · rfl
  · next opened =>
      have opened_le : opening.length ≤ text.length :=
        (List.isPrefixOf_iff_prefix.mp (by simpa using opened)).length_le
      simp only [List.drop_append_of_le_length opened_le, frontName_append harmless]
      generalize text.drop opening.length = behind
      have name_le := (isPrefix_frontName relative behind).length_le
      simp only [List.drop_append_of_le_length name_le,
        isPrefixOf_append harmless closing_slashless]
      split
      · rfl
      · next closed =>
          rw [Bool.or_eq_true, not_or] at closed
          have closes : closing <+: behind.drop (frontName relative behind).length := by
            simpa using closed.2
          rw [Option.map_some, List.drop_append_of_le_length closes.length_le]

theorem swaps_namedReference {opening closing : List Char} (opening_slashless : '/' ∉ opening)
    (closing_slashless : '/' ∉ closing) (relative : Bool) (cursor : Cursor) :
    Swaps False wild cursor (namedReference opening closing relative)
      (namedReference opening closing relative) := by
  rw [namedReference]
  refine .get ?_
  have wild_eq : delimitedName? opening closing relative (cursor.within 0 ('/' :: wild)).rest = _ :=
    delimitedName?_within (harmless_wild listed) opening_slashless closing_slashless relative _
  have path_eq : delimitedName? opening closing relative (cursor.within 0 writtenPath).rest = _ :=
    delimitedName?_within harmless_path opening_slashless closing_slashless relative _
  rw [wild_eq, path_eq]
  cases found : delimitedName? opening closing relative cursor.rest with
  | none => exact .fail _ _
  | some result =>
      obtain ⟨name, rest⟩ := result
      have group_eq (tail : List Char) : groupNamed? (cursor.within 0 tail) name =
          groupNamed? cursor name := rfl
      have taken_eq (tail : List Char) : (cursor.within 0 tail).rest.length -
          (rest ++ tail).length = cursor.rest.length - rest.length := by
        simp only [Cursor.within, List.length_append, Nat.add_sub_add_right]
      simp only [Option.map_some, group_eq, taken_eq]
      cases groupNamed? cursor name with
      | none => exact .fail _ _
      | some number => exact .bind (.skip (Nat.sub_le _ _)) fun _ _ => .pure _

/-! ## Escapes -/

theorem swaps_hexChar (count : Nat) (cursor : Cursor) :
    Swaps False wild cursor (hexChar count) (hexChar count) := by
  rw [hexChar_eq]
  refine .left ?_
  rw [hexDigits?_append (harmless_wild listed), hexDigits?_append harmless_path]
  cases found : hexDigits? count cursor.rest with
  | none => exact .fail _ _
  | some result =>
      obtain ⟨digits, taken⟩ := result
      simp only [hexEnd]
      exact .ite (fun _ => .flags (.bind (.skip (hexDigits?_le found)) fun _ _ => .pure _))
        fun _ => .fail _ _

theorem swaps_propertySet {start other : Nat} (negated : Bool) {cursor : Cursor}
    (some_char : cursor.rest ≠ []) :
    Swaps False wild cursor (propertySet start negated) (propertySet other negated) := by
  rw [propertySet, propertySet]
  refine .flags (.left ?_)
  obtain ⟨c, rest, rest_eq⟩ := List.exists_cons_of_ne_nil some_char
  rw [rest_eq]
  by_cases brace : c = '\x7b'
  · subst brace
    simp only [List.cons_append]
    by_cases unclosed : (rest.takeWhile (· != '\x7d')).length = rest.length
    · -- no brace closes behind the pattern either
      have open_on : ((rest ++ '/' :: wild).takeWhile (· != '\x7d')) = rest ++ '/' :: wild := by
        have absent := (harmless_wild listed).brace_not_mem
        rw [List.takeWhile_append, if_pos unclosed, List.takeWhile_eq_self_iff.mpr]
        intro d d_mem
        exact bne_iff_ne.mpr (ne_of_mem_of_not_mem d_mem absent)
      simp only [open_on, beq_self_eq_true, if_true]
      exact .failAt _ _ _
    · have name_le : (rest.takeWhile (· != '\x7d')).length ≤ rest.length :=
        (List.takeWhile_prefix _).length_le
      have name_eq (tail : List Char) :
          (rest ++ tail).takeWhile (· != '\x7d') = rest.takeWhile (· != '\x7d') := by
        rw [List.takeWhile_append, if_neg unclosed]
      have still_closed (tail : List Char) :
          ((rest.takeWhile (· != '\x7d')).length == (rest ++ tail).length) = false := by
        rw [beq_eq_false_iff_ne, List.length_append]
        omega
      simp only [name_eq, still_closed, Bool.false_eq_true, if_false]
      refine .bind (.skip ?_) fun _ _ => .pure _
      rw [rest_eq, List.length_cons]
      omega
  · simp only [List.cons_append]
    exact .bind (.skip (List.length_pos_iff.mpr some_char)) fun _ _ => .pure _

/-- An escape is read alike if it ends before the slash. -/
theorem swaps_escape (inBracket : Bool) {cursor : Cursor} {q c : Char} {rest : List Char}
    (rest_eq : cursor.rest = q :: c :: rest) (named : rest = [] → c ≠ 'p' ∧ c ≠ 'P') :
    Swaps False wild cursor (escape inBracket) (escape inBracket) := by
  have one_left : 1 ≤ cursor.rest.length := by simp [rest_eq]
  have two_left : 2 ≤ cursor.rest.length := by simp [rest_eq]
  rw [escape]
  refine .position (.left ?_)
  simp only [rest_eq, List.cons_append, List.drop_one, List.tail_cons]
  refine .ite (fun _ => ?_) fun _ => ?_
  · exact .bind (.skip one_left) fun _ _ =>
      .bind (swaps_numberedReference listed _) fun _ _ => .pure _
  rw [(harmless_wild listed).head?_append_beq rest (by decide),
    harmless_path.head?_append_beq rest (by decide)]
  refine .ite (fun _ => ?_) fun _ => ?_
  · refine .bind (.skip two_left) fun _ _ => .ite (fun _ => ?_) fun _ => ?_
    · exact .bind (swaps_namedReference listed (by decide) (by decide) _ _) fun _ _ => .pure _
    · exact .bind (swaps_namedReference listed (by decide) (by decide) _ _) fun _ _ => .pure _
  rw [(harmless_wild listed).head?_append_beq rest (by decide),
    harmless_path.head?_append_beq rest (by decide)]
  refine .ite (fun _ => .failAt _ _ _) fun _ => ?_
  split
  · exact .bind (.skip two_left) fun _ _ => .pure _
  split
  · exact .bind (.skip two_left) fun _ _ => .pure _
  refine .ite (fun _ => .bind (.skip two_left) fun _ _ => swaps_hexChar listed 2 _) fun _ => ?_
  refine .ite (fun _ => .bind (.skip two_left) fun _ _ => swaps_hexChar listed 4 _) fun _ => ?_
  refine .ite (fun _ => .bind (.skip two_left) fun _ _ => swaps_hexChar listed 8 _) fun _ => ?_
  have named_eq (tail : List Char) : ((c == 'p' || c == 'P') && !(rest ++ tail).isEmpty) =
      ((c == 'p' || c == 'P') && !rest.isEmpty) := by
    cases rest with
    | nil =>
        obtain ⟨not_small, not_great⟩ := named rfl
        simp [not_small, not_great]
    | cons d rest => rfl
  rw [named_eq, named_eq]
  refine .ite (fun more => .skip_bind two_left (swaps_propertySet listed _ ?_)) fun _ => ?_
  · simpa [rest_eq] using And.right (Bool.and_eq_true_iff.mp more)
  split
  · exact .bind (.skip two_left) fun _ _ => .pure _
  · exact .ite (fun _ => .failAt _ _ _) fun _ => .bind (.skip two_left) fun _ _ => .pure _

omit listed in
/-- An escape whose last character the slash is stands for the slash, or for a property that there
is not. -/
theorem escape_over {cursor : Cursor} {q : Char}
    (short : cursor.rest = [q] ∨ ∃ c, (c = 'p' ∨ c = 'P') ∧ cursor.rest = [q, c]) :
    ∃ (value : Escaped) (place : Cursor), place.rest = [] ∧
      (value = .char false '/' ∨ value = .unreadable) ∧
      ∀ tail, escape false (cursor.within 0 ('/' :: tail)) = .ok (value, place.within 0 tail) := by
  obtain ⟨rest, position, flags, groups, names, numbered, referred⟩ := cursor
  rcases short with rfl | ⟨c, letter, rfl⟩
  · exact ⟨.char false '/', ⟨[], position + Text.byteLength [q, '/'], flags, groups, names,
      numbered, referred⟩, rfl, .inl rfl, fun tail => rfl⟩
  · refine ⟨.unreadable, ⟨[], position + Text.byteLength [q, c] + 1, flags, groups, names, numbered,
      referred⟩, rfl, .inr rfl, fun tail => ?_⟩
    rcases letter with rfl | rfl <;> rfl

/-! ## Brackets -/

omit listed in
/-- A bracket needs its closing character. -/
theorem close_mem_of_bracketPieces {fuel depth : Nat} {cursor after : Cursor} {pieces : List Piece}
    (read : bracketPieces fuel depth cursor = .ok (pieces, after)) : ']' ∈ cursor.rest := by
  induction fuel generalizing depth cursor after pieces with
  | zero => cases read
  | succ fuel ih =>
      rw [bracketPieces] at read
      obtain ⟨_, _, ⟨⟩, read⟩ := bind_eq_ok_iff.mp read
      cases rest_eq : cursor.rest with
      | nil =>
          rw [rest_eq] at read
          cases read
      | cons c rest =>
          rw [rest_eq] at read
          by_cases quote : c = '\\'
          · subst quote
            obtain ⟨_, _, ⟨⟩, read⟩ := bind_eq_ok_iff.mp read
            obtain ⟨escaped, between, escape_read, read⟩ := bind_eq_ok_iff.mp read
            have alike : Alike 0 [] cursor (escape true) (escape true) :=
              alike_escape harmless_nil true cursor
            have onward := (alike escaped between escape_read).1
            have others {found : List Piece} (read : (do
                let pieces ← (pure found : Reader (List Piece))
                let others ← bracketPieces fuel depth
                return pieces ++ others) between = .ok (pieces, after)) :
                ']' ∈ '\\' :: rest := by
              obtain ⟨_, _, ⟨⟩, read⟩ := bind_eq_ok_iff.mp read
              obtain ⟨_, _, others_read, -⟩ := bind_eq_ok_iff.mp read
              exact rest_eq ▸ onward.suffix.mem (ih others_read)
            cases escaped with
            | term term => cases read
            | _ => exact others read
          · by_cases closes : c = ']'
            · exact closes ▸ List.mem_cons_self
            · have others {found : Piece} {depth : Nat} (read : (do
                  skip 1
                  return found :: (← bracketPieces fuel depth)) cursor = .ok (pieces, after)) :
                  ']' ∈ c :: rest := by
                obtain ⟨_, _, ⟨⟩, read⟩ := bind_eq_ok_iff.mp read
                obtain ⟨_, _, others_read, -⟩ := bind_eq_ok_iff.mp read
                have behind := ih others_read
                simp only [rest_eq, List.drop_one, List.tail_cons] at behind
                exact List.mem_cons_of_mem _ behind
              by_cases opens : c = '['
              · subst opens
                exact others read
              · simp only at read
                exact others read

theorem swaps_bracketPieces {fuel further : Nat} (enough : fuel ≤ further) (depth : Nat)
    (cursor : Cursor) :
    Swaps False wild cursor (bracketPieces fuel depth) (bracketPieces further depth) := by
  induction fuel generalizing further depth cursor with
  | zero => exact .fail _ _
  | succ fuel ih =>
      obtain ⟨further, rfl⟩ : ∃ other, further = other + 1 := ⟨further - 1, by omega⟩
      have enough : fuel ≤ further := Nat.le_of_succ_le_succ enough
      intro value after read
      have closes : ']' ∈ cursor.rest := by
        have absent : ']' ∉ '/' :: wild := close_not_mem listed
        exact (List.mem_append.mp (close_mem_of_bracketPieces read)).resolve_right absent
      revert value after read
      change Swaps False wild cursor (bracketPieces (fuel + 1) depth)
        (bracketPieces (further + 1) depth)
      rw [bracketPieces, bracketPieces]
      refine .left ?_
      cases rest_eq : cursor.rest with
      | nil => simp [rest_eq] at closes
      | cons c rest =>
          have one_left : 1 ≤ cursor.rest.length := by simp [rest_eq]
          rw [List.cons_append, List.cons_append]
          by_cases quote : c = '\\'
          · subst quote
            refine .position ?_
            have firm : Swaps False wild cursor (escape true) (escape true) := by
              obtain ⟨d, more, rfl⟩ : ∃ d more, rest = d :: more :=
                List.exists_cons_of_ne_nil (by rintro rfl; simp [rest_eq] at closes)
              refine swaps_escape listed true rest_eq ?_
              rintro rfl
              obtain rfl : d = ']' := by simpa [rest_eq, eq_comm] using closes
              decide
            refine .bind firm fun escaped _ => ?_
            cases escaped with
            | term _ =>
                exact .bind (.failAt _ _ _) fun _ _ => .bind (ih enough _ _) fun _ _ => .pure _
            | _ => exact .bind (.pure _) fun _ _ => .bind (ih enough _ _) fun _ _ => .pure _
          · by_cases opens : c = '['
            · subst opens
              exact .bind (.skip one_left) fun _ _ => .bind (ih enough _ _) fun _ _ => .pure _
            · by_cases closes : c = ']'
              · subst closes
                exact .bind (.skip one_left) fun _ _ => .ite (fun _ => .pure _) fun _ =>
                  .bind (ih enough _ _) fun _ _ => .pure _
              · simp only
                exact .bind (.skip one_left) fun _ _ => .bind (ih enough _ _) fun _ _ => .pure _

theorem swaps_bracketBody (flags : Flags) (cursor : Cursor) :
    Swaps False wild cursor (bracketBody flags) (bracketBody flags) := by
  refine .bind (swaps_accept (by decide) _) fun negated _ => ?_
  cases negated <;>
    refine .bind (.pure _) fun negation _ =>
      .bind (swaps_accept (by decide) _) fun closed _ => ?_
  all_goals
    cases closed <;> refine .bind (.pure _) fun first _ => .left ?_
  all_goals
    refine .bind (swaps_bracketPieces listed ?_ _ _) fun pieces _ => ?_
    · have shorter := length_wild_le listed
      simpa [writtenPath] using shorter
    · cases bracket? _ _ <;> exact .pure _

theorem swaps_bracket {cursor : Cursor} (some_char : cursor.rest ≠ []) :
    Swaps False wild cursor bracket bracket := by
  rw [bracket_eq]
  exact .flags (.bind (.skip (List.length_pos_iff.mpr some_char)) fun _ _ =>
    swaps_bracketBody listed _ _)

end Redirects.Regex.Reader
