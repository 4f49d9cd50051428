import Mathlib.Data.List.Basic
import Redirects.Unicode.CaseMapping

/-!
# The letters of ASCII

Case looks through none of the letters of ASCII, and a capital has the lower case of its small
letter.  So nothing that is asked of a character to find the lower case of a text tells the two
apart.
-/

namespace Redirects.Unicode

/-- The code points of the letters of ASCII. -/
def IsLetterCode (code : Nat) : Prop := 65 ≤ code ∧ code ≤ 90 ∨ 97 ≤ code ∧ code ≤ 122

/-! ## Sets without letters -/

/-- No letter of ASCII lies on the span. -/
def Span.LacksLetters (span : Span) : Prop :=
  ∀ code, span.first ≤ code → code ≤ span.last → ¬IsLetterCode code

namespace CharSet

/-- No letter of ASCII lies on a span of the set. -/
def LacksLetters (set : CharSet) : Prop := ∀ span ∈ set.spans, span.LacksLetters

theorem LacksLetters.holds_eq_false {set : CharSet} (lacks : set.LacksLetters) {code : Nat}
    (letter : IsLetterCode code) : set.holds code = false := by
  obtain ⟨spans⟩ := set
  induction spans with
  | nil => rfl
  | cons span spans ih =>
      obtain ⟨span_lacks, others_lack⟩ := List.forall_mem_cons.mp lacks
      rw [holds, inSpans]
      split_ifs with before inside
      · rfl
      · exact absurd letter (span_lacks code (Nat.le_of_not_lt before) inside)
      · exact ih others_lack

/-- What touches is joined, and the joint span has no other code points. -/
theorem lacksLetters_joined {span : Span} {spans : List Span} (span_lacks : span.LacksLetters)
    (others_lack : ∀ other ∈ spans, other.LacksLetters) :
    ∀ other ∈ joined span spans, other.LacksLetters := by
  induction spans generalizing span with
  | nil => simpa [joined] using span_lacks
  | cons next spans ih =>
      obtain ⟨next_lacks, others_lack⟩ := List.forall_mem_cons.mp others_lack
      rw [joined]
      split_ifs with touches
      · refine ih (fun code above below => ?_) others_lack
        by_cases in_span : code ≤ span.last
        · exact span_lacks code above in_span
        · refine next_lacks code (by omega) ?_
          dsimp only at below
          omega
      · exact List.forall_mem_cons.mpr ⟨span_lacks, ih next_lacks others_lack⟩

theorem lacksLetters_ofAscending {spans : List Span}
    (lack : ∀ span ∈ spans, span.LacksLetters) : (ofAscending spans).LacksLetters := by
  cases spans with
  | nil => exact lack
  | cons span spans =>
      obtain ⟨span_lacks, others_lack⟩ := List.forall_mem_cons.mp lack
      exact lacksLetters_joined span_lacks others_lack

theorem mem_of_mem_merged {fuel : Nat} {left right : List Span} {span : Span}
    (listed : span ∈ merged fuel left right) : span ∈ left ∨ span ∈ right := by
  fun_induction merged fuel left right with
  | case1 => simp at listed
  | case2 => exact .inr listed
  | case3 => exact .inl listed
  | case4 _ _ _ _ _ _ ih =>
      rcases List.mem_cons.mp listed with rfl | listed
      · exact .inl List.mem_cons_self
      · exact (ih listed).imp_left (List.mem_cons_of_mem _)
  | case5 _ _ _ _ _ _ ih =>
      rcases List.mem_cons.mp listed with rfl | listed
      · exact .inr List.mem_cons_self
      · exact (ih listed).imp_right (List.mem_cons_of_mem _)

theorem LacksLetters.union {left right : CharSet} (left_lacks : left.LacksLetters)
    (right_lacks : right.LacksLetters) : (left.union right).LacksLetters := by
  refine lacksLetters_ofAscending fun span listed => ?_
  rcases mem_of_mem_merged listed with in_left | in_right
  · exact left_lacks span in_left
  · exact right_lacks span in_right

theorem lacksLetters_unionAll {sets : List CharSet} (each : ∀ set ∈ sets, set.LacksLetters) :
    (unionAll sets).LacksLetters := by
  rw [unionAll]
  generalize sets.length = fuel
  fun_induction joinHalves fuel sets with
  | case1 => simp [LacksLetters, empty]
  | case2 => simp [LacksLetters, empty]
  | case3 => simpa using each
  | case4 _ sets _ _ half left_ih right_ih =>
      exact (left_ih fun set listed => each set (List.mem_of_mem_take listed)).union
        (right_ih fun set listed => each set (List.mem_of_mem_drop listed))

/-! ## Tables without letters -/

/-- No letter of ASCII lies from the first code point of the row to its last. -/
def sparesLetters (run : Run) : Bool :=
  let last := max run.first run.last
  122 < run.first || last < 65 || (90 < run.first && last < 97)

theorem lacksLetters_of_sparesLetters {run : Run} (spares : sparesLetters run = true) {span : Span}
    (above : run.first ≤ span.first) (below : span.last ≤ max run.first run.last) :
    span.LacksLetters := by
  simp only [sparesLetters, Bool.or_eq_true, Bool.and_eq_true, decide_eq_true_eq] at spares
  intro code from_first to_last letter
  rw [IsLetterCode] at letter
  omega

theorem lacksLetters_spansOf {run : Run} (spares : sparesLetters run = true) :
    ∀ span ∈ spansOf run, span.LacksLetters := by
  intro span listed
  rw [spansOf] at listed
  split_ifs at listed with every
  · rw [List.mem_singleton] at listed
    subst listed
    exact lacksLetters_of_sparesLetters spares (Nat.le_refl _) (Nat.le_max_right _ _)
  · simp only [Run.codes, List.map_map, List.mem_map, List.mem_range, Function.comp_apply] at listed
    obtain ⟨place, in_run, rfl⟩ := listed
    refine lacksLetters_of_sparesLetters spares (Nat.le_add_right _ _) ?_
    have within : place * run.step ≤ run.last - run.first :=
      Nat.le_trans (Nat.mul_le_mul_right _ (Nat.le_of_lt_succ in_run)) (Nat.div_mul_le_self _ _)
    dsimp only
    omega

theorem lacksLetters_ofLines {lines : List String}
    (each : ∀ run ∈ Run.ofLines lines, sparesLetters run = true) :
    (ofLines lines).LacksLetters := by
  refine lacksLetters_ofAscending fun span listed => ?_
  obtain ⟨run, run_listed, span_listed⟩ := List.mem_flatMap.mp listed
  exact lacksLetters_spansOf (each run run_listed) span span_listed

-- A line is given by its characters, which spares the kernel the bytes of a text.
theorem sparesLetters_ofLines_cons {chars : List Char} {lines : List String}
    (line : ((Run.words chars).map Run.ofWord).all sparesLetters = true)
    (others : ∀ run ∈ Run.ofLines lines, sparesLetters run = true) :
    ∀ run ∈ Run.ofLines (String.ofList chars :: lines), sparesLetters run = true := by
  intro run listed
  rw [Run.ofLines, List.flatMap_cons, List.mem_append, Run.ofText, String.toList_ofList] at listed
  rcases listed with in_line | in_others
  · exact List.all_eq_true.mp line run in_line
  · exact others run in_others

theorem lacksLetters_caseIgnorable : caseIgnorable.LacksLetters := by
  refine lacksLetters_unionAll ?_
  simp only [List.forall_mem_cons, List.not_mem_nil, false_imp_iff, implies_true, and_true]
  refine ⟨?_, ?_, ?_, ?_, ?_, ?_⟩
  all_goals
    refine lacksLetters_ofLines ?_
    repeat refine sparesLetters_ofLines_cons (by decide +kernel) ?_
    simp [Run.ofLines]

end CharSet

/-! ## Letters -/

theorem isCaseIgnorable_letter {c : Char} (letter : IsLetterCode c.toNat) :
    isCaseIgnorable c = false := by
  rw [isCaseIgnorable, CharSet.has]
  exact CharSet.lacksLetters_caseIgnorable.holds_eq_false letter

/-- What does not tell the capitals of ASCII from their small letters tells no characters apart by
their case in ASCII. -/
theorem apply_toLower {α : Type} (f : Char → α)
    (capital : ∀ place < 26, f (Char.ofNat (65 + place)).toLower = f (Char.ofNat (65 + place)))
    (c : Char) : f c.toLower = f c := by
  by_cases upper : c.val ≥ 'A'.val ∧ c.val ≤ 'Z'.val
  · rw [ge_iff_le, UInt32.le_iff_toNat_le, UInt32.le_iff_toNat_le] at upper
    have from_first : 65 ≤ c.toNat := upper.1
    have to_last : c.toNat ≤ 90 := upper.2
    have c_eq : c = Char.ofNat (65 + (c.toNat - 65)) := by
      rw [Nat.add_sub_cancel' from_first, Char.ofNat_toNat]
    rw [c_eq]
    exact capital _ (by omega)
  · exact congrArg f (dif_neg upper)

@[simp]
theorem isCased_toLower (c : Char) : isCased c.toLower = isCased c :=
  apply_toLower isCased (by decide) c

@[simp]
theorem lower_toLower (c : Char) : lower c.toLower = lower c :=
  apply_toLower lower (by decide) c

@[simp]
theorem isCaseIgnorable_toLower (c : Char) : isCaseIgnorable c.toLower = isCaseIgnorable c := by
  refine apply_toLower isCaseIgnorable (fun place within => ?_) c
  have codes : ∀ place < 26, IsLetterCode (Char.ofNat (65 + place)).toNat ∧
      IsLetterCode (Char.ofNat (65 + place)).toLower.toNat := by
    unfold IsLetterCode
    decide
  obtain ⟨capital, small⟩ := codes place within
  rw [isCaseIgnorable_letter capital, isCaseIgnorable_letter small]

end Redirects.Unicode
