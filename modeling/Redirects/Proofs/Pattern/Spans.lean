import Redirects.Pattern
import Redirects.Proofs.Regex.Finding

/-!
# The spans of a pattern

A pattern that is built from texts alone means a set of spans of a text: a text that stands for
itself means the spans where it stands, and an excluded text takes away the spans that begin, or
end, where it stands.  The pattern that is written for it occurs exactly where there is such a span,
as long as the search stays within its limits.
-/

namespace Redirects

open Regex

namespace Pattern

/-- The pattern is built from texts alone. -/
inductive Guarded : Pattern → Prop where
  | literal (chars : String) : Guarded (.literal chars)
  | leading (excluded : String) {pattern : Pattern} (guarded : Guarded pattern) :
      Guarded (.excludeLeading excluded pattern)
  | trailing (excluded : String) {pattern : Pattern} (guarded : Guarded pattern) :
      Guarded (.excludeTrailing excluded pattern)

/-- The pattern means the span of the text from a place to another. -/
inductive Spans (text : List Char) : Pattern → Nat → Nat → Prop where
  | literal {chars : String} {start stop : Nat} (ordered : start ≤ stop)
      (inside : stop ≤ text.length) (same : (text.take stop).drop start = chars.toList) :
      Spans text (.literal chars) start stop
  | leading {excluded : String} {pattern : Pattern} {start stop : Nat}
      (span : Spans text pattern start stop) (free : ¬excluded.toList <+: text.drop start) :
      Spans text (.excludeLeading excluded pattern) start stop
  | trailing {excluded : String} {pattern : Pattern} {start stop : Nat}
      (span : Spans text pattern start stop) (free : ¬excluded.toList <+: text.drop stop) :
      Spans text (.excludeTrailing excluded pattern) start stop

/-- The signs of a pattern that is built from texts alone. -/
def signs : Pattern → List Sign
  | .literal chars => chars.toList.map .plain
  | .excludeLeading excluded pattern => .barred excluded.toList :: pattern.signs
  | .excludeTrailing excluded pattern => pattern.signs ++ [.barred excluded.toList]
  | .raw _ | .captureTail _ => []

/-- The pattern occurs in the text, as far as matching within the limits shows. -/
def occursWithin (limits : Limits) (pattern : Pattern) (text : String) : Bool :=
  matchesWithin limits pattern.render text

theorem occursWithin_default (pattern : Pattern) (text : String) :
    pattern.occursWithin {} text = pattern.occursIn text := rfl

theorem escape_eq_writtenText (chars : String) :
    escape chars = writtenText (chars.toList.map .plain) := by
  rw [escape, writtenText, List.flatMap_map]
  rfl

/-- A pattern that is built from texts alone is written sign by sign. -/
theorem Guarded.render_eq {pattern : Pattern} (guarded : pattern.Guarded) :
    pattern.render = writtenText pattern.signs := by
  induction guarded with
  | literal chars => exact escape_eq_writtenText chars
  | leading excluded guarded ih =>
      apply String.toList_inj.mp
      simp [render, signs, ih, writtenText, escape, Sign.written]
  | trailing excluded guarded ih =>
      apply String.toList_inj.mp
      simp [render, signs, ih, writtenText, escape, Sign.written]

theorem take_drop_eq_iff {text chars : List Char} {start stop : Nat} :
    (start ≤ stop ∧ stop ≤ text.length ∧ (text.take stop).drop start = chars) ↔
      start ≤ text.length ∧ chars <+: text.drop start ∧ start + chars.length = stop := by
  constructor
  · rintro ⟨ordered, inside, rfl⟩
    refine ⟨Nat.le_trans ordered inside, ?_, ?_⟩
    · rw [List.drop_take]
      exact List.take_prefix _ _
    · rw [List.length_drop, List.length_take, Nat.min_eq_left inside]
      omega
  · rintro ⟨inside, stands, rfl⟩
    have room := stands.length_le
    rw [List.length_drop] at room
    refine ⟨Nat.le_add_right _ _, by omega, ?_⟩
    rw [List.drop_take, Nat.add_sub_cancel_left]
    exact (List.prefix_iff_eq_take.mp stands).symm

/-- A pattern means the spans at whose start its signs end at their end. -/
theorem Guarded.spans_iff {pattern : Pattern} (guarded : pattern.Guarded) {text : List Char}
    {start stop : Nat} :
    pattern.Spans text start stop ↔
      start ≤ text.length ∧ endFrom? text.toArray pattern.signs start = some stop := by
  induction guarded generalizing stop with
  | literal chars =>
      rw [signs, endFrom?_plain, Option.ite_none_right_eq_some, standsAt_iff, Option.some.injEq,
        List.toList_toArray]
      refine Iff.trans ⟨?_, ?_⟩ take_drop_eq_iff
      · intro means
        cases means with
        | literal ordered inside same => exact ⟨ordered, inside, same⟩
      · rintro ⟨ordered, inside, same⟩
        exact .literal ordered inside same
  | leading excluded guarded ih =>
      rw [signs, endFrom?, Option.ite_none_left_eq_some, standsAt_iff, List.toList_toArray,
        and_left_comm, ← ih]
      constructor
      · intro means
        cases means with
        | leading span free => exact ⟨free, span⟩
      · rintro ⟨free, span⟩
        exact .leading span free
  | trailing excluded guarded ih =>
      -- the last sign takes nothing, so the span ends where the others did
      have last (between : Nat) :
          endFrom? text.toArray [.barred excluded.toList] between = some stop ↔
            ¬excluded.toList <+: text.drop stop ∧ between = stop := by
        rw [endFrom?, Option.ite_none_left_eq_some, standsAt_iff, List.toList_toArray, endFrom?,
          Option.some.injEq]
        constructor
        · rintro ⟨free, rfl⟩
          exact ⟨free, rfl⟩
        · rintro ⟨free, rfl⟩
          exact ⟨free, rfl⟩
      rw [signs, endFrom?_append, Option.bind_eq_some_iff]
      constructor
      · intro means
        cases means with
        | trailing span free =>
            obtain ⟨inside, ends⟩ := ih.mp span
            exact ⟨inside, stop, ends, (last stop).mpr ⟨free, rfl⟩⟩
      · rintro ⟨inside, between, ends, last_ends⟩
        obtain ⟨free, rfl⟩ := (last between).mp last_ends
        exact .trailing (ih.mpr ⟨inside, ends⟩) free

theorem Guarded.exists_span_iff {pattern : Pattern} (guarded : pattern.Guarded)
    {text : List Char} :
    (∃ start stop, pattern.Spans text start stop) ↔
      ∃ place ≤ text.length, (endFrom? text.toArray pattern.signs place).isSome = true := by
  simp only [guarded.spans_iff, Option.isSome_iff_exists, exists_and_left]

/-- Within limits that the search cannot reach, a pattern occurs exactly where it means a span. -/
theorem Guarded.occursWithin_iff {limits : Limits} {pattern : Pattern}
    (guarded : pattern.Guarded) {text : String} (ample : limits.Ample pattern.signs text) :
    pattern.occursWithin limits text = true ↔
      ∃ start stop, pattern.Spans text.toList start stop := by
  rw [occursWithin, guarded.render_eq, ample.matchesWithin_iff, guarded.exists_span_iff]

/-- The pattern that is written for a pattern of texts keeps its meaning.  Without bounds it occurs
in a text exactly if it means a span of it.  Within the usual limits it occurs only if it means a
span, and for short texts exactly if it does.  A text alone is written so that it occurs exactly
where the text does. -/
theorem occurs_iff_exists_span {pattern : Pattern} (guarded : pattern.Guarded) (text : String) :
    (∃ enough, ∀ steps ≥ enough,
      (pattern.occursWithin (.unbounded steps) text = true ↔
        ∃ start stop, pattern.Spans text.toList start stop)) ∧
      (pattern.occursIn text = true → ∃ start stop, pattern.Spans text.toList start stop) ∧
      ((text.length + 1) * (pattern.render.length + 1) ≤ 80000 →
        (pattern.occursIn text = true ↔ ∃ start stop, pattern.Spans text.toList start stop)) ∧
      ∀ (part : String) (steps : Nat),
        matchesWithin (.unbounded steps) (escape part) text = true ↔
          part.toList <:+: text.toList := by
  refine ⟨⟨_, fun steps enough => guarded.occursWithin_iff (Limits.ample_unbounded enough)⟩,
    ?_, ?_, ?_⟩
  · intro occurs
    rw [← occursWithin_default, occursWithin, guarded.render_eq] at occurs
    exact guarded.exists_span_iff.mpr (exists_end_of_matchesWithin rfl rfl occurs)
  · intro short
    have signs_le : pattern.signs.length ≤ pattern.render.length := by
      rw [guarded.render_eq, writtenText, String.length_ofList]
      exact Reader.length_le_length_written pattern.signs
    rw [← occursWithin_default]
    apply guarded.occursWithin_iff
    apply Limits.ample_default
    rw [String.length_toList]
    exact Nat.le_trans (Nat.mul_le_mul_left _ (Nat.succ_le_succ signs_le)) short
  · intro part steps
    rw [escape_eq_writtenText, matchesWithin_plain]
    simp [Limits.unbounded]

/-- Special characters stand for themselves, and an excluded text inside another exclusion counts at
its own end of the span. -/
theorem occurs_iff_exists_span_nested :
    let pattern : Pattern := .excludeLeading "a.(c" (.excludeTrailing "b" (.literal "a.("))
    pattern.Guarded ∧ pattern.occursIn "a.(b a.(c a.(" = true := by
  intro pattern
  have guarded : pattern.Guarded := .leading _ (.trailing _ (.literal _))
  refine ⟨guarded, ((occurs_iff_exists_span guarded _).2.2.1 (by decide)).mpr ⟨10, 13, ?_⟩⟩
  exact .leading (.trailing (.literal (by decide) (by decide) (by decide)) (by decide)) (by decide)

end Pattern

end Redirects
