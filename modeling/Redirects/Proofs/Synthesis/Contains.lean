import Redirects.Proofs.Pattern.Spans
import Redirects.Proofs.Synthesis.Acceptance

/-!
# Rules that look for a text

A rule that looks for a text redirects the addresses that contain it.  If the destination contains
the text itself, slashes at the ends aside, the text must be found without what the destination has
behind as many bytes as the text takes, and the limits of pattern matching set how long the text may
be and how far from the front it may stand.
-/

namespace Redirects

open Regex

/-- The rest of a text behind so many bytes; nothing where the text cannot be cut there. -/
structure IsRest (count : Nat) (text rest : List Char) : Prop where
  cut : ∀ front back, text = front ++ back → Text.byteLength front = count → rest = back
  uncut : (∀ front back, text = front ++ back → Text.byteLength front ≠ count) → rest = []

theorem isRest_getD_dropBytes? (count : Nat) (text : List Char) :
    IsRest count text ((Text.dropBytes? count text).getD []) where
  cut front back text_eq bytes_eq := by
    rw [Text.dropBytes?_eq_some_iff.mpr ⟨front, text_eq, bytes_eq⟩, Option.getD_some]
  uncut never := by
    cases rest_eq : Text.dropBytes? count text with
    | none => rfl
    | some back =>
        obtain ⟨front, text_eq, bytes_eq⟩ := Text.dropBytes?_eq_some_iff.mp rest_eq
        exact absurd bytes_eq (never front back text_eq)

theorem overlaps_iff {source destination : String} :
    overlaps source destination = true ↔
      withoutSlashes source <:+: withoutSlashes destination :=
  Text.occursIn_iff_isInfix _ _

section Filter

variable {source destination url : String}

theorem accepts_contains_apart
    (apart : ¬withoutSlashes source <:+: withoutSlashes destination) :
    (synthesizeContains source destination).filter.accepts url = true ↔
      source.toList <:+: url.toList := by
  rw [synthesizeContains, if_neg (mt overlaps_iff.mp apart)]
  exact Text.occursIn_iff_isInfix _ _

theorem accepts_contains_whole
    (overlap : withoutSlashes source <:+: withoutSlashes destination)
    (no_tail : excludedTail source destination = []) :
    (synthesizeContains source destination).filter.accepts url = true ↔
      Text.byteLength (withoutSlashes source) ≤ Limits.usualBytes ∧
        withoutSlashes source <:+: url.toList := by
  rw [synthesizeContains, if_pos (overlaps_iff.mpr overlap), no_tail, ← matchesIn_plain_iff]
  simp only [List.isEmpty_nil, if_pos, Filter.accepts, Pattern.occursIn, Pattern.render,
    Pattern.escape_eq_writtenText, String.toList_ofList]

theorem accepts_contains_followed
    (overlap : withoutSlashes source <:+: withoutSlashes destination)
    (some_tail : excludedTail source destination ≠ []) :
    (synthesizeContains source destination).filter.accepts url = true ↔
      ∃ before after, url.toList = before ++ withoutSlashes source ++ after ∧
        ¬excludedTail source destination <+: after ∧ before.length < Limits.usualPlaces := by
  let pattern : Pattern := .excludeTrailing (String.ofList (excludedTail source destination))
    (.literal (String.ofList (withoutSlashes source)))
  have filter_eq : (synthesizeContains source destination).filter = .regex pattern := by
    have nonempty : (excludedTail source destination).isEmpty = false := by simpa using some_tail
    rw [synthesizeContains, if_pos (overlaps_iff.mpr overlap)]
    simp only [nonempty]
    rfl
  have guarded : pattern.Guarded := .trailing _ (.literal _)
  rw [filter_eq, Filter.accepts, Pattern.occursIn, guarded.render_eq]
  simp only [pattern, Pattern.signs, String.toList_ofList]
  exact matchesIn_followed_iff

end Filter

/-- A rule that looks for a text redirects what its filter accepts to its destination. -/
theorem simulate_contains (source destination url : String) (number : UInt32) :
    simulate [(synthesizeContains source destination).emit number] url =
      if (synthesizeContains source destination).filter.accepts url then
        some ⟨number, url, destination⟩
      else none := by
  have emitted : (synthesizeContains source destination).emit number =
      Synthesis.emit ⟨(synthesizeContains source destination).filter, .url destination⟩ number := by
    rw [← Synthesis.target_synthesizeContains source destination]
  rw [simulate_singleton, DeclarativeRule.hit?, emitted, Synthesis.redirect?_emit_url]
  split <;> rfl

/-- What a rule that looks for a text does with an address.  It sends the address to its destination
or leaves it alone.  Unless its destination contains the text, slashes at the ends aside, it fires
exactly on the addresses that contain its source.  Otherwise, let the tail be the rest of the
destination behind as many bytes as the text takes.  Without a tail it fires exactly on the
addresses that contain the text, if the text is not too long; with a tail it fires exactly on those
in which the text stands somewhere, not too far from the front, without the tail behind it. -/
theorem simulate_contains_iff (source destination id url : String) (enabled : Bool)
    (number : UInt32) :
    let rule : Rule := { source, destination, kind := .contains, enabled, id }
    let redirected := simulate [(synthesize rule).emit number] url
    let hit : Hit := ⟨number, url, destination⟩
    let text := withoutSlashes source
    let tail := excludedTail source destination
    (redirected = some hit ∨ redirected = none) ∧
      (¬text <:+: withoutSlashes destination →
        (redirected = some hit ↔ source.toList <:+: url.toList)) ∧
      IsRest (Text.byteLength text) (withoutSlashes destination) tail ∧
      (text <:+: withoutSlashes destination → tail = [] →
        (redirected = some hit ↔
          Text.byteLength text ≤ Limits.usualBytes ∧ text <:+: url.toList)) ∧
      (text <:+: withoutSlashes destination → tail ≠ [] →
        (redirected = some hit ↔
          ∃ before after, url.toList = before ++ text ++ after ∧ ¬tail <+: after ∧
            before.length < Limits.usualPlaces)) := by
  intro rule redirected hit text tail
  have redirected_eq : redirected = if (synthesizeContains source destination).filter.accepts url
      then some hit else none :=
    simulate_contains source destination url number
  have fires_iff : redirected = some hit ↔
      (synthesizeContains source destination).filter.accepts url = true := by
    rw [redirected_eq, Option.ite_none_right_eq_some]
    simp
  refine ⟨?_, fun apart => fires_iff.trans (accepts_contains_apart apart),
    isRest_getD_dropBytes? _ _,
    fun overlap no_tail => fires_iff.trans (accepts_contains_whole overlap no_tail),
    fun overlap some_tail => fires_iff.trans (accepts_contains_followed overlap some_tail)⟩
  rw [redirected_eq]
  split
  · exact .inl rfl
  · exact .inr rfl

/-- The first occurrence is followed by the tail, and a later one is found. -/
theorem simulate_contains_iff_later :
    let rule : Rule := { source := "http://é/", destination := "http://é/x/", id := "r" }
    simulate [(synthesize rule).emit 7] "http://é/x?to=http://é/y" =
      some ⟨7, "http://é/x?to=http://é/y", "http://é/x/"⟩ := by
  intro rule
  have overlap : withoutSlashes rule.source <:+: withoutSlashes rule.destination :=
    overlaps_iff.mp (by decide)
  have some_tail : excludedTail rule.source rule.destination ≠ [] := by decide
  have fires_iff := (simulate_contains_iff rule.source rule.destination "r"
    "http://é/x?to=http://é/y" true 7).2.2.2.2 overlap some_tail
  exact fires_iff.mpr ⟨"http://é/x?to=".toList, "/y".toList, by decide, by decide, by decide⟩

/-- Behind so many other characters a character stands only at its own place. -/
theorem length_before_of_run {c d : Char} (differ : c ≠ d) {count : Nat} {before after : List Char}
    (occurrence : List.replicate count d ++ [c] = before ++ [c] ++ after) :
    count ≤ before.length := by
  apply Nat.le_of_not_lt
  intro short
  have here := congrArg (·[before.length]?) occurrence
  simp [short, List.getElem?_append_left, differ.symm] at here

/-- A text that is not followed by the tail is passed by where it stands too far from the front. -/
theorem simulate_contains_far :
    let url := String.ofList (List.replicate 1000100 'c' ++ ['a'])
    let rule : Rule := { source := "a", destination := "ab", kind := .contains, id := "r" }
    withoutSlashes rule.source <:+: withoutSlashes rule.destination ∧
      excludedTail rule.source rule.destination = ['b'] ∧
      (∃ before after, url.toList = before ++ withoutSlashes rule.source ++ after ∧
        ¬['b'] <+: after) ∧
      simulate [(synthesize rule).emit 1] url = none := by
  intro url rule
  have overlap : withoutSlashes "a" <:+: withoutSlashes "ab" := overlaps_iff.mp (by decide)
  have tail_eq : excludedTail "a" "ab" = ['b'] := by decide
  have text_eq : withoutSlashes "a" = ['a'] := by decide
  have url_eq : url.toList = List.replicate 1000100 'c' ++ ['a'] := String.toList_ofList
  refine ⟨overlap, tail_eq, ⟨List.replicate 1000100 'c', [], ?_, by decide⟩, ?_⟩
  · rw [url_eq, text_eq, List.append_nil]
  · have passed : ¬(synthesizeContains "a" "ab").filter.accepts url = true := by
      rw [accepts_contains_followed overlap (by simp [tail_eq]), text_eq, url_eq]
      rintro ⟨before, after, occurrence, -, near⟩
      have far := length_before_of_run (by decide : 'a' ≠ 'c') occurrence
      rw [Limits.usualPlaces] at near
      omega
    exact (simulate_contains "a" "ab" url 1).trans (if_neg passed)

end Redirects
