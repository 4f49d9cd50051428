import Redirects.Proofs.Compilation.Places
import Redirects.Proofs.Synthesis.LiteralCapture
import Redirects.Rule.Diagnosis

/-!
# Captured paths that lead back

The diagnosis of a rule looks at the destination as it is written, while a captured path is put
behind the destination and a slash.  So a rule that is not warned about can redirect an address to
itself: exactly if what its filter matches is the destination, the slash and the text of the first
group.  With a literal prefix this happens exactly if the destination is the prefix and the slash is
missing from it.
-/

namespace Redirects

open Regex

/-- A match does not end before it starts. -/
theorem start_le_stop_of_firstMatch? {pattern text : String} {found : Match}
    (first : firstMatch? pattern text = some found) : found.start ≤ found.stop := by
  have ordered (start stop groups : Nat) (slots : Slots) :
      (matchOf start stop groups slots).start ≤ (matchOf start stop groups slots).stop :=
    Nat.min_le_right _ _
  rw [firstMatch?] at first
  cases prepared_eq : prepare pattern with
  | error fault => simp [prepared_eq] at first
  | ok prepared =>
      simp only [prepared_eq, Prepared.find?] at first
      cases prepared with
      | classical automaton =>
          obtain ⟨_, -, rfl⟩ := Option.map_eq_some_iff.mp first
          exact ordered _ _ _ _
      | planned plan slots groups =>
          obtain ⟨final, -, spanned⟩ := Option.bind_eq_some_iff.mp first
          obtain ⟨_, -, rfl⟩ := Option.map_eq_some_iff.mp spanned
          exact ordered _ _ _ _

/-- Other text in the place of a span leaves the text as it is only if it is the text of the span. -/
theorem replaced_eq_iff {text other : List Char} {start stop : Nat} (ordered : start ≤ stop) :
    text.take start ++ other ++ text.drop stop = text ↔ other = (text.take stop).drop start := by
  have whole : text.take start ++ (text.take stop).drop start ++ text.drop stop = text := by
    have front : text.take start = (text.take stop).take start := by
      rw [List.take_take, Nat.min_eq_left ordered]
    rw [front, List.take_append_drop, List.take_append_drop]
  constructor
  · intro same
    exact List.append_cancel_left (List.append_cancel_right (same.trans whole.symm))
  · rintro rfl
    exact whole

/-- An enabled rule without a warning is compiled. -/
theorem compile_of_clean {rule : Rule} (enabled : rule.enabled = true)
    (clean : diagnose [rule] = []) : compile [rule] true = [(synthesize rule).emit 1] := by
  have acyclic : Cycle.excludes (Cycle.detect [rule]) rule.id = false := by
    have no_concern : cycleConcern? (Cycle.detect [rule]) rule = none := by
      simp [diagnose, enabled] at clean
      exact clean.1
    rw [cycleConcern?, Option.map_eq_none_iff, List.find?_eq_none] at no_concern
    simpa [Cycle.excludes] using no_concern
  have kept : Rule.KeptAt [rule] (rule, 0) := ⟨enabled, acyclic, Nat.zero_le _⟩
  rw [compile_eq_map]
  simp [kept]

/-- What is captured somewhere is captured at a first place. -/
theorem exists_firstCapture {needle destination url : List Char} {place : Nat}
    (inside : place ≤ url.length) (captures : CapturesAt needle destination url place) :
    ∃ first, FirstCapture needle destination url first := by
  induction place using Nat.strongRecOn with
  | ind place ih =>
      by_cases earlier : ∃ other < place, CapturesAt needle destination url other
      · obtain ⟨other, lt, other_captures⟩ := earlier
        exact ih other lt (by omega) other_captures
      · exact ⟨place, inside, captures, fun other lt held => earlier ⟨other, lt, held⟩⟩

/-- Where a captured path leads back: the destination is the prefix and lacks the slash, and the
address contains both. -/
theorem literal_captured_to_itself_iff {head ending destination : String}
    (wild : ending ∈ wildcardEndings)
    (placeless : Template.hasPlace destination.toList = false) (id url : String) (enabled : Bool)
    (number : UInt32) :
    let rule : Rule :=
      { source := escape head ++ ending, destination, kind := .regex, enabled, id }
    (simulate [(synthesize rule).emit number] url).map (·.destination) = some url ↔
      destination = head ∧ ¬['/'] <:+ head.toList ∧
        Text.byteLength (head.toList ++ ['/']) ≤ Limits.usualTailedBytes ∧
        head.toList ++ ['/'] <:+: url.toList := by
  intro rule
  have redirects_iff := simulate_literal_capture_iff head wild placeless id url enabled
    number
  rw [Option.map_eq_some_iff]
  constructor
  · rintro ⟨hit, fires, same⟩
    obtain ⟨before, after, url_eq, captures, reach, rfl⟩ := (redirects_iff hit).mp fires
    have replaced : before ++ withSlash destination ++ after =
        before ++ (head.toList ++ ['/']) ++ after := by
      rw [← url_eq, ← same, String.toList_ofList]
    have slashed : withSlash destination = head.toList ++ ['/'] :=
      List.append_cancel_left (List.append_cancel_right replaced)
    rw [withSlash] at slashed
    split at slashed
    · -- the destination is the needle, so it begins wherever the needle stands
      have holds : head.toList ++ ['/'] <:+: destination.toList := slashed ▸ List.infix_rfl
      refine absurd captures.captures.1 fun stands => captures.captures.2 holds ?_
      rw [slashed]
      exact stands
    · next bare =>
        have destination_eq := String.toList_inj.mp (List.append_cancel_right slashed)
        exact ⟨destination_eq, destination_eq ▸ bare, reach.bytes, before, after, url_eq.symm⟩
  · rintro ⟨rfl, bare, bytes, occurs⟩
    have slashed : withSlash destination = destination.toList ++ ['/'] := if_neg bare
    have away : ¬destination.toList ++ ['/'] <:+: destination.toList := by
      intro holds
      have shorter := holds.length_le
      rw [List.length_append, List.length_singleton] at shorter
      omega
    obtain ⟨place, inside, stands⟩ := Text.infix_iff_exists_drop.mp occurs
    have captured : CapturesAt (destination.toList ++ ['/']) destination.toList url.toList place :=
      ⟨stands, fun holds => absurd holds away⟩
    obtain ⟨first, captures⟩ := exists_firstCapture inside captured
    obtain ⟨before, after, url_eq, rfl⟩ := captures.exists_split
    refine ⟨_, (redirects_iff _).mpr ⟨before, after, url_eq, captures,
      ⟨bytes, fun holds => absurd holds away⟩, rfl⟩, ?_⟩
    rw [slashed, ← url_eq, String.ofList_toList]

/-- When a rule that keeps the rest of a path, and is not warned about, redirects an address to
itself: what its filter matches there is the destination with its slash and the text of the first
group; and if the prefix is a literal text, the destination is that text, which lacks the slash, and
the address contains both. -/
theorem captured_to_itself_iff {rule : Rule} (kind_eq : rule.kind = .regex)
    (enabled : rule.enabled = true) {stem : List Char} {ending : String}
    (wild : ending ∈ wildcardEndings) (source_eq : rule.source.toList = stem ++ ending.toList)
    (placeless : Template.hasPlace rule.destination.toList = false)
    (clean : diagnose [rule] = []) (url : String) :
    ((simulate (compile [rule] true) url).map (·.destination) = some url ↔
        ∃ found, firstMatch? (captureFilter stem rule.destination).render url = some found ∧
          (url.toList.take found.stop).drop found.start =
            withSlash rule.destination ++ found.group url.toList 1) ∧
      ∀ head : String, stem = (escape head).toList →
        ((simulate (compile [rule] true) url).map (·.destination) = some url ↔
          rule.destination = head ∧ ¬['/'] <:+ head.toList ∧
            Text.byteLength (head.toList ++ ['/']) ≤ Limits.usualTailedBytes ∧
            head.toList ++ ['/'] <:+: url.toList) := by
  have captured : pathCapture? rule.source rule.destination =
      some (capture stem rule.destination) :=
    pathCapture?_eq_some_iff.mpr ⟨placeless, stem, ending, wild, source_eq, rfl⟩
  rw [compile_of_clean enabled clean]
  constructor
  · rw [simulate_captured kind_eq captured placeless, Option.map_map, Option.map_eq_some_iff]
    refine exists_congr fun found => and_congr_right fun first => ?_
    have ordered := start_le_stop_of_firstMatch? first
    rw [← String.toList_inj, eq_comm (b := withSlash rule.destination ++ _),
      ← replaced_eq_iff ordered]
    simp only [Function.comp, String.toList_ofList]
  · rintro head rfl
    have rule_eq : rule =
        { source := escape head ++ ending, destination := rule.destination, kind := .regex,
          enabled := rule.enabled, id := rule.id } := by
      rw [← String.toList_append, String.toList_inj] at source_eq
      rw [← source_eq, ← kind_eq]
    rw [rule_eq]
    exact literal_captured_to_itself_iff wild placeless rule.id url rule.enabled 1

/-- A rule that is not warned about redirects an address to itself. -/
theorem captured_to_itself_iff_bare :
    let rule : Rule :=
      { source := "http://a/*", destination := "http://a", kind := .regex, id := "r" }
    diagnose [rule] = [] ∧
      (simulate (compile [rule] true) "http://a/foo").map (·.destination) = some "http://a/foo" := by
  intro rule
  have clean : diagnose [rule] = [] := by decide +kernel
  refine ⟨clean, ?_⟩
  have kind_eq : rule.kind = .regex := rfl
  have wild : "/*" ∈ wildcardEndings := by decide
  have source_eq : rule.source.toList = "http://a".toList ++ "/*".toList := by decide
  have to_itself_iff :=
    (captured_to_itself_iff kind_eq rfl wild source_eq (by decide) clean "http://a/foo").2
      "http://a" (by decide)
  exact to_itself_iff.mpr ⟨rfl, by decide, by decide, [], "foo".toList, by decide⟩

end Redirects
