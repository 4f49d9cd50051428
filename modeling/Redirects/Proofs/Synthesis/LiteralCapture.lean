import Redirects.Proofs.Synthesis.PathCapture

/-!
# Keeping the path behind a literal address

A rule with a literal prefix and a wildcard redirects an address at the first place where the prefix
and a slash stand, those left out where the destination begins if it holds both; the limits of the
pattern engine bound how far it looks.
-/

namespace Redirects

open Regex

/-- What a rule with a literal prefix looks for: the prefix and the slash behind it. -/
def captureNeedle (head : String) : List Char := head.toList ++ ['/']

/-- The needle stands at the place and, in case the destination holds it, the destination does not
begin there. -/
def CapturesAt (needle destination url : List Char) (place : Nat) : Prop :=
  needle <+: url.drop place ∧ (needle <:+: destination → ¬destination <+: url.drop place)

/-- The place is the first at which the needle is captured. -/
structure FirstCapture (needle destination url : List Char) (place : Nat) : Prop where
  inside : place ≤ url.length
  captures : CapturesAt needle destination url place
  before : ∀ earlier < place, ¬CapturesAt needle destination url earlier

/-- The limits of the pattern engine leave the place in reach: the needle is not too long and, in case
the destination is excluded, the search comes to the place and to the end of its line. -/
structure CaptureInReach (needle destination url : List Char) (place : Nat) : Prop where
  bytes : Text.byteLength needle ≤ Limits.usualTailedBytes
  search : needle <:+: destination → ¬OutOfReach url destination place needle.length

section Filter

variable (head : String) {destination url : String}

theorem render_captureTail_escape :
    (Pattern.captureTail (String.ofList (escape head).toList)).render =
      tailedText ((captureNeedle head).map .plain) := by
  have signs_eq : ((captureNeedle head).map Sign.plain).flatMap Sign.written =
      head.toList.flatMap escapeChar ++ ['/'] := by
    rw [List.flatMap_map, captureNeedle, List.flatMap_append]
    rfl
  apply String.toList_inj.mp
  rw [tailedText, signs_eq]
  simp [Pattern.render, escape, writtenTail]

theorem occursIn_captureTail_iff :
    (Pattern.captureTail (String.ofList (escape head).toList)).occursIn destination = true ↔
      Text.byteLength (captureNeedle head) ≤ Limits.usualTailedBytes ∧
        captureNeedle head <:+: destination.toList := by
  rw [Pattern.occursIn, render_captureTail_escape, matchesIn_eq_isSome, firstMatch?_tailed]
  split
  · next fits =>
      simp only [Option.isSome_map, List.find?_isSome, List.mem_range, Nat.lt_succ_iff,
        Text.infix_iff_exists_drop, standsAt_iff, fits, true_and]
  · next wide => simp [wide]

theorem render_captureFilter_of_holds
    (fits : Text.byteLength (captureNeedle head) ≤ Limits.usualTailedBytes)
    (holds : captureNeedle head <:+: destination.toList) :
    (captureFilter (escape head).toList destination).render =
      tailedText (.barred destination.toList :: (captureNeedle head).map .plain) := by
  rw [captureFilter, if_pos ((occursIn_captureTail_iff head).mpr ⟨fits, holds⟩), Pattern.render,
    render_captureTail_escape]
  apply String.toList_inj.mp
  simp [tailedText, escape, Sign.written]

theorem render_captureFilter_of_not
    (apart : ¬(Text.byteLength (captureNeedle head) ≤ Limits.usualTailedBytes ∧
      captureNeedle head <:+: destination.toList)) :
    (captureFilter (escape head).toList destination).render =
      tailedText ((captureNeedle head).map .plain) := by
  rw [captureFilter, if_neg (mt (occursIn_captureTail_iff head).mp apart),
    render_captureTail_escape]

/-- The first place of a range with a property. -/
theorem find?_range_succ_iff {p : Nat → Bool} {size place : Nat} :
    (List.range (size + 1)).find? p = some place ↔
      place ≤ size ∧ p place = true ∧ ∀ earlier < place, ¬p earlier = true := by
  rw [List.find?_range_eq_some, List.mem_range, Nat.lt_succ_iff]
  simp only [Bool.not_eq_true', Bool.not_eq_true]
  exact and_left_comm

/-- The leftmost match of the filter is the first place where the needle is captured, with the rest
of its line. -/
theorem firstMatch?_captureFilter_iff {found : Match} :
    firstMatch? (captureFilter (escape head).toList destination).render url = some found ↔
      ∃ place, FirstCapture (captureNeedle head) destination.toList url.toList place ∧
        CaptureInReach (captureNeedle head) destination.toList url.toList place ∧
        found = tailMatch url.toList place (captureNeedle head).length := by
  by_cases fits : Text.byteLength (captureNeedle head) ≤ Limits.usualTailedBytes
  · by_cases holds : captureNeedle head <:+: destination.toList
    · have captures_iff (place : Nat) : StandsUnbarred url.toList destination.toList
          (captureNeedle head) place = true ↔
          CapturesAt (captureNeedle head) destination.toList url.toList place := by
        rw [StandsUnbarred, Bool.and_eq_true, Bool.not_eq_true', ← Bool.not_eq_true, standsAt_iff,
          standsAt_iff, CapturesAt]
        simp only [holds, true_implies]
      rw [render_captureFilter_of_holds head fits holds, firstMatch?_barred_tailed _ _ _ fits,
        Option.bind_eq_some_iff]
      simp only [find?_range_succ_iff, captures_iff]
      constructor
      · rintro ⟨place, ⟨inside, captures, before⟩, reached⟩
        split at reached
        · contradiction
        · next near =>
            cases reached
            exact ⟨place, ⟨inside, captures, before⟩, ⟨fits, fun _ => near⟩, rfl⟩
      · rintro ⟨place, ⟨inside, captures, before⟩, reach, rfl⟩
        exact ⟨place, ⟨inside, captures, before⟩, if_neg (reach.search holds)⟩
    · have captures_iff (place : Nat) :
          standsAt url.toList.toArray (captureNeedle head) place = true ↔
          CapturesAt (captureNeedle head) destination.toList url.toList place := by
        rw [standsAt_iff, CapturesAt]
        simp only [holds, false_implies, and_true]
      rw [render_captureFilter_of_not head (fun both => holds both.2), firstMatch?_tailed,
        if_pos fits, Option.map_eq_some_iff]
      simp only [find?_range_succ_iff, captures_iff]
      constructor
      · rintro ⟨place, ⟨inside, captures, before⟩, rfl⟩
        exact ⟨place, ⟨inside, captures, before⟩, ⟨fits, fun held => absurd held holds⟩, rfl⟩
      · rintro ⟨place, ⟨inside, captures, before⟩, -, rfl⟩
        exact ⟨place, ⟨inside, captures, before⟩, rfl⟩
  · rw [render_captureFilter_of_not head (fun both => fits both.1), firstMatch?_tailed,
      if_neg fits]
    simp only [reduceCtorEq, false_iff]
    rintro ⟨place, -, reach, -⟩
    exact fits reach.bytes

end Filter

/-! ## Where the request goes -/

theorem pathCapture?_escape (head : String) {ending destination : String}
    (wild : ending ∈ wildcardEndings)
    (placeless : Template.hasPlace destination.toList = false) :
    pathCapture? (escape head ++ ending) destination =
      some (capture (escape head).toList destination) :=
  pathCapture?_eq_some_iff.mpr
    ⟨placeless, _, ending, wild, by rw [String.toList_append], rfl⟩

theorem FirstCapture.unique {needle destination url : List Char} {place other : Nat}
    (captures : FirstCapture needle destination url place)
    (other_captures : FirstCapture needle destination url other) : place = other := by
  rcases Nat.lt_trichotomy place other with lt | same | lt
  · exact absurd captures.captures (other_captures.before place lt)
  · exact same
  · exact absurd other_captures.captures (captures.before other lt)

theorem FirstCapture.exists_split {needle destination url : List Char} {place : Nat}
    (captures : FirstCapture needle destination url place) :
    ∃ before after, url = before ++ needle ++ after ∧ before.length = place := by
  obtain ⟨after, stands⟩ := captures.captures.1
  refine ⟨url.take place, after, ?_, ?_⟩
  · rw [List.append_assoc, stands, List.take_append_drop]
  · rw [List.length_take, Nat.min_eq_left captures.inside]

/-- The rest of the line that the group takes and the lines behind it are all that follows. -/
theorem destination_tailMatch (front : List Char) {url before needle after : List Char}
    (url_eq : url = before ++ needle ++ after) :
    let found := tailMatch url before.length needle.length
    url.take found.start ++ (front ++ found.group url 1) ++ url.drop found.stop =
      before ++ front ++ after := by
  intro found
  have split (start count : Nat) :
      (url.take (start + count)).drop start ++ url.drop (start + count) = url.drop start := by
    rw [List.drop_take, Nat.add_sub_cancel_left, ← List.drop_drop, List.take_append_drop]
  have line_eq : found.group url 1 ++ url.drop found.stop =
      url.drop (before.length + needle.length) := split _ _
  have before_eq : url.take found.start = before := by
    rw [url_eq, List.append_assoc]
    exact List.take_left
  have after_eq : url.drop (before.length + needle.length) = after := by
    rw [url_eq, ← List.length_append]
    exact List.drop_left
  rw [List.append_assoc, List.append_assoc, line_eq, before_eq, after_eq, List.append_assoc]

/-- A rule whose source is an escaped text with a wildcard behind it redirects an address at the first
place where it captures: what stands before is kept, the destination takes the place of the text and
its slash, and all that follows is kept, lines and all. -/
theorem simulate_literal_capture_iff (head : String) {ending destination : String}
    (wild : ending ∈ wildcardEndings)
    (placeless : Template.hasPlace destination.toList = false) (id url : String) (enabled : Bool)
    (number : UInt32) (hit : Hit) :
    let rule : Rule :=
      { source := escape head ++ ending, destination, kind := .regex, enabled, id }
    let needle := head.toList ++ ['/']
    simulate [(synthesize rule).emit number] url = some hit ↔
      ∃ before after, url.toList = before ++ needle ++ after ∧
        FirstCapture needle destination.toList url.toList before.length ∧
        CaptureInReach needle destination.toList url.toList before.length ∧
        hit = ⟨number, url, String.ofList (before ++ withSlash destination ++ after)⟩ := by
  intro rule needle
  have captured := pathCapture?_escape head wild placeless
  rw [simulate_captured (show rule.kind = .regex from rfl) captured placeless, Option.map_eq_some_iff]
  constructor
  · rintro ⟨found, first, rfl⟩
    obtain ⟨place, captures, reach, rfl⟩ := (firstMatch?_captureFilter_iff head).mp first
    obtain ⟨before, after, url_eq, rfl⟩ := captures.exists_split
    exact ⟨before, after, url_eq, captures, reach, by rw [destination_tailMatch _ url_eq]⟩
  · rintro ⟨before, after, url_eq, captures, reach, rfl⟩
    refine ⟨_, (firstMatch?_captureFilter_iff head).mpr ⟨_, captures, reach, rfl⟩, ?_⟩
    have needle_eq : captureNeedle head = needle := rfl
    rw [needle_eq, destination_tailMatch _ url_eq]

/-- Where a rule with a literal prefix sends an address. If the needle is captured nowhere, the rule
does not fire. Otherwise the destination, with a slash at its end, takes the place of the needle where
it is captured first; and the rule does not fire if that lies out of reach. -/
theorem simulate_literal_capture (head : String) {ending destination : String}
    (wild : ending ∈ wildcardEndings)
    (placeless : Template.hasPlace destination.toList = false) (id url : String) (enabled : Bool)
    (number : UInt32) :
    let rule : Rule :=
      { source := escape head ++ ending, destination, kind := .regex, enabled, id }
    let needle := head.toList ++ ['/']
    ((∀ place, ¬FirstCapture needle destination.toList url.toList place) →
        simulate [(synthesize rule).emit number] url = none) ∧
      ∀ before after, url.toList = before ++ needle ++ after →
        FirstCapture needle destination.toList url.toList before.length →
          (CaptureInReach needle destination.toList url.toList before.length →
            simulate [(synthesize rule).emit number] url =
              some ⟨number, url, String.ofList (before ++ withSlash destination ++ after)⟩) ∧
          (¬CaptureInReach needle destination.toList url.toList before.length →
            simulate [(synthesize rule).emit number] url = none) := by
  intro rule needle
  have redirects_iff := simulate_literal_capture_iff head wild placeless id url enabled
    number
  refine ⟨fun nowhere => ?_, fun before after url_eq captures => ⟨fun reach => ?_, fun beyond => ?_⟩⟩
  · refine Option.eq_none_iff_forall_ne_some.mpr fun hit fires => ?_
    obtain ⟨before, -, -, captures, -⟩ := (redirects_iff hit).mp fires
    exact nowhere _ captures
  · exact (redirects_iff _).mpr ⟨before, after, url_eq, captures, reach, rfl⟩
  · refine Option.eq_none_iff_forall_ne_some.mpr fun hit fires => ?_
    obtain ⟨other, -, -, other_captures, reach, -⟩ := (redirects_iff hit).mp fires
    exact beyond (captures.unique other_captures ▸ reach)

/-- The destination begins at the first occurrence, so that a later one is captured, with its lines. -/
theorem simulate_literal_capture_later :
    let rule : Rule :=
      { source := escape "a.b" ++ "/*", destination := "a.b/c", kind := .regex, id := "r" }
    simulate [(synthesize rule).emit 7] "a.b/c a.b/d\ne" =
      some ⟨7, "a.b/c a.b/d\ne", "a.b/c a.b/c/d\ne"⟩ := by
  intro rule
  have wild : "/*" ∈ wildcardEndings := by decide
  have placeless : Template.hasPlace "a.b/c".toList = false := by decide
  have sends := (simulate_literal_capture "a.b" wild placeless "r" "a.b/c a.b/d\ne" true 7).2
    "a.b/c ".toList "d\ne".toList (by decide)
  have holds : "a.b".toList ++ ['/'] <:+: "a.b/c".toList := ⟨[], ['c'], rfl⟩
  have begins : ∀ earlier < "a.b/c ".toList.length,
      "a.b".toList ++ ['/'] <+: "a.b/c a.b/d\ne".toList.drop earlier →
        "a.b/c".toList <+: "a.b/c a.b/d\ne".toList.drop earlier := by decide
  have captures : FirstCapture ("a.b".toList ++ ['/']) "a.b/c".toList "a.b/c a.b/d\ne".toList
      "a.b/c ".toList.length :=
    ⟨by decide, ⟨by decide, fun _ => by decide⟩,
      fun earlier lt held => held.2 holds (begins earlier lt held.1)⟩
  have reach : CaptureInReach ("a.b".toList ++ ['/']) "a.b/c".toList "a.b/c a.b/d\ne".toList
      "a.b/c ".toList.length := ⟨by decide, fun _ => by decide⟩
  exact (sends captures).1 reach

/-- Behind a run of other characters the needle is captured first. -/
theorem firstCapture_behind_run (count : Nat) :
    FirstCapture ['a', '/'] ['a', '/', 'b'] (List.replicate count 'c' ++ ['a', '/', 'x']) count where
  inside := by simp
  captures := by
    rw [CapturesAt, List.drop_left' List.length_replicate]
    exact ⟨by decide, fun _ => by decide⟩
  before earlier lt captures := by
    obtain ⟨rest, stands⟩ := captures.1
    have head_eq := congrArg List.head? stands
    rw [List.head?_drop, List.getElem?_append_left (by simpa using lt)] at head_eq
    simp [lt] at head_eq

/-- Where a destination holds the needle, an occurrence that lies too far from the front is passed by,
though it is the first and the destination does not begin there. -/
theorem simulate_literal_capture_far :
    let url := String.ofList (List.replicate 1000100 'c' ++ ['a', '/', 'x'])
    let rule : Rule :=
      { source := escape "a" ++ "/*", destination := "a/b", kind := .regex, id := "r" }
    "/*" ∈ wildcardEndings ∧ Template.hasPlace rule.destination.toList = false ∧
      FirstCapture ['a', '/'] rule.destination.toList url.toList 1000100 ∧
      simulate [(synthesize rule).emit 1] url = none := by
  intro url rule
  have wild : "/*" ∈ wildcardEndings := by decide
  have placeless : Template.hasPlace "a/b".toList = false := by decide
  have captures : FirstCapture ['a', '/'] rule.destination.toList url.toList 1000100 := by
    have url_eq : url.toList = List.replicate 1000100 'c' ++ ['a', '/', 'x'] :=
      String.toList_ofList
    have destination_eq : rule.destination.toList = ['a', '/', 'b'] := by decide
    rw [url_eq, destination_eq]
    exact firstCapture_behind_run 1000100
  refine ⟨wild, placeless, captures, Option.eq_none_iff_forall_ne_some.mpr fun hit fires => ?_⟩
  obtain ⟨before, after, -, first, reach, -⟩ :=
    (simulate_literal_capture_iff _ wild placeless "r" url true 1 hit).mp fires
  -- the capture lies behind the run, and the search spends a retreat at each place of the run
  have far : 1000100 ≤ before.length :=
    Nat.le_of_not_lt fun sooner => captures.before _ sooner first.captures
  have beyond : OutOfReach url.toList "a/b".toList before.length 2 := by
    have spent : exceeds 1000102 ({} : Limits).retreats = true := rfl
    refine .inl (exceeds_of_le ?_ spent)
    rw [retreatsBefore]
    omega
  exact reach.search ⟨[], ['b'], rfl⟩ beyond

end Redirects
