import Redirects.Cycle

/-!
# Walks and endless chains

A walk comes back to an address exactly when the chain of addresses from its start never stops.  The
invariant is `Trail`: what the walk has met, and where it goes on, are determined by its start.  No
address is met twice, so a walk with more steps than there are sources is never cut short.
-/

namespace Redirects

/-- A chain of related things starts here and never stops. -/
def Endless {α : Type} (related : α → α → Prop) (start : α) : Prop :=
  ∃ chain : Nat → α, chain 0 = start ∧ ∀ n, related (chain n) (chain (n + 1))

namespace Endless

variable {α : Type} {related : α → α → Prop}

/-- Whatever can always go on inside a region starts an endless chain. -/
theorem of_region (inside : α → Prop)
    (onward : ∀ here, inside here → ∃ there, related here there ∧ inside there) {start : α}
    (start_inside : inside start) : Endless related start := by
  let next (here : { here // inside here }) : { there // inside there } :=
    ⟨(onward here here.2).choose, (onward here here.2).choose_spec.2⟩
  let chain (n : Nat) : { here // inside here } :=
    Nat.rec ⟨start, start_inside⟩ (fun _ => next) n
  refine ⟨fun n => (chain n).1, rfl, fun n => ?_⟩
  exact (onward (chain n).1 (chain n).2).choose_spec.1

theorem onward {start : α} (endless : Endless related start) :
    ∃ there, related start there ∧ Endless related there := by
  obtain ⟨chain, rfl, linked⟩ := endless
  exact ⟨chain 1, linked 0, fun n => chain (n + 1), rfl, fun n => linked (n + 1)⟩

theorem mono {other : α → α → Prop} (weaker : ∀ here there, related here there → other here there)
    {start : α} (endless : Endless related start) : Endless other start := by
  obtain ⟨chain, chain_zero, linked⟩ := endless
  exact ⟨chain, chain_zero, fun n => weaker _ _ (linked n)⟩

end Endless

namespace Cycle

variable {next? : String → Option String} {start url : String} {met : List String}
  {current : Option String}

/-- What a walk has met, latest first, and where it goes on. -/
inductive Trail (next? : String → Option String) (start : String) :
    List String → Option String → Prop where
  | start : Trail next? start [] (some start)
  | step {met : List String} {url : String} :
      Trail next? start met (some url) → url ∉ met → Trail next? start (url :: met) (next? url)

namespace Trail

theorem nodup (trail : Trail next? start met current) : met.Nodup := by
  induction trail with
  | start => exact List.nodup_nil
  | step _ fresh ih => exact List.nodup_cons.mpr ⟨fresh, ih⟩

/-- The start is met first. -/
theorem start_mem (trail : Trail next? start met current) :
    start ∈ met ∨ met = [] ∧ current = some start := by
  induction trail with
  | start => exact Or.inr ⟨rfl, rfl⟩
  | step _ _ ih =>
      rcases ih with met_start | ⟨_, current_eq⟩
      · exact Or.inl (List.mem_cons_of_mem _ met_start)
      · exact Or.inl (Option.some.inj current_eq ▸ List.mem_cons_self)

/-- From every address met, the walk went on to one that it met or to where it goes on. -/
theorem next_eq (trail : Trail next? start met current) (url_met : url ∈ met) :
    next? url = current ∨ ∃ there ∈ met, next? url = some there := by
  induction trail with
  | start => exact absurd url_met List.not_mem_nil
  | step _ _ ih =>
      rcases List.mem_cons.mp url_met with rfl | earlier
      · exact Or.inl rfl
      · rcases ih earlier with next_current | ⟨there, there_met, next_there⟩
        · exact Or.inr ⟨_, List.mem_cons_self, next_current⟩
        · exact Or.inr ⟨there, List.mem_cons_of_mem _ there_met, next_there⟩

/-- The start is followed by the addresses that the walk met, each led to by the one before it, and
the last of them leads to where the walk goes on. -/
theorem next_at (trail : Trail next? start met current) {index : Nat}
    (indexed : met.reverse[index]? = some url) :
    next? url = (met.reverse ++ current.toList)[index + 1]? := by
  induction trail generalizing url with
  | start => simp at indexed
  | @step met last trail _ ih =>
      rw [List.reverse_cons] at indexed ⊢
      have index_le : index < (met.reverse ++ [last]).length :=
        (List.getElem?_eq_some_iff.mp indexed).1
      rcases Nat.lt_or_eq_of_le (Nat.le_of_lt_succ (by simpa using index_le)) with earlier | rfl
      · rw [List.getElem?_append_left (by simpa using earlier)] at indexed
        have index_lt : index + 1 < (met.reverse ++ [last]).length := by simpa using earlier
        rw [ih indexed, List.getElem?_append_left index_lt]
        rfl
      · obtain rfl : last = url := by simpa using indexed
        cases next? last <;> simp

theorem head?_eq (trail : Trail next? start met current) :
    (met.reverse ++ current.toList).head? = some start := by
  induction trail with
  | start => rfl
  | step _ _ ih =>
      rw [Option.toList_some] at ih
      rw [List.reverse_cons, List.head?_append, ih, Option.some_or]

theorem inside (inside : String → Prop) (start_inside : inside start)
    (next_inside : ∀ here there, next? here = some there → inside there)
    (trail : Trail next? start met current) :
    (∀ url ∈ met, inside url) ∧ ∀ url, current = some url → inside url := by
  induction trail with
  | start => exact ⟨by simp, fun url url_eq => Option.some.inj url_eq ▸ start_inside⟩
  | @step met url _ _ ih =>
      refine ⟨?_, next_inside url⟩
      intro earlier earlier_met
      rcases List.mem_cons.mp earlier_met with rfl | earlier_met
      · exact ih.2 earlier rfl
      · exact ih.1 earlier earlier_met

/-- A walk that still goes on has met sources only. -/
theorem length_le_of_some {sources : List String}
    (next_source : ∀ here ∈ met, (next? here).isSome → here ∈ sources)
    (trail : Trail next? start met (some url)) : met.length ≤ sources.length := by
  apply trail.nodup.length_le_of_subset
  intro earlier earlier_met
  apply next_source earlier earlier_met
  rcases trail.next_eq earlier_met with next_url | ⟨there, _, next_there⟩
  · simp [next_url]
  · simp [next_there]

theorem length_le {sources : List String}
    (next_source : ∀ here ∈ met, (next? here).isSome → here ∈ sources)
    (trail : Trail next? start met current) : met.length ≤ sources.length + 1 := by
  cases trail with
  | start => exact Nat.zero_le _
  | step earlier _ =>
      have earlier_source := (List.forall_mem_cons.mp next_source).2
      exact Nat.succ_le_succ (earlier.length_le_of_some earlier_source)

/-- An endless chain carries the walk on. -/
theorem endless_current (trail : Trail next? start met current)
    (endless : Endless (fun here there => next? here = some there) start) :
    ∃ there, current = some there ∧
      Endless (fun here there => next? here = some there) there := by
  induction trail with
  | start => exact ⟨start, rfl, endless⟩
  | step _ _ ih =>
      obtain ⟨there, there_eq, onward⟩ := ih
      obtain rfl := Option.some.inj there_eq
      exact onward.onward

/-- A walk that came back shows only addresses from which the chain never stops. -/
theorem endless_of_mem (trail : Trail next? start met (some url)) (came_back : url ∈ met)
    {here : String} (here_met : here ∈ met) :
    Endless (fun here there => next? here = some there) here := by
  refine Endless.of_region (· ∈ met) (fun here here_met => ?_) here_met
  rcases trail.next_eq here_met with next_url | ⟨there, there_met, next_there⟩
  · exact ⟨url, next_url, came_back⟩
  · exact ⟨there, next_there, there_met⟩

end Trail

/-- How a walk ends: it came back, it had nowhere to go on, or its steps were used up. -/
theorem walk_trail (steps : Nat) (trail : Trail next? start met current) :
    ∃ last stop, Trail next? start last stop ∧
      ((∃ url ∈ last, stop = some url) ∧ walk next? steps met current = (last.reverse, true) ∨
        (stop = none ∨ last.length = met.length + steps) ∧
          walk next? steps met current = (last.reverse, false)) := by
  induction steps generalizing met current with
  | zero =>
      refine ⟨met, current, trail, Or.inr ⟨Or.inr rfl, ?_⟩⟩
      cases current <;> rfl
  | succ steps ih =>
      cases current with
      | none => exact ⟨met, none, trail, Or.inr ⟨Or.inl rfl, rfl⟩⟩
      | some url =>
          by_cases came_back : url ∈ met
          · refine ⟨met, some url, trail, Or.inl ⟨⟨url, came_back, rfl⟩, ?_⟩⟩
            simp [walk, came_back]
          · obtain ⟨last, stop, last_trail, ending⟩ := ih (trail.step came_back)
            refine ⟨last, stop, last_trail, ?_⟩
            have unfolded : walk next? (steps + 1) met (some url) =
                walk next? steps (url :: met) (next? url) := by
              simp [walk, came_back]
            rw [unfolded]
            simpa [Nat.add_comm, Nat.add_left_comm] using ending

/-! ## Walks with steps enough -/

section

variable {sources : List String} {steps : Nat}
  (next_source : ∀ url, (next? url).isSome → url ∈ sources)
  (enough : sources.length + 2 ≤ steps)

include next_source enough

/-- With more steps than there are sources, a walk came back or had nowhere to go on. -/
theorem walk_start (start : String) :
    ∃ met current, Trail next? start met current ∧
      ((∃ url ∈ met, current = some url) ∧
          walk next? steps [] (some start) = (met.reverse, true) ∨
        current = none ∧ walk next? steps [] (some start) = (met.reverse, false)) := by
  obtain ⟨met, current, trail, came_back | ⟨stopped, walk_eq⟩⟩ :=
    walk_trail steps (Trail.start : Trail next? start [] (some start))
  · exact ⟨met, current, trail, Or.inl came_back⟩
  · refine ⟨met, current, trail, Or.inr ⟨?_, walk_eq⟩⟩
    have bound := trail.length_le fun here _ => next_source here
    rcases stopped with stopped | exhausted
    · exact stopped
    · simp only [List.length_nil] at exhausted
      omega

theorem start_mem_walk : start ∈ (walk next? steps [] (some start)).1 := by
  obtain ⟨met, current, trail, ending⟩ := walk_start next_source enough start
  have start_met : start ∈ met := by
    rcases trail.start_mem with start_met | ⟨rfl, rfl⟩
    · exact start_met
    · simp at ending
  rcases ending with ⟨_, walk_eq⟩ | ⟨_, walk_eq⟩ <;> simpa [walk_eq] using start_met

/-- A walk comes back exactly when the chain from its start never stops. -/
theorem walk_closed_iff :
    (walk next? steps [] (some start)).2 = true ↔
      Endless (fun here there => next? here = some there) start := by
  obtain ⟨met, current, trail, ending⟩ := walk_start next_source enough start
  rcases ending with ⟨⟨url, came_back, rfl⟩, walk_eq⟩ | ⟨rfl, walk_eq⟩
  · have start_met : start ∈ met := by
      rcases trail.start_mem with start_met | ⟨rfl, _⟩
      · exact start_met
      · exact absurd came_back List.not_mem_nil
    simpa [walk_eq] using trail.endless_of_mem came_back start_met
  · have not_endless : ¬Endless (fun here there => next? here = some there) start := by
      intro endless
      obtain ⟨there, none_eq, _⟩ := trail.endless_current endless
      cases none_eq
    simpa [walk_eq] using not_endless

/-- Every address on a walk that comes back is the start of an endless chain. -/
theorem endless_of_mem_walk (closed : (walk next? steps [] (some start)).2 = true)
    (on_walk : url ∈ (walk next? steps [] (some start)).1) :
    Endless (fun here there => next? here = some there) url := by
  obtain ⟨met, current, trail, ⟨⟨last, came_back, rfl⟩, walk_eq⟩ | ⟨rfl, walk_eq⟩⟩ :=
    walk_start next_source enough start
  · rw [walk_eq] at on_walk
    exact trail.endless_of_mem came_back (List.mem_reverse.mp on_walk)
  · simp [walk_eq] at closed

/-- A walk stays inside a region that holds its start and every address that is sent to. -/
theorem mem_walk_of_region (inside : String → Prop) (start_inside : inside start)
    (next_inside : ∀ here there, next? here = some there → inside there)
    (on_walk : url ∈ (walk next? steps [] (some start)).1) : inside url := by
  obtain ⟨met, current, trail, ending⟩ := walk_start next_source enough start
  have url_met : url ∈ met := by
    rcases ending with ⟨_, walk_eq⟩ | ⟨_, walk_eq⟩ <;> simpa [walk_eq] using on_walk
  exact (trail.inside inside start_inside next_inside).1 url url_met

end

end Cycle

end Redirects
