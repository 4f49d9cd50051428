import Redirects.Engine.Simulation

/-!
# Chains of redirects

From an address on, every redirect leads to the next address of a chain, which stops where no rule
applies.  A trace runs along this chain: it returns its first redirects in order, and it ends where
the chain stops, where an address comes a second time, or where the allowed redirects are used up.
The invariant of the run is `Met`: the addresses met so far are the first ones of the chain, and no
two of them are equal.
-/

namespace Redirects

/-- Where an address is sent, if a rule applies to it. -/
def destination? (rules : List DeclarativeRule) (url : String) : Option String :=
  (simulate rules url).map (·.destination)

/-- The address to which so many redirects lead, if the chain goes on that far. -/
def chainAt (rules : List DeclarativeRule) (start : String) : Nat → Option String
  | 0 => some start
  | count + 1 => (chainAt rules start count).bind (destination? rules)

/-- No address comes twice among those that at most so many redirects lead to. -/
def DistinctUpTo (rules : List DeclarativeRule) (start : String) (count : Nat) : Prop :=
  ∀ i j, i < j → j ≤ count → chainAt rules start i ≠ chainAt rules start j

/-- A chain that was followed for so many redirects, of so many that were allowed, has come to such
an end. -/
def ChainEnds (rules : List DeclarativeRule) (start : String) (allowed count : Nat) :
    TraceOutcome → Prop
  | .settled =>
    count < allowed ∧ DistinctUpTo rules start count ∧
      ∃ url, chainAt rules start count = some url ∧ simulate rules url = none
  | .loop =>
    1 ≤ count ∧ count ≤ allowed ∧ DistinctUpTo rules start (count - 1) ∧
      ∃ i < count, chainAt rules start i = chainAt rules start count
  | .hopLimit => count = allowed ∧ DistinctUpTo rules start count

variable {rules : List DeclarativeRule} {start url : String}

/-- A redirect starts at the address that was asked about. -/
theorem source_of_simulate {hit : Hit} (redirected : simulate rules url = some hit) :
    hit.source = url := by
  obtain ⟨rule, -, fired⟩ := List.exists_of_findSome?_eq_some redirected
  obtain ⟨destination, -, rfl⟩ := Option.map_eq_some_iff.mp fired
  rfl

section Chain

variable {count period : Nat}

theorem chainAt_succ_of_hit {hit : Hit} (here : chainAt rules start count = some url)
    (redirected : simulate rules url = some hit) :
    chainAt rules start (count + 1) = some hit.destination := by
  simp [chainAt, here, destination?, redirected]

theorem distinctUpTo_zero : DistinctUpTo rules start 0 := by
  intro i j before inside
  omega

/-- One more address keeps the addresses distinct if it is none of the earlier ones. -/
theorem DistinctUpTo.succ (distinct : DistinctUpTo rules start count)
    (fresh : ∀ i ≤ count, chainAt rules start i ≠ chainAt rules start (count + 1)) :
    DistinctUpTo rules start (count + 1) := by
  intro i j before inside
  rcases Nat.lt_or_eq_of_le inside with earlier | rfl
  · exact distinct i j before (Nat.le_of_lt_succ earlier)
  · exact fresh i (Nat.le_of_lt_succ before)

/-- Behind two equal addresses a chain goes on in the same way. -/
theorem chainAt_add_of_repeat {i j : Nat}
    (same : chainAt rules start i = chainAt rules start j) (more : Nat) :
    chainAt rules start (i + more) = chainAt rules start (j + more) := by
  induction more with
  | zero => exact same
  | succ more ih =>
      change (chainAt rules start (i + more)).bind _ = (chainAt rules start (j + more)).bind _
      rw [ih]

/-- A chain that is still going on was going on before. -/
theorem isSome_chainAt_of_le {i : Nat} (going : (chainAt rules start count).isSome = true)
    (earlier : i ≤ count) : (chainAt rules start i).isSome = true := by
  induction count with
  | zero =>
      obtain rfl : i = 0 := by omega
      exact going
  | succ count ih =>
      rcases Nat.lt_or_eq_of_le earlier with before | rfl
      · refine ih ?_ (Nat.le_of_lt_succ before)
        cases here : chainAt rules start count with
        | none => simp [chainAt, here] at going
        | some url => rfl
      · exact going

/-- A chain in which an address comes a second time never stops. -/
theorem isSome_chainAt_of_repeat {i : Nat} (before : i < count)
    (same : chainAt rules start i = chainAt rules start count)
    (going : (chainAt rules start count).isSome = true) (place : Nat) :
    (chainAt rules start place).isSome = true := by
  induction place using Nat.strongRecOn with
  | ind place ih =>
      by_cases inside : place ≤ count
      · exact isSome_chainAt_of_le going inside
      · -- one round back, the chain stands at the same address
        have back := chainAt_add_of_repeat same (place - count)
        rw [Nat.add_sub_cancel' (by omega)] at back
        rw [← back]
        exact ih _ (by omega)

end Chain

/-! ## Following the chain -/

/-- So many redirects lead to the address, and the addresses met on the way, it included, are
distinct. -/
structure Met (rules : List DeclarativeRule) (start : String) (met : List String) (url : String)
    (count : Nat) : Prop where
  here : chainAt rules start count = some url
  mem_iff : ∀ other, other ∈ met ↔ ∃ i ≤ count, chainAt rules start i = some other
  distinct : DistinctUpTo rules start count

namespace Met

variable {met : List String} {count : Nat} {hit : Hit}

theorem init (rules : List DeclarativeRule) (start : String) : Met rules start [start] start 0 where
  here := rfl
  mem_iff other := by
    simp [chainAt, eq_comm]
  distinct := distinctUpTo_zero

theorem next (reached : Met rules start met url count)
    (redirected : simulate rules url = some hit) (fresh : hit.destination ∉ met) :
    Met rules start (hit.destination :: met) hit.destination (count + 1) := by
  have there := chainAt_succ_of_hit reached.here redirected
  refine ⟨there, fun other => ?_, reached.distinct.succ fun i earlier same => ?_⟩
  · rw [List.mem_cons, reached.mem_iff]
    constructor
    · rintro (rfl | ⟨i, earlier, met_there⟩)
      · exact ⟨count + 1, Nat.le_refl _, there⟩
      · exact ⟨i, Nat.le_succ_of_le earlier, met_there⟩
    · rintro ⟨i, inside, met_there⟩
      rcases Nat.lt_or_eq_of_le inside with earlier | rfl
      · exact .inr ⟨i, Nat.le_of_lt_succ earlier, met_there⟩
      · exact .inl (Option.some.inj (met_there.symm.trans there))
  · exact fresh ((reached.mem_iff _).mpr ⟨i, earlier, same.trans there⟩)

theorem repeated (reached : Met rules start met url count)
    (redirected : simulate rules url = some hit) (known : hit.destination ∈ met) :
    ∃ i < count + 1, chainAt rules start i = chainAt rules start (count + 1) := by
  obtain ⟨i, earlier, met_there⟩ := (reached.mem_iff _).mp known
  exact ⟨i, Nat.lt_succ_of_le earlier,
    met_there.trans (chainAt_succ_of_hit reached.here redirected).symm⟩

end Met

/-- The redirects are those of the chain, from a place of it on. -/
def FollowsFrom (rules : List DeclarativeRule) (start : String) (count : Nat)
    (hops : List Hit) : Prop :=
  ∀ k hit, hops[k]? = some hit →
    ∃ url, chainAt rules start (count + k) = some url ∧ simulate rules url = some hit

theorem FollowsFrom.cons {count : Nat} {hit : Hit} {hops : List Hit}
    (here : chainAt rules start count = some url) (redirected : simulate rules url = some hit)
    (onward : FollowsFrom rules start (count + 1) hops) :
    FollowsFrom rules start count (hit :: hops) := by
  intro k other listed
  cases k with
  | zero => exact ⟨url, here, redirected.trans listed⟩
  | succ k =>
      rw [← Nat.succ_add_eq_add_succ]
      exact onward k other listed

/-- From a place of the chain on, a trace follows the chain to its end. -/
theorem traceFrom_follows {met : List String} {count : Nat}
    (reached : Met rules start met url count) (left : Nat) :
    FollowsFrom rules start count (traceFrom rules met url left).hops ∧
      ChainEnds rules start (count + left)
        (count + (traceFrom rules met url left).hops.length)
        (traceFrom rules met url left).outcome := by
  induction left generalizing met url count with
  | zero => exact ⟨by simp [FollowsFrom, traceFrom], rfl, reached.distinct⟩
  | succ left ih =>
      rw [traceFrom]
      cases redirected : simulate rules url with
      | none =>
          exact ⟨by simp [FollowsFrom], Nat.lt_add_of_pos_right left.succ_pos, reached.distinct,
            url, reached.here, redirected⟩
      | some hit =>
          by_cases known : hit.destination ∈ met
          · simp only [List.contains_iff_mem, known, if_true]
            refine ⟨.cons reached.here redirected (by simp [FollowsFrom]), Nat.succ_pos _, ?_,
              reached.distinct, reached.repeated redirected known⟩
            exact Nat.add_le_add_left (Nat.succ_pos _) count
          · obtain ⟨follows, ends⟩ := ih (reached.next redirected known)
            simp only [List.contains_iff_mem, known, if_false]
            refine ⟨.cons reached.here redirected follows, ?_⟩
            rw [List.length_cons, ← Nat.succ_add_eq_add_succ, ← Nat.succ_add_eq_add_succ]
            exact ends

/-- The redirects of a chain lead to the address at which their trace ends. -/
theorem chainAt_finalUrl {result : Trace} (follows : FollowsFrom rules start 0 result.hops) :
    chainAt rules start result.hops.length = some (result.finalUrl start) := by
  rw [Trace.finalUrl, List.getLast?_eq_getElem?]
  cases length_eq : result.hops.length with
  | zero => simp [List.length_eq_zero_iff.mp length_eq, chainAt]
  | succ count =>
      obtain ⟨hit, last⟩ : ∃ hit, result.hops[count]? = some hit :=
        ⟨_, List.getElem?_eq_getElem (by omega)⟩
      obtain ⟨url, here, redirected⟩ := follows count hit last
      rw [Nat.zero_add] at here
      simp [chainAt_succ_of_hit here redirected, last]

/-- With more redirects allowed a trace only goes on where it was broken off. -/
theorem traceFrom_more (met : List String) (url : String) (left more : Nat) :
    ((traceFrom rules met url left).outcome = .hopLimit →
        (traceFrom rules met url left).hops <+: (traceFrom rules met url (left + more)).hops) ∧
      ((traceFrom rules met url left).outcome ≠ .hopLimit →
        traceFrom rules met url (left + more) = traceFrom rules met url left) := by
  induction left generalizing met url with
  | zero => simp [traceFrom]
  | succ left ih =>
      rw [Nat.succ_add, traceFrom, traceFrom]
      cases simulate rules url with
      | none => simp
      | some hit =>
          by_cases known : hit.destination ∈ met
          · simp [known]
          · obtain ⟨goes_on, stays⟩ := ih (hit.destination :: met) hit.destination
            simp only [List.contains_iff_mem, known, if_false]
            refine ⟨fun broken_off => ?_, fun ended => ?_⟩
            · exact (List.prefix_cons_inj hit).mpr (goes_on broken_off)
            · rw [stays ended]

/-! ## How a chain ends -/

open scoped Classical in
/-- The end of a chain is a loop if its last address is an earlier one, and otherwise depends on
whether the allowed redirects are used up. -/
theorem ChainEnds.outcome_eq {allowed count : Nat} {outcome : TraceOutcome}
    (ends : ChainEnds rules start allowed count outcome) :
    outcome =
      if ∃ i < count, chainAt rules start i = chainAt rules start count then .loop
      else if count = allowed then .hopLimit
      else .settled := by
  have distinct_end (distinct : DistinctUpTo rules start count) :
      ¬∃ i < count, chainAt rules start i = chainAt rules start count :=
    fun ⟨i, before, same⟩ => distinct i count before (Nat.le_refl count) same
  cases outcome with
  | settled =>
      obtain ⟨unspent, distinct, -⟩ := ends
      rw [if_neg (distinct_end distinct), if_neg (Nat.ne_of_lt unspent)]
  | loop =>
      obtain ⟨-, -, -, came_back⟩ := ends
      rw [if_pos came_back]
  | hopLimit =>
      obtain ⟨spent, distinct⟩ := ends
      rw [if_neg (distinct_end distinct), if_pos spent]

/-- A trace runs along the chain of redirects from its start.  Its hops are the first redirects of
the chain in order, and the last of them leads to its final address.  It settled if the chain stops
behind them, all addresses being distinct and not all redirects used up; it is a loop if the last
address is an earlier one, and no address came twice before; and it was broken off if all redirects
are used up, all addresses being distinct.  A loop never stops, and with more redirects allowed a
trace that was broken off goes on, while any other stays as it is. -/
theorem trace_follows_chain (rules : List DeclarativeRule) (start : String) (maxHops : Nat) :
    let result := trace rules start maxHops
    (∀ k hit, result.hops[k]? = some hit →
        ∃ url, chainAt rules start k = some url ∧ simulate rules url = some hit ∧
          hit.source = url ∧ chainAt rules start (k + 1) = some hit.destination) ∧
      chainAt rules start result.hops.length = some (result.finalUrl start) ∧
      (∀ outcome, result.outcome = outcome ↔
        ChainEnds rules start maxHops result.hops.length outcome) ∧
      (result.outcome = .loop → ∀ k, (chainAt rules start k).isSome = true) ∧
      ∀ more,
        (result.outcome = .hopLimit → result.hops <+: (trace rules start (maxHops + more)).hops) ∧
        (result.outcome ≠ .hopLimit → trace rules start (maxHops + more) = result) := by
  intro result
  obtain ⟨follows, ends⟩ := traceFrom_follows (Met.init rules start) maxHops
  rw [Nat.zero_add, Nat.zero_add] at ends
  have final : chainAt rules start result.hops.length = some (result.finalUrl start) :=
    chainAt_finalUrl follows
  refine ⟨fun k hit listed => ?_, final, fun outcome => ?_, fun looped => ?_,
    traceFrom_more [start] start maxHops⟩
  · obtain ⟨url, here, redirected⟩ := follows k hit listed
    rw [Nat.zero_add] at here
    exact ⟨url, here, redirected, source_of_simulate redirected,
      chainAt_succ_of_hit here redirected⟩
  · constructor
    · rintro rfl
      exact ends
    · intro ends_so
      exact ends.outcome_eq.trans ends_so.outcome_eq.symm
  · have ends_so : ChainEnds rules start maxHops result.hops.length .loop := looped ▸ ends
    obtain ⟨-, -, -, i, before, same⟩ := ends_so
    exact isSome_chainAt_of_repeat before same (by rw [final]; rfl)

end Redirects
