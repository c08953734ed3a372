import CanonicalLR.Proofs.Table.Slots

namespace CanonicalLR

/-- The table holds the action that a conflict calls chosen, and not the one before it. -/
def Table.Keeps (table : Table) (conflict : Conflict) : Prop :=
  table.action? conflict.state conflict.terminal = some conflict.chosen ∧
    table.action? conflict.state conflict.terminal ≠ some conflict.previous

/-! ### Chains of changes -/

theorem ne_of_mem_overruled {claims : List Action} {change : Action × Action}
    (member : change ∈ overruled claims) : change.1 ≠ change.2 := by
  simpa using (List.mem_filter.mp member).2

theorem getLast?_eq_of_overruled (first : Action) (rest : List Action) :
    (first :: rest).getLast? =
      some (((overruled (first :: rest)).getLast?.map (·.2)).getD first) := by
  induction rest generalizing first with
  | nil => rfl
  | cons next rest ih =>
      rw [List.getLast?_cons_cons, ih, overruled_cons_cons]
      split
      · rename_i same
        rw [same]
      · rw [List.getLast?_cons]
        cases (overruled (next :: rest)).getLast? <;> rfl

theorem isChain_overruled (first : Action) (rest : List Action) :
    ((overruled (first :: rest)).IsChain fun earlier later => earlier.2 = later.1) ∧
      ∀ change ∈ (overruled (first :: rest)).head?, first = change.1 := by
  induction rest generalizing first with
  | nil => exact ⟨.nil, nofun⟩
  | cons next rest ih =>
      rw [overruled_cons_cons]
      split
      · rename_i same
        rw [same]
        exact ih next
      · refine ⟨List.isChain_cons.mpr ⟨(ih next).2, (ih next).1⟩, ?_⟩
        rintro _ ⟨⟩
        rfl

namespace Table

variable {vocabulary : Vocabulary} {source : Grammar} {root : RuleId} {grammar : FlatGrammar}
  {state : Nat} {terminal : Terminal} {conflict : Conflict}

theorem mem_conflictsAt {table : Table} :
    conflict ∈ table.conflictsAt state terminal ↔
      conflict ∈ table.conflicts ∧ conflict.state = state ∧ conflict.terminal = terminal := by
  rw [conflictsAt, List.mem_filter, decide_eq_true_eq]

theorem previous_ne_chosen
    (member : conflict ∈ (canonical vocabulary grammar).conflictsAt state terminal) :
    conflict.previous ≠ conflict.chosen := by
  have changed : conflict.change ∈ overruled (grammar.claimsTo state terminal) := by
    rw [← change_conflictsAt vocabulary]
    exact List.mem_map_of_mem member
  exact ne_of_mem_overruled changed

theorem isChain_conflictsAt (vocabulary : Vocabulary) (grammar : FlatGrammar) (state : Nat)
    (terminal : Terminal) :
    ((canonical vocabulary grammar).conflictsAt state terminal).IsChain
      fun earlier later => earlier.chosen = later.previous := by
  have chain : (((canonical vocabulary grammar).conflictsAt state terminal).map
      Conflict.change).IsChain fun earlier later => earlier.2 = later.1 := by
    rw [change_conflictsAt]
    cases grammar.claimsTo state terminal with
    | nil => exact .nil
    | cons first rest => exact (isChain_overruled first rest).1
  exact (List.isChain_map _).mp chain

theorem action?_of_getLast?
    (last : ((canonical vocabulary grammar).conflictsAt state terminal).getLast? = some conflict) :
    (canonical vocabulary grammar).action? state terminal = some conflict.chosen := by
  have change : (overruled (grammar.claimsTo state terminal)).getLast? = some conflict.change := by
    rw [← change_conflictsAt vocabulary, List.getLast?_map, last, Option.map_some]
  rw [action?_eq_getLast?]
  cases claimed : grammar.claimsTo state terminal with
  | nil =>
      rw [claimed] at change
      cases change
  | cons first rest =>
      rw [claimed] at change
      rw [getLast?_eq_of_overruled, change]
      rfl

theorem keeps_of_getLast?
    (last : ((canonical vocabulary grammar).conflictsAt state terminal).getLast? = some conflict) :
    (canonical vocabulary grammar).Keeps conflict := by
  have member := List.mem_of_getLast? last
  obtain ⟨_, rfl, rfl⟩ := mem_conflictsAt.mp member
  have acts := action?_of_getLast? last
  refine ⟨acts, fun before => previous_ne_chosen member ?_⟩
  rw [acts] at before
  exact (Option.some.inj before).symm

theorem not_keeps_of_two {front : List Conflict} {earlier later : Conflict}
    (split : (canonical vocabulary grammar).conflictsAt state terminal =
      front ++ [earlier, later]) : ¬ (canonical vocabulary grammar).Keeps earlier := by
  rintro ⟨acts, _⟩
  have within (conflict : Conflict) (member : conflict ∈ [earlier, later]) :
      conflict ∈ (canonical vocabulary grammar).conflictsAt state terminal := by
    rw [split]
    exact List.mem_append_right front member
  obtain ⟨_, rfl, rfl⟩ := mem_conflictsAt.mp (within earlier (by simp))
  -- The later conflict puts another action in the place of what the earlier one calls chosen.
  have replaced : earlier.chosen = later.previous := by
    have chain := isChain_conflictsAt vocabulary grammar earlier.state earlier.terminal
    rw [split] at chain
    simpa using chain.right_of_append
  have stands : (canonical vocabulary grammar).action? earlier.state earlier.terminal =
      some later.chosen := by
    apply action?_of_getLast?
    rw [split]
    simp
  rw [acts, Option.some.injEq, replaced] at stands
  exact previous_ne_chosen (within later (by simp)) stands

/-- Of the conflicts that were recorded for a slot the last one tells what the table does, and what
each of them calls chosen is what the next one replaces. So all of them tell what the table does
if and only if there is no more than one. -/
theorem keeps_exact {table : Table} (ok : (build vocabulary source root).1 = .ok table)
    (state : Nat) (terminal : Terminal) :
    (∀ conflict, (table.conflictsAt state terminal).getLast? = some conflict →
      table.Keeps conflict) ∧
    ((table.conflictsAt state terminal).IsChain
      fun earlier later => earlier.chosen = later.previous) ∧
    ((∀ conflict ∈ table.conflictsAt state terminal, table.Keeps conflict) ↔
      (table.conflictsAt state terminal).length ≤ 1) := by
  obtain ⟨grammar, _, rfl⟩ := build_eq_ok_iff.mp ok
  refine ⟨fun _ last => keeps_of_getLast? last,
    isChain_conflictsAt vocabulary grammar state terminal, ?_, ?_⟩
  · intro keep
    by_contra several
    rcases List.eq_nil_or_concat' ((canonical vocabulary grammar).conflictsAt state terminal) with
      none | ⟨before, later, split⟩
    · simp [none] at several
    · rcases List.eq_nil_or_concat' before with rfl | ⟨front, earlier, rfl⟩
      · simp [split] at several
      · rw [List.append_assoc] at split
        refine not_keeps_of_two split (keep earlier ?_)
        rw [split]
        simp
  · intro few conflict member
    obtain ⟨only, alone⟩ := List.length_eq_one_iff.mp
      (few.antisymm (List.length_pos_of_mem member))
    rw [alone, List.mem_singleton] at member
    subst member
    have last : ((canonical vocabulary grammar).conflictsAt state terminal).getLast? =
        some conflict := by
      rw [alone, List.getLast?_singleton]
    exact keeps_of_getLast? last

theorem build_threefold :
    (build {} Grammar.threefold 0).1 = .ok (canonical {} Grammar.flatThreefold) :=
  build_eq_ok_iff.mpr ⟨_, Grammar.flatten_threefold, rfl⟩

theorem keeps_exact_threefold :
    (build {} Grammar.threefold 0).1 = .ok (canonical {} Grammar.flatThreefold) ∧
      ¬ ∀ conflict ∈ (canonical {} Grammar.flatThreefold).conflictsAt 1 Terminal.eof,
        (canonical {} Grammar.flatThreefold).Keeps conflict := by
  obtain ⟨_, _, exact⟩ := keeps_exact build_threefold 1 Terminal.eof
  refine ⟨build_threefold, fun keep => absurd (exact.mp keep) ?_⟩
  decide +kernel

/-- The first of two conflicts calls an action chosen that is not in the table. -/
theorem not_keeps_threefold :
    (build {} Grammar.threefold 0).1 = .ok (canonical {} Grammar.flatThreefold) ∧
      ⟨1, Terminal.eof, .reduce 4, .reduce 5⟩ ∈ (canonical {} Grammar.flatThreefold).conflicts ∧
      (canonical {} Grammar.flatThreefold).action? 1 Terminal.eof = some (.reduce 6) ∧
      ¬ (canonical {} Grammar.flatThreefold).Keeps ⟨1, Terminal.eof, .reduce 4, .reduce 5⟩ := by
  have acts : (canonical {} Grammar.flatThreefold).action? 1 Terminal.eof = some (.reduce 6) := by
    decide +kernel
  refine ⟨build_threefold, by decide +kernel, acts, ?_⟩
  rintro ⟨kept, _⟩
  rw [acts] at kept
  cases kept

end Table

end CanonicalLR
