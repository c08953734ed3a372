import CanonicalLR.Proofs.Item.Collection
import CanonicalLR.Proofs.Ordered.Bisection
import CanonicalLR.Table.Construction

namespace CanonicalLR

/-! ### Rows that claims fill -/

def fill (row : OrderedMap Terminal Action) (claims : List (Terminal × Action)) :
    OrderedMap Terminal Action :=
  claims.foldl (fun row (terminal, action) => row.insert terminal action) row

theorem get?_fill (row : OrderedMap Terminal Action) (claims : List (Terminal × Action))
    (terminal : Terminal) :
    (fill row claims).get? terminal =
      ((claims.filter (·.1 = terminal)).getLast?.map (·.2)).or (row.get? terminal) := by
  induction claims generalizing row with
  | nil => rfl
  | cons claim rest ih =>
      obtain ⟨claimed, action⟩ := claim
      have step : fill row ((claimed, action) :: rest) = fill (row.insert claimed action) rest := rfl
      rw [step, ih]
      by_cases same : claimed = terminal
      · subst same
        rw [List.filter_cons_of_pos (by simp), List.getLast?_cons, OrderedMap.get?_insert,
          if_pos rfl]
        cases (rest.filter (·.1 = claimed)).getLast? <;> simp
      · rw [List.filter_cons_of_neg (by simpa using same), OrderedMap.get?_insert,
          if_neg (Ne.symm same)]

theorem get?_rowOf (claims : List (Terminal × Action)) (terminal : Terminal) :
    (rowOf claims).get? terminal =
      (claims.filter (·.1 = terminal)).getLast?.map (·.2) := by
  rw [show rowOf claims = fill .empty claims from rfl, get?_fill, OrderedMap.get?_empty,
    Option.or_none]

theorem mem_of_get?_rowOf {claims : List (Terminal × Action)} {terminal : Terminal}
    {action : Action} (found : (rowOf claims).get? terminal = some action) :
    (terminal, action) ∈ claims := by
  rw [get?_rowOf] at found
  obtain ⟨claim, last, rfl⟩ := Option.map_eq_some_iff.mp found
  obtain ⟨member, same⟩ := List.mem_filter.mp (List.mem_of_getLast? last)
  rw [← of_decide_eq_true same]
  exact member

theorem get?_fill_of_no_conflict {state : Nat} {row : OrderedMap Terminal Action}
    {claims : List (Terminal × Action)} (free : conflictsAmong state row claims = [])
    {terminal : Terminal} {action : Action}
    (claimed : (terminal, action) ∈ claims ∨ row.get? terminal = some action) :
    (fill row claims).get? terminal = some action := by
  induction claims generalizing row with
  | nil => exact claimed.resolve_left List.not_mem_nil
  | cons claim rest ih =>
      obtain ⟨other, chosen⟩ := claim
      have later : conflictsAmong state (row.insert other chosen) rest = [] := by
        simp only [conflictsAmong] at free
        split at free
        · exact free
        · split at free
          · exact free
          · cases free
      have agrees {previous : Action} (held : row.get? other = some previous) :
          previous = chosen := by
        simp only [conflictsAmong, held] at free
        by_contra differ
        rw [if_neg differ] at free
        cases free
      apply ih later
      by_cases same : terminal = other
      · subst same
        rw [OrderedMap.get?_insert, if_pos rfl]
        rcases claimed with member | held
        · rcases List.mem_cons.mp member with equal | member
          · cases equal
            exact .inr rfl
          · exact .inl member
        · exact .inr (congrArg some (agrees held).symm)
      · rw [OrderedMap.get?_insert, if_neg same]
        rcases claimed with member | held
        · rcases List.mem_cons.mp member with equal | member
          · cases equal
            exact absurd rfl same
          · exact .inl member
        · exact .inr held

theorem get?_rowOf_of_no_conflict {state : Nat} {claims : List (Terminal × Action)}
    (free : conflictsAmong state .empty claims = []) {terminal : Terminal} {action : Action}
    (claimed : (terminal, action) ∈ claims) : (rowOf claims).get? terminal = some action :=
  get?_fill_of_no_conflict free (.inl claimed)

/-! ### Looking up in rows -/

theorem pairwise_actionCells (row : OrderedMap Terminal Action) :
    (actionCells row).toList.Pairwise (·.terminal < ·.terminal) :=
  List.pairwise_map.mpr row.increasing

theorem bisect_actionCells (row : OrderedMap Terminal Action) (terminal : Terminal) :
    (bisect ActionCell.terminal terminal (actionCells row)).map (·.action) =
      row.get? terminal := by
  ext action
  rw [row.get?_eq_some_iff]
  simp only [Option.map_eq_some_iff, bisect_eq_some_iff (pairwise_actionCells row)]
  simp only [actionCells, List.mem_toArray, List.mem_map, Prod.exists]
  constructor
  · rintro ⟨_, ⟨⟨other, claimed, member, rfl⟩, rfl⟩, rfl⟩
    exact member
  · intro member
    exact ⟨_, ⟨⟨terminal, action, member, rfl⟩, rfl⟩, rfl⟩

theorem pairwise_gotoCells (state : State) :
    state.gotoCells.toList.Pairwise (·.nonterminal < ·.nonterminal) := by
  apply List.Pairwise.filterMap _ _ state.transitions.increasing
  rintro ⟨first, target⟩ ⟨second, other⟩ less _ found _ foundOther
  cases first with
  | terminal _ => cases found
  | nonterminal _ =>
      cases second with
      | terminal _ => cases foundOther
      | nonterminal _ =>
          cases found
          cases foundOther
          exact less

theorem bisect_gotoCells (state : State) (nonterminal : Nat) :
    (bisect GotoCell.nonterminal nonterminal state.gotoCells).map (·.state) =
      state.transitions.get? (.nonterminal nonterminal) := by
  ext target
  rw [state.transitions.get?_eq_some_iff]
  simp only [Option.map_eq_some_iff, bisect_eq_some_iff (pairwise_gotoCells state)]
  simp only [State.gotoCells, List.mem_toArray, List.mem_filterMap, Prod.exists,
    Option.map_eq_some_iff]
  constructor
  · rintro ⟨_, ⟨⟨symbol, other, member, number, found, rfl⟩, rfl⟩, rfl⟩
    cases symbol with
    | terminal _ => cases found
    | nonterminal _ =>
        cases found
        exact member
  · intro member
    exact ⟨_, ⟨⟨_, target, member, nonterminal, rfl, rfl⟩, rfl⟩, rfl⟩

namespace Table

variable {vocabulary : Vocabulary} {grammar : FlatGrammar} {automaton : Automaton}

theorem action?_ofAutomaton (state : Nat) (terminal : Terminal) :
    (ofAutomaton vocabulary grammar automaton).action? state terminal =
      automaton.states[state]?.bind fun held =>
        (rowOf (held.claims grammar)).get? terminal := by
  rw [action?, ofAutomaton]
  simp only [Array.getElem?_map, Option.map_map]
  cases automaton.states[state]? with
  | none => rfl
  | some held =>
      rw [Option.bind_some, ← bisect_actionCells]
      exact Option.map_eq_bind.symm

theorem goto?_ofAutomaton (state nonterminal : Nat) :
    (ofAutomaton vocabulary grammar automaton).goto? state nonterminal =
      ItemSystem.targetAt? automaton.states state (.nonterminal nonterminal) := by
  rw [goto?, ofAutomaton, ItemSystem.targetAt?]
  simp only [Array.getElem?_map]
  cases automaton.states[state]? with
  | none => rfl
  | some held =>
      rw [Option.bind_some, ← bisect_gotoCells]
      exact Option.map_eq_bind.symm

theorem conflictsAmong_eq_nil {state : Nat} {held : State}
    (free : (ofAutomaton vocabulary grammar automaton).conflicts = [])
    (found : automaton.states[state]? = some held) :
    conflictsAmong state .empty (held.claims grammar) = [] := by
  apply List.flatMap_eq_nil_iff.mp free (held.claims grammar, state)
  rw [List.mem_zipIdx_iff_getElem?, Array.getElem?_toList, Array.getElem?_map, found]
  rfl

end Table

end CanonicalLR
