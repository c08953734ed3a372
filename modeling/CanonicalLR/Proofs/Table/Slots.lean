import CanonicalLR.Proofs.Table.Built
import CanonicalLR.Proofs.Table.Expected

/-!
Slots of the action table. The items of a state claim the slot of a terminal one after the other, in
their order. `slots_exact` says that the last claim stands, that the conflicts of the slot are the
neighbouring claims that differ, and that a search by halving in the sorted rows finds what a search
from the front finds.
-/

namespace CanonicalLR

def State.claimTo? (grammar : FlatGrammar) (state : State) (terminal : Terminal) (core : Core)
    (lookaheads : OrderedSet Terminal) : Option Action :=
  match grammar.productions[core.production]? with
  | none => none
  | some production =>
      match production.body[core.dot]? with
      | some symbol =>
          if symbol = .terminal terminal then (state.transitions.get? symbol).map .shift else none
      | none =>
          if terminal ∈ lookaheads then
            some (if production.head = Rule.startName then .accept else .reduce core.production)
          else none

/-- What the items of a state claim on a terminal, in the order of the items. -/
def State.claimsTo (grammar : FlatGrammar) (state : State) (terminal : Terminal) : List Action :=
  state.items.entries.filterMap fun (core, lookaheads) =>
    state.claimTo? grammar terminal core lookaheads

/-- The claims to a slot of the table of a grammar. -/
def FlatGrammar.claimsTo (grammar : FlatGrammar) (state : Nat) (terminal : Terminal) :
    List Action :=
  ((ItemSystem.ofGrammar grammar).automaton.states[state]?.map fun held =>
    held.claimsTo grammar terminal).getD []

/-- The neighbours in a list of claims that differ: a claim, and the one that takes its place. -/
def overruled (claims : List Action) : List (Action × Action) :=
  (claims.zip claims.tail).filter fun (previous, chosen) => previous ≠ chosen

/-- The conflicts that were recorded for a slot. -/
def Table.conflictsAt (table : Table) (state : Nat) (terminal : Terminal) : List Conflict :=
  table.conflicts.filter fun conflict => conflict.state = state ∧ conflict.terminal = terminal

def Conflict.change (conflict : Conflict) : Action × Action :=
  (conflict.previous, conflict.chosen)

/-! ### Claims that are overruled -/

@[simp] theorem overruled_nil : overruled [] = [] := rfl

@[simp] theorem overruled_singleton (claim : Action) : overruled [claim] = [] := rfl

theorem overruled_cons_cons (previous chosen : Action) (rest : List Action) :
    overruled (previous :: chosen :: rest) =
      if previous = chosen then overruled (chosen :: rest)
      else (previous, chosen) :: overruled (chosen :: rest) := by
  simp only [overruled, List.tail_cons, List.zip_cons_cons, List.filter_cons, ne_eq,
    decide_not, Bool.not_eq_true', decide_eq_false_iff_not, ite_not]

theorem overruled_eq_nil_iff {claims : List Action} :
    overruled claims = [] ↔ ∀ first ∈ claims, ∀ second ∈ claims, first = second := by
  induction claims with
  | nil => simp
  | cons claim rest ih =>
      cases rest with
      | nil => simp
      | cons next rest =>
          rw [overruled_cons_cons]
          constructor
          · intro free
            split at free
            · rename_i same
              subst same
              simpa using ih.mp free
            · cases free
          · intro agree
            have same : claim = next := agree claim (by simp) next (by simp)
            rw [if_pos same, ih]
            exact fun first member second other =>
              agree first (List.mem_cons_of_mem _ member) second (List.mem_cons_of_mem _ other)

/-! ### The claims to one slot -/

/-- The claims to the slot of a terminal. -/
def slot (terminal : Terminal) (claims : List (Terminal × Action)) : List Action :=
  (claims.filter (·.1 = terminal)).map (·.2)

variable {terminal : Terminal}

theorem mem_slot {claims : List (Terminal × Action)} {action : Action} :
    action ∈ slot terminal claims ↔ (terminal, action) ∈ claims := by
  simp [slot]

theorem slot_cons_self (action : Action) (claims : List (Terminal × Action)) :
    slot terminal ((terminal, action) :: claims) = action :: slot terminal claims := by
  simp [slot]

theorem slot_cons_of_ne {other : Terminal} (differ : other ≠ terminal) (action : Action)
    (claims : List (Terminal × Action)) :
    slot terminal ((other, action) :: claims) = slot terminal claims := by
  simp [slot, differ]

theorem get?_rowOf_eq_getLast? (claims : List (Terminal × Action)) :
    (rowOf claims).get? terminal = (slot terminal claims).getLast? := by
  rw [get?_rowOf, slot, List.getLast?_map]

theorem slot_map_lookaheads (lookaheads : OrderedSet Terminal) (action : Action) :
    slot terminal (lookaheads.members.map fun lookahead => (lookahead, action)) =
      if terminal ∈ lookaheads then [action] else [] := by
  have once : lookaheads.members.Nodup := lookaheads.increasing.imp Key.ne_of_lt
  have own : slot terminal (lookaheads.members.map fun lookahead => (lookahead, action)) =
      (lookaheads.members.filter (· == terminal)).map fun _ => action := by
    rw [slot, List.filter_map, List.map_map]
    rfl
  rw [own, List.filter_beq]
  split
  · rename_i member
    rw [List.count_eq_one_of_mem once member]
    rfl
  · rename_i absent
    rw [List.count_eq_zero_of_not_mem absent]
    rfl

theorem slot_claimsOfItem {grammar : FlatGrammar} {state : State} {core : Core}
    {lookaheads : OrderedSet Terminal} :
    slot terminal (state.claimsOfItem grammar core lookaheads) =
      (state.claimTo? grammar terminal core lookaheads).toList := by
  unfold State.claimsOfItem State.claimTo?
  cases grammar.productions[core.production]? with
  | none => rfl
  | some production =>
      dsimp only
      cases production.body[core.dot]? with
      | none =>
          simp only [slot_map_lookaheads, completion, beq_iff_eq]
          split <;> rfl
      | some symbol =>
          cases symbol with
          | nonterminal _ => rfl
          | terminal other =>
              simp only [Symbol.terminal.injEq]
              cases state.transitions.get? (.terminal other) with
              | none => simp [slot]
              | some target =>
                  by_cases same : other = terminal
                  · simp [slot, same]
                  · simp [slot, same]

theorem slot_claims {grammar : FlatGrammar} {state : State} :
    slot terminal (state.claims grammar) = state.claimsTo grammar terminal := by
  rw [slot, State.claims, List.filter_flatMap, List.map_flatMap, State.claimsTo,
    List.filterMap_eq_flatMap_toList]
  exact List.flatMap_congr fun _ _ => slot_claimsOfItem

/-! ### The conflicts of one slot -/

theorem conflictsAmong_slot (state : Nat) (row : OrderedMap Terminal Action)
    (claims : List (Terminal × Action)) :
    ((conflictsAmong state row claims).filter (·.terminal = terminal)).map Conflict.change =
      overruled ((row.get? terminal).toList ++ slot terminal claims) := by
  -- The row stands for the claims so far: its entry is the neighbour of the next claim to the slot.
  induction claims generalizing row with
  | nil => cases row.get? terminal <;> rfl
  | cons claim rest ih =>
      obtain ⟨claimed, chosen⟩ := claim
      have later := ih (row.insert claimed chosen)
      by_cases same : claimed = terminal
      · subst same
        rw [OrderedMap.get?_insert, if_pos rfl] at later
        rw [slot_cons_self]
        simp only [conflictsAmong]
        cases row.get? claimed with
        | none => exact later
        | some previous =>
            simp only [Option.toList_some, List.singleton_append, overruled_cons_cons]
            split
            · exact later
            · rw [List.filter_cons_of_pos (by simp), List.map_cons]
              exact congrArg _ later
      · rw [OrderedMap.get?_insert, if_neg (Ne.symm same)] at later
        rw [slot_cons_of_ne same, ← later]
        simp only [conflictsAmong]
        cases row.get? claimed with
        | none => rfl
        | some previous =>
            dsimp only
            split
            · rfl
            · rw [List.filter_cons_of_neg (by simpa using same)]

theorem state_of_mem_conflictsAmong {state : Nat} {row : OrderedMap Terminal Action}
    {claims : List (Terminal × Action)} {conflict : Conflict}
    (member : conflict ∈ conflictsAmong state row claims) : conflict.state = state := by
  induction claims generalizing row with
  | nil => cases member
  | cons claim rest ih =>
      simp only [conflictsAmong] at member
      split at member
      · exact ih member
      · split at member
        · exact ih member
        · rcases List.mem_cons.mp member with rfl | later
          · rfl
          · exact ih later

theorem flatMap_zipIdx_eq {α β : Type} {rows : List α} {start index : Nat} {f : α × Nat → List β}
    (elsewhere : ∀ row place, place ≠ start + index → f (row, place) = []) :
    (rows.zipIdx start).flatMap f = (rows[index]?.map fun row => f (row, start + index)).getD [] := by
  induction rows generalizing start index with
  | nil => rfl
  | cons row rest ih =>
      rw [List.zipIdx_cons, List.flatMap_cons]
      cases index with
      | zero =>
          have later : (rest.zipIdx (start + 1)).flatMap f = [] := by
            rw [List.flatMap_eq_nil_iff]
            rintro ⟨other, place⟩ member
            have above := List.le_snd_of_mem_zipIdx member
            exact elsewhere other place (by omega)
          rw [later, List.append_nil]
          rfl
      | succ index =>
          have place : start + (index + 1) = start + 1 + index := by omega
          rw [place] at elsewhere ⊢
          rw [elsewhere row start (by omega), List.nil_append, ih elsewhere,
            List.getElem?_cons_succ]

namespace Table
open ItemSystem

variable {vocabulary : Vocabulary} {grammar : FlatGrammar} {state : Nat} {table : Table}

theorem action?_eq_getLast? :
    (canonical vocabulary grammar).action? state terminal =
      (grammar.claimsTo state terminal).getLast? := by
  rw [canonical, action?_ofAutomaton, FlatGrammar.claimsTo]
  cases (ofGrammar grammar).automaton.states[state]? with
  | none => rfl
  | some held =>
      rw [Option.bind_some, get?_rowOf_eq_getLast?, slot_claims]
      rfl

theorem change_conflictsAt (vocabulary : Vocabulary) (grammar : FlatGrammar) (state : Nat)
    (terminal : Terminal) :
    ((canonical vocabulary grammar).conflictsAt state terminal).map Conflict.change =
      overruled (grammar.claimsTo state terminal) := by
  -- A conflict bears the number of the state whose row was filled.
  have elsewhere (claims : List (Terminal × Action)) (place : Nat) (differ : place ≠ 0 + state) :
      (conflictsAmong place .empty claims).filter
        (fun conflict => conflict.state = state ∧ conflict.terminal = terminal) = [] := by
    rw [List.filter_eq_nil_iff]
    intro conflict member
    have own := state_of_mem_conflictsAmong member
    simp only [decide_eq_true_eq, not_and]
    omega
  have here (claims : List (Terminal × Action)) :
      (conflictsAmong state .empty claims).filter
          (fun conflict => conflict.state = state ∧ conflict.terminal = terminal) =
        (conflictsAmong state .empty claims).filter (·.terminal = terminal) := by
    apply List.filter_congr
    intro conflict member
    rw [state_of_mem_conflictsAmong member]
    simp
  rw [conflictsAt, canonical, ofAutomaton, FlatGrammar.claimsTo]
  dsimp only
  rw [List.filter_flatMap, flatMap_zipIdx_eq elsewhere, Array.getElem?_toList, Array.getElem?_map]
  cases (ofGrammar grammar).automaton.states[state]? with
  | none => rfl
  | some held =>
      simp only [Option.map_some, Option.getD_some, Nat.zero_add, here]
      rw [conflictsAmong_slot, slot_claims]
      rfl

theorem conflicts_eq_nil_iff :
    (canonical vocabulary grammar).conflicts = [] ↔ ∀ state terminal,
      ∀ first ∈ grammar.claimsTo state terminal, ∀ second ∈ grammar.claimsTo state terminal,
        first = second := by
  simp only [← overruled_eq_nil_iff, ← change_conflictsAt vocabulary, List.map_eq_nil_iff]
  constructor
  · intro free state terminal
    rw [conflictsAt, free, List.filter_nil]
  · intro free
    rw [List.eq_nil_iff_forall_not_mem]
    intro conflict member
    have nowhere := List.filter_eq_nil_iff.mp (free conflict.state conflict.terminal) conflict member
    simp at nowhere

theorem shift_mem_claimsTo {held : State} {core : Core}
    (found : (ofGrammar grammar).automaton.states[state]? = some held)
    (has : held.items.HasCore core)
    (stands : (ofGrammar grammar).nextSymbol? core = some (.terminal terminal)) :
    ∃ target, targetAt? (ofGrammar grammar).automaton.states state (.terminal terminal) =
        some target ∧ .shift target ∈ grammar.claimsTo state terminal := by
  have present : itemsAt? (ofGrammar grammar).automaton.states state = some held.items := by
    rw [itemsAt?, found, Option.map_some]
  obtain ⟨target, leads, _⟩ := exists_target present (mem_nextSymbols.mpr ⟨core, has, stands⟩)
  obtain ⟨lookaheads, listed⟩ := Option.isSome_iff_exists.mp has
  obtain ⟨rest, remains⟩ := nextSymbol?_eq_some_iff.mp stands
  have moves : held.transitions.get? (.terminal terminal) = some target := by
    rw [← leads, targetAt?, found, Option.bind_some]
  refine ⟨target, leads, ?_⟩
  rw [FlatGrammar.claimsTo, found, Option.map_some, Option.getD_some, ← slot_claims, mem_slot,
    State.claims, List.mem_flatMap]
  exact ⟨(core, lookaheads), ItemSet.mem_entries.mpr listed,
    FlatGrammar.mem_claimsOfItem.mpr (.inl ⟨rest, target, remains, moves, rfl⟩)⟩

/-! ### Sorted rows -/

/-- Rows and terminals stand in increasing order of their keys. -/
structure Sorted (table : Table) : Prop where
  actions : ∀ row ∈ table.actions, row.toList.Pairwise (·.terminal < ·.terminal)
  gotos : ∀ row ∈ table.gotos, row.toList.Pairwise (·.nonterminal < ·.nonterminal)
  terminals : table.terminals.toList.Pairwise (·.index < ·.index)

theorem sorted_canonical (constructed : vocabulary.Constructed) :
    (canonical vocabulary grammar).Sorted := by
  constructor
  · intro row member
    simp only [canonical, ofAutomaton, Array.mem_map] at member
    obtain ⟨_, _, rfl⟩ := member
    exact pairwise_actionCells _
  · intro row member
    simp only [canonical, ofAutomaton, Array.mem_map] at member
    obtain ⟨state, _, rfl⟩ := member
    exact pairwise_gotoCells state
  · exact pairwise_terminalEntries constructed

theorem find?_in_row {α β κ : Type} [LT κ] [DecidableLT κ] [Key κ] [DecidableEq κ] {keyOf : α → κ}
    {rows : Array (Array α)} (increasing : ∀ row ∈ rows, row.toList.Pairwise (keyOf · < keyOf ·))
    (value : α → β) (index : Nat) (key : κ) :
    (rows[index]?.bind fun row => (bisect keyOf key row).bind fun entry => some (value entry)) =
      rows[index]?.bind fun row => (row.find? (keyOf · = key)).map value := by
  cases found : rows[index]? with
  | none => rfl
  | some row =>
      have halved := bisect_eq_find? (increasing row (Array.mem_of_getElem? found)) key
      rw [Option.bind_some, Option.bind_some, halved]
      exact Option.map_eq_bind.symm

theorem Sorted.action?_eq_find? (sorted : table.Sorted) (state : Nat) (terminal : Terminal) :
    table.action? state terminal = table.actions[state]?.bind fun row =>
      (row.find? (·.terminal = terminal)).map (·.action) :=
  find?_in_row sorted.actions ActionCell.action state terminal

theorem Sorted.goto?_eq_find? (sorted : table.Sorted) (state nonterminal : Nat) :
    table.goto? state nonterminal = table.gotos[state]?.bind fun row =>
      (row.find? (·.nonterminal = nonterminal)).map (·.state) :=
  find?_in_row sorted.gotos GotoCell.state state nonterminal

theorem Sorted.terminalEntry_eq_find? (sorted : table.Sorted) (terminal : Terminal) :
    terminalEntry? table terminal = table.terminals.find? (·.index = terminal) :=
  bisect_eq_find? sorted.terminals terminal

/-! ### The table in full -/

/-- The table of a grammar holds what the items of the states claim. The last claim to a slot stands,
the conflicts of the slot are the neighbouring claims that differ, and no claim to a shift is lost;
the other rows hold the transitions on nonterminals. All rows are sorted, so that each look-up finds
what a search from the front finds. -/
theorem slots_exact (constructed : vocabulary.Constructed) (grammar : FlatGrammar) :
    (∀ state terminal, (canonical vocabulary grammar).action? state terminal =
      (grammar.claimsTo state terminal).getLast?) ∧
    (∀ state terminal, ((canonical vocabulary grammar).conflictsAt state terminal).map
        Conflict.change = overruled (grammar.claimsTo state terminal)) ∧
    ((canonical vocabulary grammar).conflicts = [] ↔ ∀ state terminal,
      ∀ first ∈ grammar.claimsTo state terminal, ∀ second ∈ grammar.claimsTo state terminal,
        first = second) ∧
    (∀ state held core terminal, (ofGrammar grammar).automaton.states[state]? = some held →
      held.items.HasCore core →
      (ofGrammar grammar).nextSymbol? core = some (.terminal terminal) →
      ∃ target, targetAt? (ofGrammar grammar).automaton.states state (.terminal terminal) =
          some target ∧ .shift target ∈ grammar.claimsTo state terminal) ∧
    (∀ state nonterminal, (canonical vocabulary grammar).goto? state nonterminal =
      targetAt? (ofGrammar grammar).automaton.states state (.nonterminal nonterminal)) ∧
    (canonical vocabulary grammar).Sorted ∧
    (∀ state terminal, (canonical vocabulary grammar).action? state terminal =
      (canonical vocabulary grammar).actions[state]?.bind fun row =>
        (row.find? (·.terminal = terminal)).map (·.action)) ∧
    (∀ state nonterminal, (canonical vocabulary grammar).goto? state nonterminal =
      (canonical vocabulary grammar).gotos[state]?.bind fun row =>
        (row.find? (·.nonterminal = nonterminal)).map (·.state)) ∧
    ∀ terminal, terminalEntry? (canonical vocabulary grammar) terminal =
      (canonical vocabulary grammar).terminals.find? (·.index = terminal) := by
  have sorted : (canonical vocabulary grammar).Sorted := sorted_canonical constructed
  exact ⟨fun _ _ => action?_eq_getLast?, change_conflictsAt vocabulary grammar, conflicts_eq_nil_iff,
    fun _ _ _ _ found has stands => shift_mem_claimsTo found has stands, goto?_canonical, sorted,
    sorted.action?_eq_find?, sorted.goto?_eq_find?, sorted.terminalEntry_eq_find?⟩

end Table

namespace Grammar

/-- One word that three rules stand for. -/
def threefold : Grammar :=
  ⟨#[{ name := "start", body := some [.choice [[.subRule 1], [.subRule 2], [.subRule 3]]] },
    { name := "first", body := some [.consume 0] },
    { name := "second", body := some [.consume 0] },
    { name := "third", body := some [.consume 0] }]⟩

def flatThreefold : FlatGrammar :=
  { productions := #[⟨"S'", [.nonterminal 10000]⟩, ⟨"start", [.nonterminal 10001]⟩,
      ⟨"start", [.nonterminal 10002]⟩, ⟨"start", [.nonterminal 10003]⟩, ⟨"first", [.terminal 0]⟩,
      ⟨"second", [.terminal 0]⟩, ⟨"third", [.terminal 0]⟩]
    nonterminals := [⟨"start", 10000⟩, ⟨"first", 10001⟩, ⟨"second", 10002⟩, ⟨"third", 10003⟩,
      ⟨"S'", 99999⟩] }

theorem flatten_threefold : (threefold.flatten 0).1 = .ok flatThreefold := by decide +kernel

end Grammar

namespace Table
open Grammar

theorem claimsTo_flatThreefold :
    flatThreefold.claimsTo 1 Terminal.eof = [.reduce 4, .reduce 5, .reduce 6] := by decide +kernel

theorem slots_exact_flatThreefold :
    Vocabulary.Constructed {} ∧
      (canonical {} flatThreefold).action? 1 Terminal.eof = some (.reduce 6) ∧
      ((canonical {} flatThreefold).conflictsAt 1 Terminal.eof).map Conflict.change =
        [(.reduce 4, .reduce 5), (.reduce 5, .reduce 6)] := by
  obtain ⟨acts, changes, _⟩ := slots_exact .empty flatThreefold
  refine ⟨.empty, ?_, ?_⟩
  · rw [acts, claimsTo_flatThreefold]
    rfl
  · rw [changes, claimsTo_flatThreefold]
    rfl

end Table

end CanonicalLR
