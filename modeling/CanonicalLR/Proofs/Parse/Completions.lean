import CanonicalLR.Completion
import CanonicalLR.Proofs.Parse.Turns
import CanonicalLR.Proofs.Table.Expected

namespace CanonicalLR

namespace FlatGrammar
open ItemSystem

variable {grammar : FlatGrammar} {path : List Symbol} {core : Core} {symbol : Symbol}
  {terminal : Terminal}

theorem ValidCore.exists_before (valid : grammar.ValidCore (symbol :: path) core)
    (begins : grammar.Begins ((ofGrammar grammar).remaining core) terminal) :
    ∃ before rest, grammar.ValidCore path before ∧
      (ofGrammar grammar).remaining before = symbol :: rest ∧ grammar.Begins rest terminal := by
  generalize whole : symbol :: path = longer at valid
  induction valid with
  | start => cases whole
  | begun _ predicts ih =>
      obtain ⟨number, production, remains, found, produces⟩ := predicts.exists_production
      apply ih _ whole
      rw [predicts.remaining_begun found] at begins
      rw [remains]
      exact .nonterminal produces begins
  | moved valid remains _ =>
      cases whole
      rw [remaining_next remains] at begins
      exact ⟨_, _, valid, remains, begins⟩

end FlatGrammar

namespace Table
open FlatGrammar ItemSystem

variable {vocabulary : Vocabulary} {grammar : FlatGrammar} {root state target index : Nat}
  {path : List Symbol} {below states : List Nat} {terminal other : Terminal}

theorem mem_row_canonical {cell : ActionCell} :
    cell ∈ ((canonical vocabulary grammar).actions[state]?.getD #[]).toList ↔
      (canonical vocabulary grammar).action? state cell.terminal = some cell.action := by
  rw [canonical, action?_ofAutomaton, ofAutomaton]
  simp only [Array.getElem?_map, Option.map_map]
  cases (ofGrammar grammar).automaton.states[state]? with
  | none => simp
  | some held =>
      obtain ⟨terminal, action⟩ := cell
      simp [actionCells, OrderedMap.get?_eq_some_iff]

theorem mem_shifted_canonical :
    terminal ∈ Completer.shifted (canonical vocabulary grammar) state ↔
      ∃ target, (canonical vocabulary grammar).action? state terminal = some (.shift target) := by
  rw [Completer.shifted, List.mem_filterMap]
  constructor
  · rintro ⟨⟨other, action⟩, member, shifts⟩
    cases action with
    | shift target =>
        cases shifts
        exact ⟨target, mem_row_canonical.mp member⟩
    | _ => cases shifts
  · rintro ⟨target, shifts⟩
    exact ⟨⟨terminal, .shift target⟩, mem_row_canonical.mpr shifts, rfl⟩

theorem Reduced.gotoAfter?_eq {production : Production} {number : Nat}
    (augmented : grammar.Augmented root) (found : grammar.productions[index]? = some production)
    (reduced : Reduced grammar production path states number target) :
    Completer.gotoAfter? (canonical vocabulary grammar) states index = some target := by
  have numbered :
      (canonical vocabulary grammar).nonterminalIndex? production.head = some number := by
    rw [← reduced.produces.2, augmented.head]
    rfl
  have trail := reduced.trail
  cases uncovered : states.drop production.body.length with
  | nil =>
      rw [uncovered] at trail
      cases trail
  | cons state below =>
      rw [uncovered] at trail
      cases trail with
      | move _ leads =>
          simp only [Completer.gotoAfter?, productions_canonical, found, Option.bind_eq_bind,
            Option.bind_some, uncovered, List.head?_cons, numbered, goto?_canonical, leads]

theorem isSome_action?_of_shifted (augmented : grammar.Augmented root)
    (trail : grammar.Trail path (state :: below))
    (reduces : (canonical vocabulary grammar).action? state terminal = some (.reduce index))
    (leads : Completer.gotoAfter? (canonical vocabulary grammar) (state :: below) index =
      some target)
    (shifts : other ∈ Completer.shifted (canonical vocabulary grammar) target) :
    ((canonical vocabulary grammar).action? state other).isSome := by
  obtain ⟨core, production, rfl, found, plain, complete, valid⟩ :=
    exists_item_of_reduce trail reduces
  obtain ⟨number, reached, reduced⟩ := exists_reduced augmented trail valid complete found plain
  obtain rfl : reached = target :=
    Option.some.inj ((reduced.gotoAfter?_eq augmented found).symm.trans leads)
  obtain ⟨further, shifts⟩ := mem_shifted_canonical.mp shifts
  have claims := claims_of_action? reduced.trail shifts
  generalize chosen : Action.shift further = action at claims
  cases claims with
  | completion _ _ _ => exact absurd chosen.symm completion_ne_shift
  | @shift after _ later _ validAfter remains _ =>
      have begins : grammar.Begins ((ofGrammar grammar).remaining after) other := by
        rw [remains]
        exact .terminal other later
      obtain ⟨before, rest, validBefore, expects, begins⟩ := validAfter.exists_before begins
      obtain ⟨again, foundAgain, predicts⟩ := reduced.produces.predicts expects
      have body : (ofGrammar grammar).remaining ⟨again, 0⟩ = production.body ++ [] := by
        rw [List.append_nil]
        exact remaining_of_production ⟨again, 0⟩ foundAgain
      -- The production begins where the item expects its head, with `other` as a lookahead.
      obtain ⟨moved, _, finished, item⟩ :=
        (ValidItem.first validBefore predicts begins).advance body
      rw [← reduced.split] at item
      have vanishes : grammar.Vanishes ((ofGrammar grammar).remaining moved) := by
        rw [finished]
        exact vanishes_nil
      exact (isSome_action?_iff augmented trail).mpr ⟨moved, item.validCore, .inr ⟨vanishes, item⟩⟩

theorem isSome_action?_of_mem_terminalsOf (augmented : grammar.Augmented root)
    (trail : grammar.Trail path (state :: below)) {cell : ActionCell}
    (member : cell ∈ ((canonical vocabulary grammar).actions[state]?.getD #[]).toList)
    (offers :
      terminal ∈ Completer.terminalsOf (canonical vocabulary grammar) (state :: below) cell) :
    ((canonical vocabulary grammar).action? state terminal).isSome := by
  have acts := mem_row_canonical.mp member
  obtain ⟨claimed, action⟩ := cell
  cases action with
  | shift target =>
      obtain rfl := List.mem_singleton.mp offers
      exact Option.isSome_of_eq_some acts
  | reduce index =>
      simp only [Completer.terminalsOf] at offers
      split at offers
      · rename_i target leads
        exact isSome_action?_of_shifted augmented trail acts leads offers
      · cases offers
  | accept => cases offers

theorem trail_statesBelow (trail : grammar.Trail path states) :
    ∃ path state below, Completer.statesBelow states = state :: below ∧
      grammar.Trail path (state :: below) := by
  cases trail with
  | start => exact ⟨[], 0, [], rfl, .start⟩
  | move earlier _ => exact ⟨_, _, _, rfl, earlier⟩

end Table

namespace Completer

variable {completer : Completer} {labels offered : List String} {text : String}

theorem suggestAll_concat (completer : Completer) (labels : List String) (label : String) :
    completer.suggestAll (labels ++ [label]) = do
      let offered ← completer.suggestAll labels
      return extendUnique offered (← completer.suggestionsFor label) := by
  simp [suggestAll]

theorem exists_label_of_suggestAll (offers : completer.suggestAll labels = .ok offered)
    (member : text ∈ offered) : ∃ label ∈ labels, ∃ listed,
      completer.suggestions.get? label = some listed ∧ text ∈ listed := by
  induction labels using List.reverseRecOn generalizing offered with
  | nil =>
      cases offers
      cases member
  | append_singleton labels label ih =>
      rw [suggestAll_concat, suggestionsFor] at offers
      cases earlier : completer.suggestAll labels with
      | error error =>
          rw [earlier] at offers
          cases offers
      | ok before =>
          cases found : completer.suggestions.get? label with
          | none =>
              rw [earlier, found] at offers
              cases offers
          | some listed =>
              rw [earlier, found] at offers
              cases offers
              rcases mem_extendUnique.mp member with old | new
              · obtain ⟨other, held, offers⟩ := ih earlier old
                exact ⟨other, List.mem_append_left _ held, offers⟩
              · exact ⟨label, List.mem_concat_self, listed, found, new⟩

theorem unmapped_of_suggestAll {label : String}
    (fails : completer.suggestAll labels = .error (.unmapped label)) :
    label ∈ labels ∧ completer.suggestions.get? label = none := by
  induction labels using List.reverseRecOn with
  | nil => cases fails
  | append_singleton labels other ih =>
      rw [suggestAll_concat, suggestionsFor] at fails
      cases earlier : completer.suggestAll labels with
      | error error =>
          rw [earlier] at fails
          cases fails
          exact ⟨List.mem_append_left _ (ih earlier).1, (ih earlier).2⟩
      | ok before =>
          cases found : completer.suggestions.get? other with
          | none =>
              rw [earlier, found] at fails
              cases fails
              exact ⟨List.mem_concat_self, found⟩
          | some listed =>
              rw [earlier, found] at fails
              cases fails

end Completer

namespace Table
open FlatGrammar ItemSystem

variable {mode : Mode} {table : Table} {vocabulary : Vocabulary} {source : Grammar} {id : RuleId}
  {tokens : List Token} {configuration : Configuration}

/-- For the states of a run only tokens are offered that the state which is read has an action on.
-/
theorem suggestFromStates_legal (constructed : source.Constructed)
    (ok : (build vocabulary source id).1 = .ok table)
    (reaches : Reaches mode table (.start tokens) configuration)
    (suggestions : OrderedMap String (List String)) :
    ∃ state below, Completer.statesBelow configuration.states = state :: below ∧
      (∀ cell ∈ (table.actions[state]?.getD #[]).toList,
        ∀ terminal ∈ Completer.terminalsOf table (state :: below) cell,
          (table.action? state terminal).isSome) ∧
      (∀ offered, (Completer.mk table suggestions).suggestFromStates configuration.states =
          .ok offered → ∀ text ∈ offered, ∃ name ∈ (table.expected state).tokens,
            ∃ listed, suggestions.get? name = some listed ∧ text ∈ listed) ∧
      ∀ name, (Completer.mk table suggestions).suggestFromStates configuration.states =
          .error (.unmapped name) →
        name ∈ (table.expected state).tokens ∧ suggestions.get? name = none := by
  obtain ⟨rule, start, _, built⟩ := built_of_build constructed ok
  obtain ⟨path, sound, _⟩ := built.reached reaches
  obtain ⟨path, state, below, read, trail⟩ := trail_statesBelow sound.trail
  have legal : ∀ cell ∈ (table.actions[state]?.getD #[]).toList,
      ∀ terminal ∈ Completer.terminalsOf table (state :: below) cell,
        (table.action? state terminal).isSome := by
    rw [built.canonical]
    intro cell member terminal
    exact isSome_action?_of_mem_terminalsOf built.augmented trail member
  have named : ∀ name ∈ ((table.actions[state]?.getD #[]).toList.flatMap
      (Completer.terminalsOf table (state :: below))).filterMap table.terminalName?,
      name ∈ (table.expected state).tokens := by
    intro name member
    obtain ⟨terminal, offered, known⟩ := List.mem_filterMap.mp member
    obtain ⟨cell, inRow, offers⟩ := List.mem_flatMap.mp offered
    have acts := legal cell inRow terminal offers
    refine mem_tokens_expected.mpr ⟨terminal, ?_, known⟩
    rw [built.canonical] at acts ⊢
    exact mem_acceptedTerminals.mpr acts
  refine ⟨state, below, read, legal, ?_, ?_⟩
  · intro offered offers text member
    simp only [Completer.suggestFromStates, read] at offers
    obtain ⟨name, labelled, listed⟩ := Completer.exists_label_of_suggestAll offers member
    exact ⟨name, named name labelled, listed⟩
  · intro name fails
    simp only [Completer.suggestFromStates, read] at fails
    obtain ⟨labelled, missing⟩ := Completer.unmapped_of_suggestAll fails
    exact ⟨named name labelled, missing⟩

def closedList : Grammar :=
  ⟨#[{ name := "list", body := some [.many [.consume 0], .consume 1] }]⟩

def flatClosedList : FlatGrammar :=
  { productions := #[⟨"S'", [.nonterminal 10000]⟩, ⟨"MANY_0", []⟩,
      ⟨"MANY_0", [.terminal 0, .nonterminal 10001]⟩,
      ⟨"list", [.nonterminal 10001, .terminal 1]⟩]
    nonterminals := [⟨"list", 10000⟩, ⟨"MANY_0", 10001⟩, ⟨"S'", 99999⟩] }

def closedListTable : Table :=
  canonical {} flatClosedList

theorem constructed_closedList : closedList.Constructed := by
  have added : ({} : Grammar).rule "list" [.many [.consume 0], .consume 1] =
      .ok (0, closedList) := rfl
  exact Grammar.Constructed.empty.rule added

theorem build_closedList : (build {} closedList 0).1 = .ok closedListTable := by
  have flattened : (closedList.flatten 0).1 = .ok flatClosedList := by decide +kernel
  exact build_eq_ok_iff.mpr ⟨_, flattened, rfl⟩

theorem suggestFromStates_legal_closedList :
    closedList.Constructed ∧ (build {} closedList 0).1 = .ok closedListTable ∧
      ∃ configuration, Reaches .recover closedListTable (.start [tokenOfKind 0]) configuration ∧
        Completer.statesBelow configuration.states = [0] ∧
        1 ∈ Completer.terminalsOf closedListTable [0] ⟨1, .reduce 1⟩ ∧
        (closedListTable.action? 0 1).isSome := by
  have shifts : step .recover closedListTable (.start [tokenOfKind 0]) =
      .next ⟨[1, 0], [.leaf (tokenOfKind 0)], [], []⟩ := by decide +kernel
  have inRow : ⟨1, .reduce 1⟩ ∈ (closedListTable.actions[0]?.getD #[]).toList := by decide +kernel
  have offers : 1 ∈ Completer.terminalsOf closedListTable [0] ⟨1, .reduce 1⟩ := by decide +kernel
  obtain ⟨state, below, read, legal, _⟩ := suggestFromStates_legal constructed_closedList
    build_closedList (.single shifts) .empty
  obtain ⟨rfl, rfl⟩ := List.cons_eq_cons.mp read
  exact ⟨constructed_closedList, build_closedList, _, .single shifts, rfl, offers,
    legal _ inRow 1 offers⟩

end Table

end CanonicalLR
