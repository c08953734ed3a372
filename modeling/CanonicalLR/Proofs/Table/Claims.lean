import CanonicalLR.Proofs.Item.Search
import CanonicalLR.Proofs.Item.Validity
import CanonicalLR.Proofs.Table.Rows

namespace CanonicalLR

theorem completion_eq_reduce_iff {index chosen : Nat} {production : Production} :
    completion index production = .reduce chosen ↔
      production.head ≠ Rule.startName ∧ index = chosen := by
  simp only [completion, beq_iff_eq]
  split <;> simp_all

theorem completion_eq_accept_iff {index : Nat} {production : Production} :
    completion index production = .accept ↔ production.head = Rule.startName := by
  simp only [completion, beq_iff_eq]
  split <;> simp_all

theorem completion_ne_shift {index target : Nat} {production : Production} :
    completion index production ≠ .shift target := by
  unfold completion
  split <;> nofun

namespace FlatGrammar
open ItemSet ItemSystem

/-- The claims of the items that are valid for a string which leads to a state. -/
inductive Claims (grammar : FlatGrammar) (path : List Symbol) (state : Nat) :
    Terminal → Action → Prop where
  | shift {core : Core} {terminal : Terminal} {rest : List Symbol} {target : Nat}
      (valid : grammar.ValidCore path core)
      (remains : (ofGrammar grammar).remaining core = .terminal terminal :: rest)
      (leads : targetAt? (ofGrammar grammar).automaton.states state (.terminal terminal) =
        some target) : Claims grammar path state terminal (.shift target)
  | completion {core : Core} {terminal : Terminal} {production : Production}
      (found : grammar.productions[core.production]? = some production)
      (complete : (ofGrammar grammar).remaining core = [])
      (valid : grammar.ValidItem path core terminal) :
      Claims grammar path state terminal (CanonicalLR.completion core.production production)

variable {grammar : FlatGrammar} {path : List Symbol}

theorem mem_claimsOfItem {held : State} {core : Core} {lookaheads : OrderedSet Terminal}
    {terminal : Terminal} {action : Action} :
    (terminal, action) ∈ held.claimsOfItem grammar core lookaheads ↔
      (∃ rest target, (ofGrammar grammar).remaining core = .terminal terminal :: rest ∧
        held.transitions.get? (.terminal terminal) = some target ∧ action = .shift target) ∨
      ∃ production, grammar.productions[core.production]? = some production ∧
        (ofGrammar grammar).remaining core = [] ∧ terminal ∈ lookaheads ∧
        action = CanonicalLR.completion core.production production := by
  cases found : grammar.productions[core.production]? with
  | none =>
      have nothing : (ofGrammar grammar).remaining core = [] := by
        rw [remaining, ofGrammar_grammar, found]
      simp [State.claimsOfItem, found, nothing]
  | some production =>
      simp only [State.claimsOfItem, found]
      have remains : (ofGrammar grammar).remaining core = production.body.drop core.dot :=
        remaining_of_production core found
      cases stands : production.body[core.dot]? with
      | none =>
          have nothing : (ofGrammar grammar).remaining core = [] := by
            rw [remains, List.drop_eq_nil_iff]
            exact List.getElem?_eq_none_iff.mp stands
          simp only [nothing, List.mem_map, Prod.mk.injEq, OrderedSet.mem_members, reduceCtorEq,
            false_and, exists_false, false_or, Option.some.injEq, exists_eq_left', true_and]
          constructor
          · rintro ⟨_, member, rfl, rfl⟩
            exact ⟨member, rfl⟩
          · rintro ⟨member, rfl⟩
            exact ⟨terminal, member, rfl, rfl⟩
      | some symbol =>
          obtain ⟨less, same⟩ := List.getElem?_eq_some_iff.mp stands
          rw [List.drop_eq_getElem_cons less, same] at remains
          cases symbol with
          | terminal other =>
              simp only [remains, List.mem_map, Option.mem_toList, Prod.mk.injEq, List.cons.injEq,
                Symbol.terminal.injEq, reduceCtorEq, false_and, and_false, exists_false, or_false]
              constructor
              · rintro ⟨target, moves, rfl, rfl⟩
                exact ⟨_, target, ⟨rfl, rfl⟩, moves, rfl⟩
              · rintro ⟨_, target, ⟨rfl, _⟩, moves, rfl⟩
                exact ⟨target, moves, rfl, rfl⟩
          | nonterminal _ => simp [remains]

theorem Trail.mem_claims {state : Nat} {below : List Nat}
    (trail : grammar.Trail path (state :: below)) :
    ∃ held, (ofGrammar grammar).automaton.states[state]? = some held ∧
      ∀ terminal action, (terminal, action) ∈ held.claims grammar ↔
        grammar.Claims path state terminal action := by
  obtain ⟨items, found, same⟩ := trail.facts_eq
  obtain ⟨held, present, rfl⟩ := Option.map_eq_some_iff.mp found
  refine ⟨held, present, fun terminal action => ?_⟩
  have leads (target : Nat) : held.transitions.get? (.terminal terminal) = some target ↔
      targetAt? (ofGrammar grammar).automaton.states state (.terminal terminal) =
        some target := by
    rw [targetAt?, present, Option.bind_some]
  have hasCore (core : Core) : held.items.HasCore core ↔ grammar.ValidCore path core := by
    rw [← mem_facts_none, same]
    rfl
  have hasItem (core : Core) (terminal : Terminal) :
      held.items.HasItem core terminal ↔ grammar.ValidItem path core terminal := by
    rw [← mem_facts_some, same]
    rfl
  simp only [State.claims, List.mem_flatMap, Prod.exists, mem_entries, mem_claimsOfItem]
  constructor
  · rintro ⟨core, lookaheads, member, claimed⟩
    rcases claimed with ⟨rest, target, remains, moves, rfl⟩ |
      ⟨production, known, complete, within, rfl⟩
    · refine .shift ((hasCore core).mp ?_) remains ((leads target).mp moves)
      rw [HasCore, member, Option.isSome_some]
    · exact .completion known complete ((hasItem core terminal).mp ⟨lookaheads, member, within⟩)
  · intro claims
    cases claims with
    | @shift core _ rest target valid remains moves =>
        obtain ⟨lookaheads, member⟩ := Option.isSome_iff_exists.mp ((hasCore core).mpr valid)
        exact ⟨core, lookaheads, member, .inl ⟨rest, target, remains, (leads target).mpr moves, rfl⟩⟩
    | @completion core _ production known complete valid =>
        obtain ⟨lookaheads, member, within⟩ := (hasItem core terminal).mpr valid
        exact ⟨core, lookaheads, member, .inr ⟨production, known, complete, within, rfl⟩⟩

end FlatGrammar

namespace Table
open ItemSystem

/-- The table of the canonical collection of a flat grammar. -/
def canonical (vocabulary : Vocabulary) (grammar : FlatGrammar) : Table :=
  ofAutomaton vocabulary grammar (ofGrammar grammar).automaton

variable {vocabulary : Vocabulary} {grammar : FlatGrammar} {path : List Symbol} {state : Nat}
  {below : List Nat} {terminal : Terminal} {action : Action}

theorem build_eq_ok_iff {source : Grammar} {root : RuleId} {table : Table} :
    (build vocabulary source root).1 = .ok table ↔
      ∃ grammar, (source.flatten root).1 = .ok grammar ∧
        table = canonical vocabulary grammar := by
  unfold build
  split
  · rename_i failed
    simp [failed]
  · rename_i flat notices flattened
    simp [flattened, canonical, Automaton.ofGrammar_eq, eq_comm]

theorem productions_canonical : (canonical vocabulary grammar).productions = grammar.productions :=
  rfl

theorem goto?_canonical (state nonterminal : Nat) :
    (canonical vocabulary grammar).goto? state nonterminal =
      targetAt? (ofGrammar grammar).automaton.states state (.nonterminal nonterminal) :=
  goto?_ofAutomaton state nonterminal

theorem claims_of_action? (trail : grammar.Trail path (state :: below))
    (acts : (canonical vocabulary grammar).action? state terminal = some action) :
    grammar.Claims path state terminal action := by
  obtain ⟨held, present, claims⟩ := trail.mem_claims
  rw [canonical, action?_ofAutomaton, present, Option.bind_some] at acts
  exact (claims terminal action).mp (mem_of_get?_rowOf acts)

theorem action?_of_claims (free : (canonical vocabulary grammar).conflicts = [])
    (trail : grammar.Trail path (state :: below))
    (claimed : grammar.Claims path state terminal action) :
    (canonical vocabulary grammar).action? state terminal = some action := by
  obtain ⟨held, present, claims⟩ := trail.mem_claims
  rw [canonical, action?_ofAutomaton, present, Option.bind_some]
  exact get?_rowOf_of_no_conflict (conflictsAmong_eq_nil free present)
    ((claims terminal action).mpr claimed)

end Table

end CanonicalLR
