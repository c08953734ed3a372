import CanonicalLR.Proofs.Parse.Simulation

namespace CanonicalLR

theorem isSome_get?_rowOf {claims : List (Terminal × Action)} {terminal : Terminal}
    {action : Action} (claimed : (terminal, action) ∈ claims) :
    ((rowOf claims).get? terminal).isSome := by
  have member : (terminal, action) ∈ claims.filter (·.1 = terminal) :=
    List.mem_filter.mpr ⟨claimed, decide_eq_true rfl⟩
  rw [get?_rowOf, Option.isSome_map, Option.isSome_iff_ne_none, Ne, List.getLast?_eq_none_iff]
  exact List.ne_nil_of_mem member

namespace FlatGrammar
open ItemSystem

variable {grammar : FlatGrammar} {root : Nat} {path symbols : List Symbol} {core : Core}
  {state : Nat} {below : List Nat} {terminal : Terminal}

theorem ValidCore.exists_production (augmented : grammar.Augmented root)
    (valid : grammar.ValidCore path core) :
    ∃ production, grammar.productions[core.production]? = some production := by
  induction valid with
  | start => exact ⟨_, augmented.start⟩
  | begun _ predicts _ =>
      obtain ⟨_, production, _, found, _⟩ := predicts.exists_production
      exact ⟨production, found⟩
  | moved _ _ ih => exact ih

theorem ValidItem.exists_claim (augmented : grammar.Augmented root)
    (valid : grammar.ValidItem path core terminal)
    (vanishes : grammar.Vanishes ((ofGrammar grammar).remaining core)) :
    ∃ action, grammar.Claims path state terminal action := by
  obtain ⟨trees, derives, leaves⟩ := vanishes
  generalize remains : (ofGrammar grammar).remaining core = symbols at derives
  induction derives generalizing core with
  | nil =>
      obtain ⟨production, found⟩ := valid.validCore.exists_production augmented
      exact ⟨_, .completion found remains valid⟩
  | terminal token _ _ => simp [forestLeaves, Tree.leaves] at leaves
  | nonterminal produces _ tail ihInner _ =>
      rw [forestLeaves, Tree.leaves, List.append_eq_nil_iff] at leaves
      obtain ⟨index, found, predicts⟩ := produces.predicts remains
      have begun := ValidItem.inherited valid predicts ⟨_, tail, leaves.2⟩
      exact ihInner begun leaves.1 (remaining_of_production ⟨index, 0⟩ found)

theorem ValidCore.exists_claim (augmented : grammar.Augmented root)
    (trail : grammar.Trail path (state :: below)) (valid : grammar.ValidCore path core)
    (begins : grammar.Begins ((ofGrammar grammar).remaining core) terminal) :
    ∃ action, grammar.Claims path state terminal action := by
  generalize remains : (ofGrammar grammar).remaining core = symbols at begins
  induction begins generalizing core with
  | terminal terminal rest =>
      obtain ⟨target, leads, _⟩ := trail.exists_move valid remains
      exact ⟨_, .shift valid remains leads⟩
  | nonterminal produces _ ih =>
      obtain ⟨index, found, predicts⟩ := produces.predicts remains
      exact ih (.begun valid predicts) (remaining_of_production ⟨index, 0⟩ found)
  | skip vanishes tail _ =>
      -- The terminal follows a production that derives nothing, and is its lookahead.
      obtain ⟨trees, derives, leaves⟩ := vanishes
      cases derives with
      | nonterminal produces inner _ =>
          rw [forestLeaves, Tree.leaves, List.append_eq_nil_iff] at leaves
          obtain ⟨index, found, predicts⟩ := produces.predicts remains
          apply (ValidItem.first valid predicts tail).exists_claim augmented
          rw [remaining_of_production ⟨index, 0⟩ found]
          exact ⟨_, inner, leaves.1⟩

end FlatGrammar

namespace Table
open FlatGrammar ItemSystem

variable {vocabulary : Vocabulary} {grammar : FlatGrammar} {root state : Nat} {path : List Symbol}
  {below : List Nat} {terminal : Terminal}

theorem isSome_action?_of_claims {action : Action} (trail : grammar.Trail path (state :: below))
    (claimed : grammar.Claims path state terminal action) :
    ((canonical vocabulary grammar).action? state terminal).isSome := by
  obtain ⟨held, present, claims⟩ := trail.mem_claims
  rw [canonical, action?_ofAutomaton, present, Option.bind_some]
  exact isSome_get?_rowOf ((claims terminal action).mpr claimed)

theorem isSome_action?_iff (augmented : grammar.Augmented root)
    (trail : grammar.Trail path (state :: below)) :
    ((canonical vocabulary grammar).action? state terminal).isSome ↔
      ∃ core, grammar.ValidCore path core ∧
        grammar.MayFollow path core ((ofGrammar grammar).remaining core) terminal := by
  constructor
  · intro acts
    obtain ⟨action, found⟩ := Option.isSome_iff_exists.mp acts
    cases claims_of_action? trail found with
    | shift valid remains _ =>
        refine ⟨_, valid, .inl ?_⟩
        rw [remains]
        exact .terminal _ _
    | completion _ complete valid =>
        refine ⟨_, valid.validCore, .inr ⟨?_, valid⟩⟩
        rw [complete]
        exact vanishes_nil
  · rintro ⟨core, valid, begins | ⟨vanishes, item⟩⟩
    · obtain ⟨action, claimed⟩ := valid.exists_claim augmented trail begins
      exact isSome_action?_of_claims trail claimed
    · obtain ⟨action, claimed⟩ := item.exists_claim augmented vanishes
      exact isSome_action?_of_claims trail claimed

end Table

end CanonicalLR
