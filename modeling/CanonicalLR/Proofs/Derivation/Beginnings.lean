import CanonicalLR.Proofs.Derivation.Cycles
import CanonicalLR.Proofs.Derivation.Sweep

namespace CanonicalLR

namespace FlatGrammar

variable {grammar : FlatGrammar} {front back rest symbols : List Symbol} {terminal : Terminal}

theorem Begins.append (begins : grammar.Begins front terminal) (rest : List Symbol) :
    grammar.Begins (front ++ rest) terminal := by
  induction begins with
  | terminal terminal _ => exact .terminal terminal _
  | nonterminal produces inner _ => exact .nonterminal produces inner
  | skip vanishes _ ih => exact .skip vanishes ih

theorem Begins.behind {trees : List Tree} (derives : grammar.Derives front trees)
    (leaves : forestLeaves trees = []) (begins : grammar.Begins rest terminal) :
    grammar.Begins (front ++ rest) terminal := by
  induction derives with
  | nil => exact begins
  | terminal _ _ _ => simp [forestLeaves, Tree.leaves] at leaves
  | @nonterminal number production children symbols trees produces inner _ _ ihTail =>
      rw [forestLeaves, Tree.leaves, List.append_eq_nil_iff] at leaves
      exact .skip (.of_production produces ⟨children, inner, leaves.1⟩) (ihTail leaves.2)

theorem begins_append : grammar.Begins (front ++ back) terminal ↔
    grammar.Begins front terminal ∨ grammar.Vanishes front ∧ grammar.Begins back terminal := by
  constructor
  · intro begins
    induction front with
    | nil => exact .inr ⟨vanishes_nil, begins⟩
    | cons symbol front ih =>
        cases begins with
        | terminal terminal _ => exact .inl (.terminal terminal front)
        | nonterminal produces inner => exact .inl (.nonterminal produces inner)
        | skip vanishes tail =>
            rcases ih tail with inFront | ⟨nothing, inBack⟩
            · exact .inl (.skip vanishes inFront)
            · exact .inr ⟨vanishes.append nothing, inBack⟩
  · rintro (begins | ⟨⟨_, derives, leaves⟩, begins⟩)
    · exact begins.append back
    · exact begins.behind derives leaves

theorem Begins.of_rewrites (step : grammar.Rewrites front back)
    (begins : grammar.Begins back terminal) : grammar.Begins front terminal := by
  cases step with
  | @expand head production before after produces =>
      rw [List.append_assoc, begins_append, begins_append] at begins
      rw [begins_append]
      rcases begins with early | ⟨nothing, inBody | ⟨bodyVanishes, late⟩⟩
      · exact .inl early
      · exact .inr ⟨nothing, .nonterminal produces inBody⟩
      · exact .inr ⟨nothing, .skip (.of_production produces bodyVanishes) late⟩

theorem begins_iff : grammar.Begins symbols terminal ↔
    ∃ rest, grammar.RewritesTo symbols (.terminal terminal :: rest) := by
  constructor
  · intro begins
    induction begins with
    | terminal terminal rest => exact ⟨rest, .refl⟩
    | @nonterminal head production others terminal produces _ ih =>
        obtain ⟨rest, steps⟩ := ih
        have expanded : grammar.RewritesTo [.nonterminal head] (.terminal terminal :: rest) :=
          (RewritesTo.of_production produces).trans steps
        exact ⟨rest ++ others, expanded.append .refl⟩
    | @skip head others terminal vanishes _ ih =>
        obtain ⟨rest, steps⟩ := ih
        exact ⟨rest, (vanishes_iff.mp vanishes).append steps⟩
  · rintro ⟨rest, steps⟩
    induction steps using Relation.ReflTransGen.head_induction_on with
    | refl => exact .terminal terminal rest
    | head step _ ih => exact ih.of_rewrites step

end FlatGrammar

namespace FirstSets
open FlatGrammar

theorem sequenceNullable_singleton (sets : FirstSets) (symbol : Symbol) :
    sets.sequenceNullable [symbol] = sets.isNullable symbol := by
  rw [sequenceNullable, List.all_cons, List.all_nil, Bool.and_true]

theorem isNullable_iff {grammar : FlatGrammar} {symbol : Symbol} :
    (compute grammar).isNullable symbol = true ↔ grammar.Vanishes [symbol] := by
  rw [← sequenceNullable_singleton, sequenceNullable_iff]

theorem mem_firstOfSequence_singleton {sets : FirstSets} {symbol : Symbol} {terminal : Terminal} :
    terminal ∈ sets.firstOfSequence [symbol] ↔ terminal ∈ sets.first symbol := by
  rw [mem_firstOfSequence_cons]
  exact or_iff_left fun inRest => OrderedSet.not_mem_empty terminal inRest.2

/-- The rounds end with sets that are exact for every grammar: a sequence counts as nullable if and
only if it is rewritten to nothing, and its terminals are those that come first in what it is rewritten
to. -/
theorem computed_exact (grammar : FlatGrammar) :
    (∃ rounds, repeatWhile (sweep grammar grammar.productions.toList) rounds {} =
      some (compute grammar)) ∧
    (∀ symbols, (compute grammar).sequenceNullable symbols = true ↔
      grammar.RewritesTo symbols []) ∧
    (∀ symbols terminal, terminal ∈ (compute grammar).firstOfSequence symbols ↔
      ∃ rest, grammar.RewritesTo symbols (.terminal terminal :: rest)) ∧
    (∀ symbol, (compute grammar).isNullable symbol = true ↔ grammar.RewritesTo [symbol] []) ∧
    ∀ symbol terminal, terminal ∈ (compute grammar).first symbol ↔
      ∃ rest, grammar.RewritesTo [symbol] (.terminal terminal :: rest) := by
  have nullable (symbols : List Symbol) : (compute grammar).sequenceNullable symbols = true ↔
      grammar.RewritesTo symbols [] := sequenceNullable_iff.trans vanishes_iff
  have first (symbols : List Symbol) (terminal : Terminal) :
      terminal ∈ (compute grammar).firstOfSequence symbols ↔
        ∃ rest, grammar.RewritesTo symbols (.terminal terminal :: rest) :=
    mem_firstOfSequence_iff.trans begins_iff
  refine ⟨exists_repeatWhile_sweep grammar, nullable, first, ?_, ?_⟩
  · intro symbol
    rw [← sequenceNullable_singleton, nullable]
  · intro symbol terminal
    rw [← mem_firstOfSequence_singleton, first]

/-- Two nonterminals that stand for each other: one of them can end, and neither begins with what only
stands behind the one that never ends. -/
example :
    let grammar : FlatGrammar :=
      { productions := #[⟨"A", [.nonterminal 1]⟩, ⟨"B", [.nonterminal 0]⟩, ⟨"B", []⟩,
          ⟨"C", [.nonterminal 2, .terminal 7]⟩, ⟨"C", [.nonterminal 0, .terminal 8]⟩]
        nonterminals := [⟨"A", 0⟩, ⟨"B", 1⟩, ⟨"C", 2⟩] }
    (compute grammar).nullables.members = [0, 1] ∧
      ((compute grammar).first (.nonterminal 2)).members = [8] := by
  decide +kernel

end FirstSets

end CanonicalLR
