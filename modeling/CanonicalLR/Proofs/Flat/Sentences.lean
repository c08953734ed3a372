import CanonicalLR.Proofs.Flat.Reachable

namespace CanonicalLR

namespace Expansion
open FlatGrammar

variable {grammar : Grammar} {start : Nat} {all : List RuleId} {expansion : Expansion}
  {root id : RuleId} {rule : Rule} {body : List Op} {number : Nat} {word : List Terminal}

theorem Yields.exists_tree {flat : FlatGrammar} {symbol : Symbol}
    (yields : Yields flat {[symbol]} word) :
    ∃ tree, flat.Derives [symbol] [tree] ∧ tree.leaves.map (·.kind) = word := by
  obtain ⟨_, rfl, trees, derives, rfl⟩ := yields
  obtain ⟨tree, rfl⟩ := List.length_eq_one_iff.mp derives.length_eq
  refine ⟨tree, derives, ?_⟩
  rw [spelled, forestLeaves_singleton]

theorem Flattened.matches_iff (invariant : Flattened grammar start [] all expansion)
    (apart : grammar.NamesApart) (few : expansion.flat.nonterminals.length ≤ 90000)
    (member : id ∈ all) (found : grammar.get? id = some rule)
    (numbered : expansion.number? rule.name = some number)
    (defined : grammar.bodyOf? id = some body) :
    grammar.Matches body word ↔ ∃ tree, expansion.flat.Derives [.nonterminal number] [tree] ∧
      tree.leaves.map (·.kind) = word := by
  obtain ⟨other, same, compiled, covered⟩ := invariant.compiled member found
  rw [defined] at same
  cases same
  constructor
  · intro matched
    have yields := yields_of_matches invariant apart few matched compiled covered
    exact (invariant.yields_nonterminal apart few numbered yields).exists_tree
  · rintro ⟨tree, derives, rfl⟩
    have reads := reads_of_derives invariant apart few derives
    rw [spelled, forestLeaves_singleton] at reads
    exact reads.of_singleton body (.rule numbered compiled covered)

end Expansion

end CanonicalLR
