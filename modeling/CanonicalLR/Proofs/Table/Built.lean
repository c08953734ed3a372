import CanonicalLR.Proofs.Flat.Rules
import CanonicalLR.Proofs.Table.Claims
import CanonicalLR.Proofs.Tree.Splice

namespace CanonicalLR

namespace Table

/-- The flat grammar that a table was made from. -/
def grammar (table : Table) : FlatGrammar :=
  { productions := table.productions
    nonterminals := table.nonterminals }

variable {vocabulary : Vocabulary} {source : Grammar} {root : RuleId} {table : Table}

@[simp] theorem grammar_canonical (vocabulary : Vocabulary) (grammar : FlatGrammar) :
    (Table.canonical vocabulary grammar).grammar = grammar := rfl

structure Built (vocabulary : Vocabulary) (table : Table) (rule : Rule) (start : Nat) : Prop where
  canonical : table = canonical vocabulary table.grammar
  augmented : table.grammar.Augmented start
  unused : table.nonterminals.length ≤ 90000 → table.grammar.StartUnused
  numbered : table.nonterminalIndex? rule.name = some start
  named : table.nonterminals.length ≤ 90000 → ∀ production,
    table.grammar.HasProduction start production → production.head = rule.name
  plain : Rule.isRepetition rule.name = false

theorem flattened_of_build (constructed : source.Constructed)
    (ok : (build vocabulary source root).1 = .ok table) :
    ∃ expansion start all rule, table = Table.canonical vocabulary expansion.flat ∧
      Expansion.Flattened source start [] all expansion ∧ root ∈ all ∧ source.get? root = some rule ∧
      expansion.number? rule.name = some start := by
  obtain ⟨grammar, flattened, rfl⟩ := build_eq_ok_iff.mp ok
  obtain ⟨expansion, start, all, rule, rfl, invariant⟩ :=
    Grammar.flattened_of_flatten constructed.namesApart flattened
  exact ⟨expansion, start, all, rule, rfl, invariant⟩

theorem built_of_build (constructed : source.Constructed)
    (ok : (build vocabulary source root).1 = .ok table) :
    ∃ rule start, source.get? root = some rule ∧ Built vocabulary table rule start := by
  have apart := constructed.namesApart
  obtain ⟨expansion, start, _, rule, rfl, invariant, _, found, numbered⟩ :=
    flattened_of_build constructed ok
  have plain := apart.unreserved_of_get? found
  rw [Rule.isReserved, Bool.or_eq_false_iff] at plain
  refine ⟨rule, start, found, rfl, invariant.augmented apart, invariant.startUnused apart,
    (invariant.tidy.nonterminalIndex?_eq_some_iff apart).mpr (.inl numbered), ?_, plain.2⟩
  intro few production produces
  exact ((invariant.hasProduction_iff apart few numbered).mp produces).1

theorem Built.splice_tree {rule : Rule} {start : Nat} (built : Built vocabulary table rule start)
    (few : table.nonterminals.length ≤ 90000) {tree : Tree}
    (derives : table.grammar.Derives [.nonterminal start] [tree]) :
    splice [tree] = [tree.spliced] := by
  cases derives with
  | nonterminal produces _ _ =>
      apply splice_singleton
      rw [built.named few _ produces]
      exact built.plain

/-! ### The table of a list -/

def itemListTable : Table :=
  Table.canonical {} Grammar.flatItemList

theorem build_itemList : (build {} Grammar.itemList 0).1 = .ok itemListTable :=
  build_eq_ok_iff.mpr ⟨_, Grammar.flatten_itemList, rfl⟩

theorem conflicts_itemListTable : itemListTable.conflicts = [] := by decide +kernel

end Table

end CanonicalLR
