import CanonicalLR.Proofs.Derivation.Rewriting
import CanonicalLR.Proofs.Parse.Simulation
import CanonicalLR.Proofs.Table.Built

namespace CanonicalLR

namespace Table
open FlatGrammar ItemSystem

variable {vocabulary : Vocabulary} {grammar : FlatGrammar} {start : Nat} {tree : Tree}
  {eof : Token}

theorem run_unique {mode : Mode} {table : Table} {steps more : Nat} {configuration : Configuration}
    {outcome other : Configuration × Halt} (ends : run mode table steps configuration = some outcome)
    (also : run mode table more configuration = some other) : outcome = other := by
  have first := run_of_le ends (Nat.le_max_left steps more)
  have second := run_of_le also (Nat.le_max_right steps more)
  rw [first] at second
  exact Option.some.inj second

theorem run_leaves {mode : Mode} (augmented : grammar.Augmented start) (unused : grammar.StartUnused)
    (free : (canonical vocabulary grammar).conflicts = [])
    (derives : grammar.Derives [.nonterminal start] [tree]) (ends : eof.isEof = true) :
    ∃ steps states, run mode (canonical vocabulary grammar) steps
      (.start (tree.leaves ++ [eof])) = some (⟨states, [tree], [eof], []⟩, .accepted) := by
  have kind : eof.kind = Terminal.eof := eq_of_beq ends
  have remains : (ofGrammar grammar).remaining ⟨0, 0⟩ = [.nonterminal start] ++ [] :=
    augmented.remaining_start
  have follows : grammar.MayFollow [] ⟨0, 0⟩ [] eof.kind := by
    rw [kind]
    exact .inr ⟨vanishes_nil, .start⟩
  have none : ([] : List Tree).length = ([] : List Symbol).length := rfl
  have one : [tree].length = ([.nonterminal start] : List Symbol).length := rfl
  have simulated := simulate mode [] [] augmented free derives .start none .start remains follows
  rw [forestLeaves_singleton] at simulated
  rcases simulated with ⟨states, trail, _, reaches⟩ | ⟨used, _⟩
  · obtain ⟨moved, same, complete, item⟩ := ValidItem.start.advance remains
    have found : grammar.productions[moved.production]? =
        some ⟨Rule.startName, [.nonterminal start]⟩ := by
      rw [same]
      exact augmented.start
    rw [← kind] at item
    rcases step_completion mode [] [] augmented free trail one found complete item with
      ⟨other, _⟩ | ⟨_, halts⟩
    · exact absurd rfl other
    · obtain ⟨steps, ran⟩ := run_of_reaches reaches (run_of_halt halts)
      exact ⟨steps, states, ran⟩
  · exact absurd unused used

variable {source : Grammar} {id : RuleId} {table : Table} {rule : Rule}

/-- Without conflicts a tree of the root is what its leaves are parsed to, with repetitions spliced
out, and there is no other tree with these leaves. -/
theorem parse_leaves (constructed : source.Constructed)
    (ok : (build vocabulary source id).1 = .ok table) (free : table.conflicts = [])
    (few : table.nonterminals.length ≤ 90000) (found : source.get? id = some rule)
    (derived : table.grammar.IsTreeOf rule.name tree) (ends : eof.isEof = true) :
    (∃ steps states, ∀ more, steps ≤ more →
      table.parse more (tree.leaves ++ [eof]) = some (.ok ⟨some tree.spliced, [], states⟩)) ∧
    ∀ other, table.grammar.IsTreeOf rule.name other → other.leaves = tree.leaves →
      other = tree := by
  obtain ⟨owner, start, foundOwner, built⟩ := built_of_build constructed ok
  rw [found] at foundOwner
  cases foundOwner
  have canonical := built.canonical
  have runs {tree : Tree} (derives : table.grammar.Derives [.nonterminal start] [tree]) :
      ∃ steps states, run .recover table steps (.start (tree.leaves ++ [eof])) =
        some (⟨states, [tree], [eof], []⟩, .accepted) := by
    rw [canonical] at free ⊢
    exact run_leaves built.augmented (built.unused few) free derives ends
  have root {tree : Tree} (derived : table.grammar.IsTreeOf rule.name tree) :
      table.grammar.Derives [.nonterminal start] [tree] := by
    obtain ⟨number, numbered, derives⟩ := derived
    obtain rfl : number = start := Option.some.inj (numbered.symm.trans built.numbered)
    exact derives
  constructor
  · obtain ⟨steps, states, ran⟩ := runs (root derived)
    refine ⟨steps, states, fun more enough => ?_⟩
    rw [parse, run_of_le ran enough]
    simp only [Option.map_some, parseAnswer, Configuration.result, List.reverse_singleton,
      built.splice_tree few (root derived), List.head?_cons]
  · intro other derivedOther leaves
    obtain ⟨steps, states, ran⟩ := runs (root derived)
    -- With the same leaves it is the same run.
    obtain ⟨_, _, ranOther⟩ := runs (root derivedOther)
    rw [leaves] at ranOther
    have same := run_unique ranOther ran
    simp only [Prod.mk.injEq, Configuration.mk.injEq, List.cons.injEq, and_true] at same
    exact same.2

def twoItems : Tree :=
  .node "list" [.leaf (tokenOfKind 0), .node "MANY_0" [.leaf (tokenOfKind 1), .leaf (tokenOfKind 0),
    .node "MANY_0" []]]

theorem derives_twoItems : itemListTable.grammar.IsTreeOf "list" twoItems := by
  have ended : Grammar.flatItemList.HasProduction 10001 ⟨"MANY_0", []⟩ := by decide +kernel
  have round : Grammar.flatItemList.HasProduction 10001
      ⟨"MANY_0", [.terminal 1, .terminal 0, .nonterminal 10001]⟩ := by decide +kernel
  have list : Grammar.flatItemList.HasProduction 10000
      ⟨"list", [.terminal 0, .nonterminal 10001]⟩ := by decide +kernel
  refine ⟨10000, rfl, .nonterminal list ?_ .nil⟩
  refine .terminal (tokenOfKind 0) (.nonterminal round ?_ .nil)
  exact .terminal (tokenOfKind 1) (.terminal (tokenOfKind 0) (.nonterminal ended .nil .nil))

theorem parse_leaves_itemList :
    itemListTable.grammar.IsTreeOf "list" twoItems ∧
      (∃ steps states, ∀ more, steps ≤ more →
        itemListTable.parse more ([0, 1, 0].map tokenOfKind ++ [tokenOfKind Terminal.eof]) =
          some (.ok ⟨some (.node "list" ([0, 1, 0].map fun kind => .leaf (tokenOfKind kind))), [],
            states⟩)) ∧
      ∀ other, itemListTable.grammar.IsTreeOf "list" other → other.leaves = twoItems.leaves →
        other = twoItems := by
  have ends : (tokenOfKind Terminal.eof).isEof = true := rfl
  have applied := parse_leaves Grammar.constructed_itemList build_itemList conflicts_itemListTable
    (by decide) rfl derives_twoItems ends
  have spliced : twoItems.spliced =
      .node "list" ([0, 1, 0].map fun kind => .leaf (tokenOfKind kind)) := by decide
  rw [spliced] at applied
  exact ⟨derives_twoItems, applied⟩

end Table

end CanonicalLR
