import CanonicalLR.Proofs.Parse.Changes
import CanonicalLR.Proofs.Table.Built
import CanonicalLR.Proofs.Tree.Folding

namespace CanonicalLR

namespace Table
open FlatGrammar ItemSystem

variable {mode : Mode} {table : Table} {before : Configuration} {tokens : List Token}

def ReducesTo (table : Table) (name : String) : Prop :=
  ∃ state terminal index production, table.action? state terminal = some (.reduce index) ∧
    table.productions[index]? = some production ∧ production.head = name ∧
    (table.nonterminalIndex? name).isSome

theorem Change.labels {result : Step} (change : Change mode table before result)
    (known : ∀ name ∈ forestLabels before.trees, table.ReducesTo name) :
    ∀ name ∈ forestLabels result.configuration.trees, table.ReducesTo name := by
  cases change with
  | reduce acts reduces =>
      obtain ⟨production, head, _, _, _, found, numbered, _, _, _, rfl⟩ := reduce_eq_ok reduces
      intro name member
      simp only [Step.configuration, forestLabels, Tree.labels, List.cons_append, List.mem_cons,
        List.mem_append, mem_forestLabels, List.mem_reverse] at member
      rcases member with rfl | ⟨tree, taken, inTree⟩ | ⟨tree, left, inTree⟩
      · obtain ⟨state, _, token, _, _, _, acts⟩ := exists_of_nextAction? acts
        exact ⟨state, token.kind, _, production, acts, found, rfl,
          Option.isSome_iff_exists.mpr ⟨head, numbered⟩⟩
      · exact known name (mem_forestLabels.mpr ⟨tree, List.mem_of_mem_take taken, inTree⟩)
      · exact known name (mem_forestLabels.mpr ⟨tree, List.mem_of_mem_drop left, inTree⟩)
  | _ => exact known

theorem labels_of_reaches (reaches : Reaches mode table (.start tokens) before) :
    ∀ name ∈ forestLabels before.trees, table.ReducesTo name := by
  induction reaches with
  | refl => exact fun _ member => absurd member List.not_mem_nil
  | tail _ stepped ih => exact (change_of_step stepped).labels ih

theorem labels_of_run {steps : Nat} {last : Configuration} {reason : Halt}
    (ran : run mode table steps (.start tokens) = some (last, reason)) :
    ∀ name ∈ forestLabels last.trees, table.ReducesTo name := by
  obtain ⟨before, reaches, halts⟩ := exists_halt_of_run ran
  exact (change_of_step halts).labels (labels_of_reaches reaches)

theorem labels_of_parse {steps : Nat} {result : ParseResult} {tree : Tree}
    (answers : table.parse steps tokens = some (.ok result)) (given : result.tree = some tree) :
    ∀ name ∈ tree.labels, table.ReducesTo name ∧ Rule.isRepetition name = false := by
  obtain ⟨last, reason, ran, rfl⟩ := run_of_parse answers
  intro name member
  have spliced : name ∈ forestLabels (splice last.trees.reverse) :=
    mem_forestLabels.mpr ⟨tree, List.mem_of_mem_head? given, member⟩
  rw [splice_eq, forestLabels_forestPieces, List.mem_filter, Bool.not_eq_true'] at spliced
  obtain ⟨inForest, plain⟩ := spliced
  obtain ⟨other, onStack, inOther⟩ := mem_forestLabels.mp inForest
  exact ⟨labels_of_run ran name
    (mem_forestLabels.mpr ⟨other, List.mem_reverse.mp onStack, inOther⟩), plain⟩

variable {vocabulary : Vocabulary} {source : Grammar} {id : RuleId}

theorem ReducesTo.ne_startName (built : (build vocabulary source id).1 = .ok table) {name : String}
    (reduces : table.ReducesTo name) : name ≠ Rule.startName := by
  obtain ⟨grammar, _, rfl⟩ := build_eq_ok_iff.mp built
  obtain ⟨state, terminal, index, production, acts, found, rfl, _⟩ := reduces
  rw [canonical, action?_ofAutomaton] at acts
  obtain ⟨held, _, cell⟩ := Option.bind_eq_some_iff.mp acts
  obtain ⟨⟨core, lookaheads⟩, _, claimed⟩ := List.mem_flatMap.mp (mem_of_get?_rowOf cell)
  rcases mem_claimsOfItem.mp claimed with ⟨_, _, _, _, shifts⟩ | ⟨claimant, known, _, _, completes⟩
  · cases shifts
  · obtain ⟨other, rfl⟩ := completion_eq_reduce_iff.mp completes.symm
    rw [productions_canonical, known] at found
    cases found
    exact other

theorem ReducesTo.mem_nonterminals {name : String} (reduces : table.ReducesTo name) :
    ∃ entry ∈ table.nonterminals, entry.name = name := by
  obtain ⟨_, _, _, _, _, _, _, numbered⟩ := reduces
  rw [nonterminalIndex?, CanonicalLR.nonterminalIndex?, Option.isSome_map] at numbered
  obtain ⟨entry, found⟩ := Option.isSome_iff_exists.mp numbered
  exact ⟨entry, List.mem_of_find?_eq_some found, by simpa using List.find?_some found⟩

variable {m : Type → Type} {α : Type} [Monad m] [LawfulMonad m] {visitor : Visitor m α}

/-- A visitor that covers a table folds every tree that parsing with the table gives. -/
theorem visit_of_ensureCovers (built : (build vocabulary source id).1 = .ok table)
    (covers : visitor.ensureCovers table = .ok ()) {steps : Nat} {result : ParseResult}
    (answers : table.parse steps tokens = some (.ok result)) :
    (∀ tree, result.tree = some tree →
      ∃ action : m α, (visitor.visit result).run = Except.ok <$> action) ∧
    (result.tree = none → visitor.visit result = throw .emptyTree) := by
  constructor
  · intro tree given
    have handled : ∀ name ∈ tree.labels, visitor.handles name = true := by
      intro name member
      obtain ⟨reduces, plain⟩ := labels_of_parse answers given name member
      obtain ⟨entry, listed, rfl⟩ := reduces.mem_nonterminals
      apply Visitor.ensureCovers_eq_ok_iff.mp covers entry listed
      simp [Visitor.isVisited, plain, reduces.ne_startName built]
    obtain ⟨action, value⟩ := visitor.exists_valueOf tree handled
    refine ⟨action, ?_⟩
    rw [Visitor.visit, given]
    simp only [Visitor.fold_eq, value]
    rfl
  · intro missing
    rw [Visitor.visit, missing]

def lengths : Visitor (StateM (List String)) Nat :=
  Visitor.on { leaf := fun _ => return 1 } "list" fun name _ values => do
    modify (· ++ [name])
    return values.sum

theorem visit_of_ensureCovers_itemList :
    (build {} Grammar.itemList 0).1 = .ok itemListTable ∧
      lengths.ensureCovers itemListTable = .ok () ∧ ∃ result tree, itemListTable.parse 20
        ([0, 0, 1, 0].map tokenOfKind ++ [tokenOfKind Terminal.eof]) = some (.ok result) ∧
      result.errors.length = 1 ∧ result.tree = some tree ∧
      ∃ action : StateM (List String) Nat, (lengths.visit result).run = Except.ok <$> action := by
  have covers : lengths.ensureCovers itemListTable = .ok () :=
    Visitor.ensureCovers_eq_ok_iff.mpr (by decide +kernel)
  have ends : ((itemListTable.parse 20
      ([0, 0, 1, 0].map tokenOfKind ++ [tokenOfKind Terminal.eof])).bind Except.toOption).map
        (fun result => (result.tree.isSome, result.errors.length)) = some (true, 1) := by
    decide +kernel
  obtain ⟨result, answered, same⟩ := Option.map_eq_some_iff.mp ends
  obtain ⟨answer, answers, isOk⟩ := Option.bind_eq_some_iff.mp answered
  obtain ⟨some, errors⟩ := Prod.ext_iff.mp same
  obtain ⟨tree, given⟩ := Option.isSome_iff_exists.mp some
  cases answer with
  | error error => cases isOk
  | ok other =>
      cases isOk
      exact ⟨build_itemList, covers, result, tree, answers, errors, given,
        (visit_of_ensureCovers build_itemList covers answers).1 tree given⟩

end Table

end CanonicalLR
