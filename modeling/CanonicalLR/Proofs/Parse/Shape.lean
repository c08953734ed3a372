import CanonicalLR.Proofs.Flat.Shape
import CanonicalLR.Proofs.Parse.Turns

namespace CanonicalLR

namespace Table
open FlatGrammar

variable {vocabulary : Vocabulary} {source : Grammar} {id : RuleId} {table : Table}
  {tokens : List Token} {tree : Tree}

theorem shaped_of_sound (constructed : source.Constructed)
    (ok : (build vocabulary source id).1 = .ok table) (few : table.nonterminals.length ≤ 90000)
    {path : List Symbol} {configuration : Configuration}
    (sound : Sound table.grammar path configuration) :
    ∀ piece ∈ splice configuration.trees.reverse, source.Shaped id piece := by
  have apart := constructed.namesApart
  obtain ⟨expansion, start, all, rule, rfl, invariant, rootIn, found, numbered⟩ :=
    flattened_of_build constructed ok
  rw [grammar_canonical] at sound
  have hereditary := invariant.hereditary_leads apart rootIn found numbered
  have leads := hereditary.trail (invariant.augmented apart) (.rule .refl found numbered) sound.trail
  have shaped := invariant.shaped apart few rootIn hereditary sound.derives
    fun symbol member => leads symbol (List.mem_reverse.mp member)
  intro piece member
  rw [splice_eq] at member
  obtain ⟨tree, inTrees, inPieces⟩ := mem_forestPieces.mp member
  exact (shaped tree inTrees).2 piece inPieces

theorem shaped_of_parse (constructed : source.Constructed)
    (ok : (build vocabulary source id).1 = .ok table) (few : table.nonterminals.length ≤ 90000)
    {steps : Nat} {result : ParseResult}
    (answers : table.parse steps tokens = some (.ok result)) (given : result.tree = some tree) :
    source.Shaped id tree := by
  obtain ⟨rule, start, _, built⟩ := built_of_build constructed ok
  obtain ⟨last, reason, ran, rfl⟩ := run_of_parse answers
  obtain ⟨path, sound⟩ := built.ended ran
  exact shaped_of_sound constructed ok few sound tree (List.mem_of_mem_head? given)

theorem shaped_of_parse_itemList :
    ∃ result, itemListTable.parse 20
        ([0, 0, 1, 0].map tokenOfKind ++ [tokenOfKind Terminal.eof]) = some (.ok result) ∧
      result.errors.length = 1 ∧ ∃ tree,
        tree = .node "list" ([0, 1, 0].map fun kind => .leaf (tokenOfKind kind)) ∧
        result.tree = some tree ∧ Grammar.itemList.Shaped 0 tree := by
  have ends : ((itemListTable.parse 20
      ([0, 0, 1, 0].map tokenOfKind ++ [tokenOfKind Terminal.eof])).bind Except.toOption).map
        (fun result => (result.tree, result.errors.length)) =
      some (some (.node "list" ([0, 1, 0].map fun kind => .leaf (tokenOfKind kind))), 1) := by
    decide +kernel
  obtain ⟨result, answered, same⟩ := Option.map_eq_some_iff.mp ends
  obtain ⟨answer, answers, isOk⟩ := Option.bind_eq_some_iff.mp answered
  obtain ⟨tree, errors⟩ := Prod.ext_iff.mp same
  cases answer with
  | error error => cases isOk
  | ok other =>
      cases isOk
      exact ⟨result, answers, errors, _, rfl, tree,
        shaped_of_parse Grammar.constructed_itemList build_itemList (by decide) answers tree⟩

end Table

end CanonicalLR
