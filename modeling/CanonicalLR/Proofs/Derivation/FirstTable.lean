import CanonicalLR.Item.First

namespace CanonicalLR

namespace FirstTable

variable (table : FirstTable)

theorem isNullable_sets : table.sets.isNullable = table.isNullable := by
  funext symbol
  cases symbol with
  | terminal _ => rfl
  | nonterminal index =>
      rw [isNullable, Bool.eq_iff_iff, Std.TreeSet.contains_iff_mem, ← OrderedSet.mem_ofTree]
      exact decide_eq_true_iff

theorem first_sets : table.sets.first = table.first := by
  funext symbol
  cases symbol with
  | terminal _ => rfl
  | nonterminal index => rw [FirstSets.first, first, sets, OrderedMap.get?_ofTree]

theorem firstOfSequence_sets (sequence : List Symbol) :
    table.sets.firstOfSequence sequence = table.firstOfSequence sequence := by
  induction sequence with
  | nil => rfl
  | cons symbol rest ih => simp only [FirstSets.firstOfSequence, firstOfSequence, ih,
      isNullable_sets, first_sets]

theorem sets_noteNullable (head : Nat) (body : List Symbol) :
    (table.noteNullable head body).sets = { table.sets with
      nullables := if table.sets.sequenceNullable body then table.sets.nullables.insert head
        else table.sets.nullables } := by
  rw [FirstSets.sequenceNullable, isNullable_sets, noteNullable]
  split
  · rw [sets, sets, OrderedSet.insert_ofTree]
  · rfl

theorem sets_add (head : Nat) (body : List Symbol) :
    (table.add head body).sets = table.sets.add head body := by
  rw [add, FirstSets.add, ← sets_noteNullable]
  generalize table.noteNullable head body = noted
  rw [firstOfSequence_sets, sets, sets, OrderedMap.alter_ofTree]
  rfl

theorem sets_addAll (grammar : FlatGrammar) :
    (table.addAll grammar).sets = table.sets.addAll grammar := by
  rw [addAll, FirstSets.addAll]
  induction grammar.productions.toList generalizing table with
  | nil => rfl
  | cons production rest ih =>
      rw [List.foldl_cons, List.foldl_cons, ih, FlatGrammar.getElem?_heads]
      congr 1
      cases grammar.headIndex? production.head with
      | none => rfl
      | some head => exact table.sets_add head production.body

end FirstTable

theorem FirstSets.compute_eq_settle (grammar : FlatGrammar) :
    compute grammar =
      settle (addAll grammar) (grammar.productions.size * (bodySymbols grammar + 2) + 1) {} :=
  image_settleThrough (fun table => FirstTable.sets_addAll table grammar) _ {}

end CanonicalLR
