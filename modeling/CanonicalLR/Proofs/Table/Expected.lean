import CanonicalLR.Proofs.Lexical.Vocabulary
import CanonicalLR.Proofs.Table.Claims
import CanonicalLR.Table.Expected

namespace CanonicalLR

theorem mem_extendUnique {list more : List String} {text : String} :
    text ∈ extendUnique list more ↔ text ∈ list ∨ text ∈ more := by
  induction more generalizing list with
  | nil => simp [extendUnique]
  | cons head rest ih =>
      have step : extendUnique list (head :: rest) =
          extendUnique (if list.contains head then list else list ++ [head]) rest := rfl
      rw [step, ih]
      split
      · rename_i held
        have member := List.contains_iff_mem.mp held
        simp only [List.mem_cons]
        constructor
        · tauto
        · rintro (old | rfl | later)
          · exact .inl old
          · exact .inl member
          · exact .inr later
      · simp only [List.mem_append, List.mem_cons, List.not_mem_nil, or_false, or_assoc]

namespace Table

variable {vocabulary : Vocabulary} {grammar : FlatGrammar} {state : Nat} {terminal : Terminal}
  {name : String}

theorem mem_tokens_expected {table : Table} :
    name ∈ (table.expected state).tokens ↔ ∃ terminal ∈ table.acceptedTerminals state,
      table.terminalName? terminal = some name := by
  simp only [expected, mem_extendUnique, List.not_mem_nil, false_or, List.mem_map,
    List.mem_filterMap, terminalName?, Option.map_eq_some_iff]
  constructor
  · rintro ⟨entry, ⟨terminal, accepted, found⟩, named⟩
    exact ⟨terminal, accepted, entry, found, named⟩
  · rintro ⟨terminal, accepted, entry, found, named⟩
    exact ⟨entry, ⟨terminal, accepted, found⟩, named⟩

theorem mem_acceptedTerminals :
    terminal ∈ (canonical vocabulary grammar).acceptedTerminals state ↔
      ((canonical vocabulary grammar).action? state terminal).isSome := by
  have partition (terminals : List Terminal) : terminal ∈ terminals.filter (· != Terminal.eof) ++
      terminals.filter (· == Terminal.eof) ↔ terminal ∈ terminals := by
    by_cases same : terminal = Terminal.eof <;> simp [same]
  rw [acceptedTerminals, partition, canonical, action?_ofAutomaton, ofAutomaton]
  simp only [Array.getElem?_map, Option.map_map]
  cases (ItemSystem.ofGrammar grammar).automaton.states[state]? with
  | none => simp
  | some held =>
      rw [Option.map_some, Option.getD_some, Option.bind_some, Option.isSome_iff_exists]
      simp [OrderedMap.get?_eq_some_iff, actionCells]

theorem pairwise_terminalEntries (constructed : vocabulary.Constructed) :
    vocabulary.terminalEntries.toList.Pairwise (·.index < ·.index) := by
  have listed : vocabulary.terminalEntries.toList =
      ⟨Terminal.eof, Terminal.eofName, none⟩ :: vocabulary.kinds.toList.map fun kind =>
        ⟨kind.index, kind.name, (vocabulary.groupOf? kind.index).map (·.name)⟩ := by
    rw [Vocabulary.terminalEntries, Array.toList_append, Array.toList_map]
    rfl
  rw [listed, List.pairwise_cons, List.pairwise_map, List.pairwise_iff_getElem]
  constructor
  · intro entry member
    obtain ⟨kind, inKinds, rfl⟩ := List.mem_map.mp member
    obtain ⟨place, found⟩ := Array.mem_iff_getElem?.mp (Array.mem_toList_iff.mp inKinds)
    rw [constructed.numbered found]
    exact Int.negSucc_lt_zero 0 |>.trans_le (Int.natCast_nonneg place)
  · intro first second lessFirst lessSecond before
    rw [Array.length_toList] at lessFirst lessSecond
    rw [Array.getElem_toList, Array.getElem_toList,
      constructed.numbered (Array.getElem?_eq_getElem lessFirst),
      constructed.numbered (Array.getElem?_eq_getElem lessSecond)]
    exact Int.ofNat_lt.mpr before

end Table

end CanonicalLR
