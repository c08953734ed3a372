import CanonicalLR.Flat.Expansion
import CanonicalLR.Proofs.Grammar.Constructed
import CanonicalLR.Proofs.Grammar.Matching

namespace CanonicalLR

namespace Expansion

def number? (expansion : Expansion) (name : String) : Option Nat :=
  (expansion.names.toList.findIdx? (· == name)).map (firstNonterminal + ·)

def bodiesOf (expansion : Expansion) (head : String) : List (List Symbol) :=
  (expansion.productions.toList.filter (·.head = head)).map (·.body)

def Numbers (expansion : Expansion) (symbols : List Symbol) : Prop :=
  ∀ number, .nonterminal number ∈ symbols → number < firstNonterminal + expansion.names.size

variable {expansion before middle after : Expansion} {name : String}

theorem mem_bodiesOf {head : String} {body : List Symbol} :
    body ∈ expansion.bodiesOf head ↔ ⟨head, body⟩ ∈ expansion.productions := by
  simp only [bodiesOf, List.mem_map, List.mem_filter, Array.mem_toList_iff, decide_eq_true_eq]
  constructor
  · rintro ⟨production, ⟨member, rfl⟩, rfl⟩
    exact member
  · intro member
    exact ⟨_, ⟨member, rfl⟩, rfl⟩

theorem number?_eq_some_iff (nodup : expansion.names.toList.Nodup) {number : Nat} :
    expansion.number? name = some number ↔
      ∃ place, expansion.names[place]? = some name ∧ number = firstNonterminal + place := by
  simp only [number?, Option.map_eq_some_iff]
  apply exists_congr
  intro place
  rw [eq_comm (a := number)]
  apply and_congr_left
  intro _
  rw [List.findIdx?_eq_some_iff_getElem, Array.getElem?_eq_some_iff]
  constructor
  · rintro ⟨less, same, _⟩
    exact ⟨by simpa using less, by simpa using same⟩
  · rintro ⟨less, same⟩
    refine ⟨by simpa using less, by simpa using same, ?_⟩
    intro earlier before equal
    have inNames : place < expansion.names.toList.length := by simpa using less
    have earlierIn : earlier < expansion.names.toList.length := Nat.lt_trans before inNames
    have repeated : expansion.names.toList[earlier] = expansion.names.toList[place] := by
      rw [eq_of_beq equal, Array.getElem_toList, same]
    exact Nat.ne_of_lt before (nodup.getElem_inj_iff.mp repeated)

/-! ### What later expansions keep -/

structure Extends (before after : Expansion) : Prop where
  names : before.names.toList <+: after.names.toList
  productions : before.productions.toList <+: after.productions.toList
  settled : ∀ number, before.bodiesOf (repetitionName number) ≠ [] →
    after.bodiesOf (repetitionName number) = before.bodiesOf (repetitionName number)

theorem Extends.refl (expansion : Expansion) : Extends expansion expansion :=
  ⟨List.prefix_refl _, List.prefix_refl _, fun _ _ => rfl⟩

theorem Extends.trans (earlier : Extends before middle) (later : Extends middle after) :
    Extends before after := by
  refine ⟨earlier.names.trans later.names, earlier.productions.trans later.productions, ?_⟩
  intro number some
  have same := earlier.settled number some
  rw [← same]
  apply later.settled
  rw [same]
  exact some

theorem Extends.number? (extension : Extends before after) {number : Nat}
    (numbered : before.number? name = some number) : after.number? name = some number := by
  obtain ⟨place, found, rfl⟩ := Option.map_eq_some_iff.mp numbered
  obtain ⟨more, names⟩ := extension.names
  rw [Expansion.number?, ← names, List.findIdx?_append, found]
  rfl

theorem Extends.numbers (extension : Extends before after) {symbols : List Symbol}
    (numbers : before.Numbers symbols) : after.Numbers symbols := by
  intro number member
  have less := numbers number member
  have longer := extension.names.length_le
  rw [Array.length_toList, Array.length_toList] at longer
  omega

/-! ### Giving numbers -/

theorem names_addName (expansion : Expansion) (name : String) :
    (expansion.addName name).names.toList = expansion.names.toList ++ [name] :=
  Array.toList_push

theorem number_cases (expansion : Expansion) (name : String) :
    (expansion.number name).2 = expansion ∧ name ∈ expansion.names.toList ∨
      (expansion.number name).2 = expansion.addName name ∧ name ∉ expansion.names.toList := by
  unfold number
  rw [expansion.placed]
  split
  · rename_i place found
    obtain ⟨less, same, _⟩ := List.findIdx?_eq_some_iff_getElem.mp found
    refine .inl ⟨rfl, ?_⟩
    rw [← eq_of_beq same]
    exact List.getElem_mem less
  · rename_i unknown
    refine .inr ⟨rfl, fun member => ?_⟩
    have differs := List.findIdx?_eq_none_iff.mp unknown name member
    rw [beq_self_eq_true] at differs
    cases differs

theorem number?_number (expansion : Expansion) (name : String) :
    (expansion.number name).2.number? name = some (expansion.number name).1 := by
  unfold number
  rw [expansion.placed]
  split
  · rename_i place found
    rw [number?, found]
    rfl
  · rename_i unknown
    rw [number?, names_addName, List.findIdx?_append, unknown]
    simp

theorem extends_number (expansion : Expansion) (name : String) :
    Extends expansion (expansion.number name).2 := by
  rcases number_cases expansion name with ⟨same, _⟩ | ⟨pushed, _⟩
  · rw [same]
    exact .refl expansion
  · rw [pushed]
    refine ⟨?_, List.prefix_refl _, fun _ _ => rfl⟩
    rw [names_addName]
    exact List.prefix_append _ _

theorem productions_number (expansion : Expansion) (name : String) :
    (expansion.number name).2.productions = expansion.productions := by
  rcases number_cases expansion name with ⟨same, _⟩ | ⟨pushed, _⟩
  · rw [same]
  · rw [pushed, addName]

theorem repetitions_number (expansion : Expansion) (name : String) :
    (expansion.number name).2.repetitions = expansion.repetitions := by
  rcases number_cases expansion name with ⟨same, _⟩ | ⟨pushed, _⟩
  · rw [same]
  · rw [pushed, addName]

theorem bodiesOf_number (expansion : Expansion) (name head : String) :
    (expansion.number name).2.bodiesOf head = expansion.bodiesOf head := by
  rw [bodiesOf, productions_number]
  rfl

/-! ### Adding productions -/

theorem bodiesOf_push (expansion : Expansion) (head other : String)
    (bodies : List (List Symbol)) :
    (expansion.push head bodies).bodiesOf other =
      expansion.bodiesOf other ++ if head = other then bodies.eraseDups else [] := by
  rw [bodiesOf, push, Array.toList_append, List.filter_append, List.map_append]
  congr 1
  split
  · rename_i same
    simp [same, List.filter_map, Function.comp_def]
  · rename_i differ
    simp [differ, List.filter_map, Function.comp_def]

theorem extends_push (expansion : Expansion) {head : String} (bodies : List (List Symbol))
    (new : ∀ number, head = repetitionName number → expansion.bodiesOf head = []) :
    Extends expansion (expansion.push head bodies) := by
  refine ⟨List.prefix_refl _, ?_, ?_⟩
  · rw [push, Array.toList_append]
    exact List.prefix_append _ _
  · intro number some
    rw [bodiesOf_push, if_neg, List.append_nil]
    intro same
    rw [← same] at some
    exact some (new number same)

/-! ### Tidy expansions -/

structure Tidy (grammar : Grammar) (expansion : Expansion) : Prop where
  nodup : expansion.names.toList.Nodup
  named : ∀ name ∈ expansion.names.toList, (∃ rule ∈ grammar.rules, rule.name = name) ∨
    ∃ number < expansion.repetitions, name = repetitionName number
  heads : ∀ number, expansion.repetitions ≤ number →
    expansion.bodiesOf (repetitionName number) = []
  numbers : ∀ production ∈ expansion.productions, expansion.Numbers production.body

variable {grammar : Grammar}

theorem Tidy.number (tidy : expansion.Tidy grammar)
    (known : (∃ rule ∈ grammar.rules, rule.name = name) ∨
      ∃ number < expansion.repetitions, name = repetitionName number) :
    (expansion.number name).2.Tidy grammar := by
  have extension := extends_number expansion name
  constructor
  · rcases number_cases expansion name with ⟨same, _⟩ | ⟨pushed, new⟩
    · rw [same]
      exact tidy.nodup
    · rw [pushed, names_addName]
      apply tidy.nodup.append (List.nodup_singleton name)
      intro other member last
      rw [List.mem_singleton.mp last] at member
      exact new member
  · intro other member
    rw [repetitions_number]
    rcases number_cases expansion name with ⟨same, _⟩ | ⟨pushed, _⟩
    · rw [same] at member
      exact tidy.named other member
    · rw [pushed, names_addName, List.mem_append, List.mem_singleton] at member
      rcases member with old | rfl
      · exact tidy.named other old
      · exact known
  · intro number atLeast
    rw [bodiesOf_number]
    rw [repetitions_number] at atLeast
    exact tidy.heads number atLeast
  · intro production member
    rw [productions_number] at member
    exact extension.numbers (tidy.numbers production member)

theorem Tidy.push (tidy : expansion.Tidy grammar) {head : String} {bodies : List (List Symbol)}
    (known : ∀ number, head = repetitionName number → number < expansion.repetitions)
    (numbers : ∀ body ∈ bodies, expansion.Numbers body) :
    (expansion.push head bodies).Tidy grammar := by
  refine ⟨tidy.nodup, tidy.named, ?_, ?_⟩
  · intro number atLeast
    rw [bodiesOf_push, if_neg, List.append_nil]
    · exact tidy.heads number atLeast
    · intro same
      exact absurd (known number same) (Nat.not_lt.mpr atLeast)
  · intro production member
    simp only [Expansion.push, Array.mem_append, List.mem_toArray, List.mem_map] at member
    rcases member with old | ⟨body, listed, rfl⟩
    · exact tidy.numbers production old
    · exact numbers body (List.mem_eraseDups.mp listed)

end Expansion

end CanonicalLR
