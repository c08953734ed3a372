import CanonicalLR.Proofs.Flat.Rules
import CanonicalLR.Proofs.Grammar.Validation

namespace CanonicalLR

def Grammar.Repeated (grammar : Grammar) (root : RuleId) (inner : List Op) : Prop :=
  ∃ id body, grammar.Reaches root id ∧ grammar.bodyOf? id = some body ∧ Written (.many inner) body

namespace Expansion

structure Sourced (grammar : Grammar) (root : RuleId) (todo : List RuleId)
    (expansion : Expansion) : Prop where
  tidy : expansion.Tidy grammar
  reached : ∀ id ∈ todo, grammar.Reaches root id
  heads : ∀ production ∈ expansion.productions, production.head = Rule.startName ∨
    (∃ id rule, grammar.Reaches root id ∧ grammar.get? id = some rule ∧
      production.head = rule.name) ∨
    ∃ repetition < expansion.repetitions, production.head = repetitionName repetition
  repetitions : ∀ repetition < expansion.repetitions,
    ∃ inner, grammar.Repeated root inner ∧ expansion.Repeats grammar repetition inner

variable {grammar : Grammar} {root id : RuleId} {todo flattened : List RuleId} {rule : Rule}
  {body : List Op} {bodies : List (List Symbol)} {before after : Expansion}

theorem Expanded.head_old_or_new {ops : List Op} {bodies result : List (List Symbol)}
    (expanded : Expanded grammar ops bodies before result after) {production : Production}
    (member : production ∈ after.productions) :
    production ∈ before.productions ∨
      ∃ repetition < after.repetitions, production.head = repetitionName repetition := by
  by_cases old : ∀ number, production.head = repetitionName number → number < before.repetitions
  · left
    rw [← Array.mem_toList_iff] at member
    have listed := mem_bodiesOf.mpr (Array.mem_toList_iff.mp member)
    rw [expanded.kept production.head old] at listed
    exact mem_bodiesOf.mp listed
  · right
    push Not at old
    obtain ⟨number, named, _⟩ := old
    refine ⟨number, ?_, named⟩
    by_contra atLeast
    have none := expanded.tidy.heads number (Nat.le_of_not_lt atLeast)
    have listed := mem_bodiesOf.mpr member
    rw [named, none] at listed
    cases listed

theorem Sourced.flattenRule (apart : grammar.NamesApart)
    (sourced : Sourced grammar root (id :: todo) before)
    (found : grammar.get? id = some rule) (defined : rule.body = some body)
    (expands : expandBody grammar [[]] (before.number rule.name).2 body = .ok (bodies, after)) :
    Sourced grammar root (bodyReferences body ++ todo) (after.push rule.name bodies) := by
  obtain ⟨expanded, tidy, pushed, extension⟩ := expanded_rule apart sourced.tidy found expands
  obtain ⟨here, others⟩ := List.forall_mem_cons.mp sourced.reached
  have bodyOf : grammar.bodyOf? id = some body :=
    Grammar.bodyOf?_eq_some_iff.mpr ⟨rule, found, defined⟩
  have counted : (before.number rule.name).2.repetitions = before.repetitions :=
    repetitions_number before rule.name
  have more := expanded.repetitions
  refine ⟨tidy, List.forall_mem_append.mpr ⟨here.of_mem_references bodyOf, others⟩, ?_, ?_⟩
  · intro production member
    simp only [Expansion.push, Array.mem_append, List.mem_toArray, List.mem_map] at member
    rcases member with inner | ⟨_, _, rfl⟩
    · rcases expanded.head_old_or_new inner with old | repetition
      · rw [productions_number] at old
        refine (sourced.heads production old).imp_right (Or.imp_right ?_)
        rintro ⟨repetition, less, named⟩
        exact ⟨repetition, by rw [Expansion.push]; dsimp only; omega, named⟩
      · exact .inr (.inr repetition)
    · exact .inr (.inl ⟨id, rule, here, found, rfl⟩)
  · intro repetition less
    -- A repetition was there before, or the body of this rule holds it.
    rcases Nat.lt_or_ge repetition before.repetitions with old | new
    · obtain ⟨inner, repeated, repeats⟩ := sourced.repetitions repetition old
      exact ⟨inner, repeated, repeats.extend extension⟩
    · obtain ⟨inner, written, repeats⟩ := expanded.minted repetition (by omega) less
      exact ⟨inner, ⟨id, body, here, bodyOf, written⟩, repeats.extend pushed⟩

theorem sourced_begun (apart : grammar.NamesApart) (found : grammar.get? root = some rule) :
    Sourced grammar root [root] (begun rule) := by
  obtain ⟨start, invariant, _⟩ := Grammar.flattened_begun apart found
  refine ⟨invariant.tidy, ?_, ?_, ?_⟩
  · intro id member
    rw [List.mem_singleton.mp member]
    exact .refl
  · intro production member
    simp only [begun, Expansion.push, productions_number, Array.mem_append,
      List.mem_toArray, List.mem_map] at member
    rcases member with none | ⟨_, _, rfl⟩
    · exact absurd none List.not_mem_nil
    · exact .inl rfl
  · intro repetition less
    simp only [begun, Expansion.push, repetitions_number] at less
    exact absurd less (Nat.not_lt_zero _)

theorem sourced_of_run (apart : grammar.NamesApart) (found : grammar.get? root = some rule)
    (runs : grammar.flattenRules (grammar.referenceCount + 1) [root] [] (begun rule) =
      .ok after) : ∃ rest, Sourced grammar root rest after := by
  obtain ⟨_, sourced⟩ : ∃ _ : List RuleId, Sourced grammar root [] after := by
    refine flattenRules_induction (motive := fun todo _ => Sourced grammar root todo) ?_ ?_
      (enough_root grammar root) (sourced_begun apart found) runs
    · intro id todo flattened expansion _ sourced
      exact { sourced with reached := (List.forall_mem_cons.mp sourced.reached).2 }
    · intro id todo flattened before rule body bodies after _ found defined expands sourced
      exact sourced.flattenRule apart found defined expands
  exact ⟨[], sourced⟩

end Expansion

end CanonicalLR
