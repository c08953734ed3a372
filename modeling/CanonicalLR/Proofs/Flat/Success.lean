import CanonicalLR.Proofs.Flat.Rules
import CanonicalLR.Proofs.Grammar.Validation

namespace CanonicalLR

namespace Expansion

variable {grammar : Grammar}

theorem bind_ok {α β : Type} {first : Except GrammarError α} {further : α → Except GrammarError β}
    (ok : ∃ value, first = .ok value) (later : ∀ value, ∃ result, further value = .ok result) :
    ∃ result, (first >>= further) = .ok result := by
  obtain ⟨value, rfl⟩ := ok
  exact later value

mutual

theorem exists_expand : (op : Op) → (∀ id ∈ op.references, (grammar.get? id).isSome) →
    (bodies : List (List Symbol)) → (before : Expansion) →
    ∃ result, op.expand grammar bodies before = .ok result
  | .consume _, _, _, _ | .group _ _, _, _, _ => ⟨_, rfl⟩
  | .subRule id, known, _, _ => by
      obtain ⟨rule, found⟩ := Option.isSome_iff_exists.mp (known id List.mem_cons_self)
      rw [Op.expand, found]
      exact ⟨_, rfl⟩
  | .option body, known, _, _ => bind_ok (exists_expandBody body known _ _) fun _ => ⟨_, rfl⟩
  | .choice alternatives, known, _, _ => exists_expandChoice alternatives known _ _
  | .many body, known, _, _ => bind_ok (exists_expandBody body known _ _) fun _ => ⟨_, rfl⟩

theorem exists_expandBody : (ops : List Op) →
    (∀ id ∈ bodyReferences ops, (grammar.get? id).isSome) → (bodies : List (List Symbol)) →
    (before : Expansion) → ∃ result, expandBody grammar bodies before ops = .ok result
  | [], _, _, _ => ⟨_, rfl⟩
  | op :: rest, known, _, _ => by
      obtain ⟨knownOp, knownRest⟩ := List.forall_mem_append.mp known
      exact bind_ok (exists_expand op knownOp _ _) fun _ => exists_expandBody rest knownRest _ _

theorem exists_expandChoice : (alternatives : List (List Op)) →
    (∀ id ∈ choiceReferences alternatives, (grammar.get? id).isSome) →
    (bodies : List (List Symbol)) → (before : Expansion) →
    ∃ result, expandChoice grammar bodies before alternatives = .ok result
  | [], _, _, _ => ⟨_, rfl⟩
  | alternative :: rest, known, _, _ => by
      obtain ⟨knownHere, knownRest⟩ := List.forall_mem_append.mp known
      exact bind_ok (exists_expandBody alternative knownHere _ _) fun _ =>
        bind_ok (exists_expandChoice rest knownRest _ _) fun _ => ⟨_, rfl⟩

end

end Expansion

namespace Grammar
open Expansion

variable {grammar : Grammar} {root id : RuleId}

section Defined

variable (defined : ∀ id, grammar.Reaches root id → ¬ grammar.Shows id .undefined)
include defined

theorem Reaches.exists_rule (reached : grammar.Reaches root id) :
    ∃ rule body, grammar.get? id = some rule ∧ rule.body = some body ∧
      ∀ other ∈ bodyReferences body, grammar.Reaches root other := by
  obtain ⟨body, bodyOf⟩ := Option.ne_none_iff_exists'.mp (defined id reached)
  obtain ⟨rule, found, written⟩ := bodyOf?_eq_some_iff.mp bodyOf
  exact ⟨rule, body, found, written, reached.of_mem_references bodyOf⟩

theorem exists_flattenRules {steps : Nat} {todo flattened : List RuleId} {before : Expansion}
    (reached : ∀ id ∈ todo, grammar.Reaches root id) :
    ∃ after, grammar.flattenRules steps todo flattened before = .ok after := by
  induction steps generalizing todo flattened before with
  | zero => exact ⟨before, rfl⟩
  | succ steps ih =>
      cases todo with
      | nil => exact ⟨before, rfl⟩
      | cons id todo =>
          obtain ⟨here, others⟩ := List.forall_mem_cons.mp reached
          obtain ⟨rule, body, found, written, references⟩ := here.exists_rule defined
          have known : ∀ other ∈ bodyReferences body, (grammar.get? other).isSome := by
            intro other refers
            obtain ⟨_, _, foundOther, _⟩ := (references other refers).exists_rule defined
            rw [foundOther]
            rfl
          simp only [flattenRules, found, written]
          split
          · exact ih others
          · exact bind_ok (exists_expandBody body known _ _) fun _ =>
              ih (List.forall_mem_append.mpr ⟨references, others⟩)

end Defined

theorem flatten_of_expand {flat : FlatGrammar} (passed : (grammar.validate root).1 = .ok ())
    (expands : grammar.expand root = .ok flat) : (grammar.flatten root).1 = .ok flat := by
  rw [flatten, ← Prod.eta (grammar.validate root), passed, expands]

theorem exists_flatten (passed : (grammar.validate root).1 = .ok ()) :
    ∃ flat, (grammar.flatten root).1 = .ok flat := by
  obtain ⟨rule, found⟩ := Option.isSome_iff_exists.mp (get?_isSome_of_validate passed)
  have expands : ∃ flat, grammar.expand root = .ok flat := by
    rw [expand, found]
    have defined (id : RuleId) (reached : grammar.Reaches root id) :
        ¬ grammar.Shows id .undefined := validate_ok_iff.mp passed id reached .undefined
    refine bind_ok (exists_flattenRules defined ?_) fun _ => ⟨_, rfl⟩
    intro id member
    rw [List.mem_singleton.mp member]
    exact .refl
  obtain ⟨flat, expands⟩ := expands
  exact ⟨flat, flatten_of_expand passed expands⟩

end Grammar

end CanonicalLR
