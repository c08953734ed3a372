import CanonicalLR.Grammar.Validation
import CanonicalLR.Loop

/-!
The searches of a validation as loops: a stack of handles that have come up, and rounds over the
rules until none is found nullable that was not before.
-/

namespace CanonicalLR

/-- Takes handles from a stack and puts on it what each new one leads to, until the stack is empty or
the goal comes up. The answer has the handles gone through and tells whether it did. -/
def pursue (next : RuleId → List RuleId) (goal : Option RuleId) : (turns : Nat) →
    OrderedSet RuleId → (stack : List RuleId) → Option (OrderedSet RuleId × Bool)
  | _, seen, [] => some (seen, false)
  | 0, _, _ :: _ => none
  | turns + 1, seen, id :: stack =>
      if goal = some id then some (seen, true)
      else if id ∈ seen then pursue next goal turns seen stack
      else pursue next goal turns (seen.insert id) ((next id).reverse ++ stack)

namespace Grammar

/-- Goes through rules once, and tells whether one of them is found nullable. -/
def nullableRound (grammar : Grammar) : List RuleId → OrderedSet RuleId → OrderedSet RuleId × Bool
  | [], known => (known, false)
  | id :: rest, known =>
      match grammar.bodyOf? id with
      | none => grammar.nullableRound rest known
      | some body =>
          if id ∉ known ∧ bodyNullable (· ∈ known) body then
            ((grammar.nullableRound rest (known.insert id)).1, true)
          else grammar.nullableRound rest known

/-- The rules that can stand for a rule, without repeats and in the order of declaration. -/
def unitEdges (grammar : Grammar) (nullable : OrderedSet RuleId) (id : RuleId) : List RuleId :=
  (OrderedSet.ofList (grammar.unitTargets nullable id)).members

end Grammar

end CanonicalLR
