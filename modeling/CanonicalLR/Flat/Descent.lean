import CanonicalLR.Flat.Expansion

/-!
Flattening as a recursion: a rule is expanded, and then the rules that it refers to are flattened one
after the other, each before the next is looked at. The recursion goes to a given depth and has no
answer where that is too little.
-/

namespace CanonicalLR

/-- Visits handles one after the other, as long as no visit fails. -/
def visitEach {α ε : Type} (visit : RuleId → α → Option (Except ε α)) :
    List RuleId → α → Option (Except ε α)
  | [], value => some (.ok value)
  | id :: rest, value =>
      match visit id value with
      | some (.ok next) => visitEach visit rest next
      | failed => failed

namespace Grammar

/-- Flattens a rule and those that it refers to, except for what has been flattened. -/
def descend (grammar : Grammar) : (depth : Nat) → RuleId → List RuleId × Expansion →
    Option (Except GrammarError (List RuleId × Expansion))
  | 0, _, _ => none
  | depth + 1, id, (flattened, expansion) =>
      if id ∈ flattened then some (.ok (flattened, expansion))
      else
        match grammar.get? id with
        | none => some (.error (.unknownRule id))
        | some rule =>
            match rule.body with
            | none => some (.error (.invalid (.undefined rule.name)))
            | some body =>
                match expandBody grammar [[]] (expansion.number rule.name).2 body with
                | .error error => some (.error error)
                | .ok (bodies, expansion) =>
                    visitEach (grammar.descend depth) (bodyReferences body)
                      (id :: flattened, expansion.push rule.name bodies)

end Grammar

end CanonicalLR
