import CanonicalLR.Grammar.Rule

/-!
Grammars: rules in the order of their declaration. A rule is declared with a name and later given a
body, which may refer to any rule by its handle. A call that fails gives no grammar back, so the
grammar it was applied to stands unchanged.
-/

namespace CanonicalLR

inductive ValidationError where
  | undefined (name : String)
  | emptyAlternation (name : String)
  | nullableRepetition (name : String)
  | unitCycle (name : String)
  | unknownRule (id : RuleId)
deriving DecidableEq, Repr

def ValidationError.message : ValidationError → String
  | .undefined name => s!"rule '{name}' is declared but never defined"
  | .emptyAlternation name => s!"rule '{name}' contains an alternation with no alternatives"
  | .nullableRepetition name => s!"rule '{name}' repeats a body that can match nothing"
  | .unitCycle name => s!"rule '{name}' can derive itself without consuming input"
  | .unknownRule id => s!"unknown rule handle #{id}"

inductive GrammarError where
  | duplicateRule (name : String)
  | reservedName (name : String)
  | alreadyDefined (name : String)
  | unknownRule (id : RuleId)
  | invalid (error : ValidationError)
deriving DecidableEq, Repr

def GrammarError.message : GrammarError → String
  | .duplicateRule name => s!"rule '{name}' is already declared"
  | .reservedName name => s!"rule name '{name}' is reserved"
  | .alreadyDefined name => s!"rule '{name}' already has a body"
  | .unknownRule id => s!"unknown rule handle #{id}"
  | .invalid error => error.message

structure Grammar where
  rules : Array Rule := #[]
deriving Repr

namespace Grammar

def get? (grammar : Grammar) (id : RuleId) : Option Rule :=
  grammar.rules[id]?

def find? (grammar : Grammar) (name : String) : Option RuleId :=
  grammar.rules.toList.findIdx? (·.name == name)

def declare (grammar : Grammar) (name : String) : Except GrammarError (RuleId × Grammar) :=
  if Rule.isReserved name then .error (.reservedName name)
  else if (grammar.find? name).isSome then .error (.duplicateRule name)
  else .ok (grammar.rules.size, ⟨grammar.rules.push { name, body := none }⟩)

def define (grammar : Grammar) (id : RuleId) (body : List Op) :
    Except GrammarError (RuleId × Grammar) :=
  match grammar.get? id with
  | none => .error (.unknownRule id)
  | some rule =>
      if rule.isDefined then .error (.alreadyDefined rule.name)
      else .ok (id, ⟨grammar.rules.set! id { rule with body := some body }⟩)

/-- Declares a rule and defines it. -/
def rule (grammar : Grammar) (name : String) (body : List Op) :
    Except GrammarError (RuleId × Grammar) := do
  let (id, grammar) ← grammar.declare name
  grammar.define id body

def bodyOf? (grammar : Grammar) (id : RuleId) : Option (List Op) := do
  (← grammar.get? id).body

def references (grammar : Grammar) (id : RuleId) : List RuleId :=
  match grammar.bodyOf? id with
  | some body => bodyReferences body
  | none => []

def referenceCount (grammar : Grammar) : Nat :=
  ((List.range grammar.rules.size).flatMap grammar.references).length

end Grammar

end CanonicalLR
