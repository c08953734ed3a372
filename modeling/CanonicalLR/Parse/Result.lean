import CanonicalLR.Table.Expected
import CanonicalLR.Tree.Basic

/-!
What parsing a list of tokens can come to.
-/

namespace CanonicalLR

/-- A token that the parser had no action for, and what the state would have accepted. -/
structure SyntaxError where
  found : String
  line : Nat
  startColumn : Nat
  endColumn : Nat
  expected : Expected
deriving DecidableEq, Repr

namespace SyntaxError

def ofToken (token : Token) (expected : Expected) : SyntaxError :=
  { found := token.image
    line := token.line
    startColumn := token.startColumn
    endColumn := token.endColumn
    expected }

def display (error : SyntaxError) : String :=
  s!"unexpected '{error.found}' at line {error.line}, column {error.startColumn}; " ++
    "expected one of: " ++ ", ".intercalate error.expected.labels

end SyntaxError

structure ParseResult where
  /-- The tree of the sentence, or the first tree at hand if the tokens were not accepted. -/
  tree : Option Tree
  errors : List SyntaxError
  /-- The states at the end, the last one first. -/
  states : List Nat
deriving DecidableEq, Repr

/-- Where a list of tokens stops being the beginning of a sentence. -/
structure Suggestion where
  state : Nat
  expected : Expected
  /-- The place of the first token that was not taken. -/
  index : Nat
deriving DecidableEq, Repr

/-- Failures that lie with the table, or with tokens that lack the end mark. -/
inductive ParseError where
  | inputExhausted (index length : Nat)
  | missingGoto (state : Nat) (head : String)
  | stackUnderflow (production : Nat)
  | unknownProduction (production : Nat)
  | unknownNonterminal (name : String)
deriving DecidableEq, Repr

def ParseError.message : ParseError → String
  | .inputExhausted index length => s!"ran out of input at token {index} of {length}"
  | .missingGoto state head => s!"no goto from state {state} on '{head}'"
  | .stackUnderflow production => s!"stack underflow reducing production {production}"
  | .unknownProduction production => s!"unknown production {production}"
  | .unknownNonterminal name => s!"unknown nonterminal '{name}'"

end CanonicalLR
