import CanonicalLR.Parse.Engine
import CanonicalLR.Tree.Splice

/-!
Parsing a list of tokens. A table with conflicts can make the parser reduce without end, so each
function takes a number of steps and has no answer for a run that needs more of them. With an answer
for some number of steps, every larger number gives the same one.
-/

namespace CanonicalLR

/-- More steps than a run that ends in any lifetime takes. -/
def ampleSteps : Nat := 1000000000000000000

def Configuration.result (configuration : Configuration) : ParseResult :=
  { tree := (splice configuration.trees.reverse).head?
    errors := configuration.errors
    states := configuration.states }

namespace Table

/-- The answer to a run that has ended, for `length` tokens. -/
def parseAnswer (length : Nat) : Configuration × Halt → Except ParseError ParseResult
  | (configuration, .accepted) | (configuration, .stuck) => .ok configuration.result
  | (_, .failed error) => .error error
  | (configuration, .exhausted) =>
      .error (.inputExhausted (length - configuration.rest.length) length)

/-- Parses tokens that end with an end mark. Syntax errors are recovered from and reported. -/
def parse (table : Table) (steps : Nat) (tokens : List Token) :
    Option (Except ParseError ParseResult) :=
  (run .recover table steps (.start tokens)).map (parseAnswer tokens.length)

/-- What is reported of parsing tokens. -/
def parseNotices (table : Table) (steps : Nat) (tokens : List Token) : List Notice :=
  table.runNotices steps (.start tokens)

def suggestionIn (table : Table) (length : Nat) (configuration : Configuration) : Suggestion :=
  let state := configuration.states.head?.getD 0
  { state
    expected := table.expected state
    index := length - configuration.rest.length }

/-- Tokens without the end mark. -/
def dropEof (tokens : List Token) : List Token :=
  if tokens.getLast?.any Token.isEof then tokens.dropLast else tokens

/-- Takes tokens as long as they are the beginning of a sentence, and says what can follow. -/
def suggest (table : Table) (steps : Nat) (tokens : List Token) :
    Option (Except ParseError Suggestion) :=
  let tokens := dropEof tokens
  (run .probe table steps (.start tokens)).map fun
    | (_, .failed error) => .error error
    | (configuration, _) => .ok (table.suggestionIn tokens.length configuration)

end Table

end CanonicalLR
