import CanonicalLR.Notice
import CanonicalLR.Parse.Result

/-!
The engine, one step at a time. It keeps the states that it has come through and the trees that it
has put together, both with the latest first, and the tokens that are left.
-/

namespace CanonicalLR

structure Configuration where
  states : List Nat
  trees : List Tree
  rest : List Token
  errors : List SyntaxError
deriving DecidableEq, Repr

def Configuration.start (tokens : List Token) : Configuration :=
  { states := [0], trees := [], rest := tokens, errors := [] }

/-- Whether a token without an action is an error to go on after, or ends the run. -/
inductive Mode where
  | recover
  | probe
deriving DecidableEq, Repr

/-- Why a run ends. -/
inductive Halt where
  /-- No token is left. -/
  | exhausted
  /-- There is no action on the token, nor a later token to go on from. -/
  | stuck
  | accepted
  | failed (error : ParseError)
deriving DecidableEq, Repr

inductive Step where
  | next (configuration : Configuration)
  | halt (configuration : Configuration) (reason : Halt)
deriving DecidableEq, Repr

namespace Table

/-- Takes the token and goes to a state. -/
def shift (configuration : Configuration) (token : Token) (rest : List Token) (target : Nat) :
    Configuration :=
  { configuration with
    states := target :: configuration.states
    trees := .leaf token :: configuration.trees
    rest }

/-- Puts the trees of the body of a production under a node, and goes on from the state before
them. -/
def reduce (table : Table) (index : Nat) (configuration : Configuration) :
    Except ParseError Configuration :=
  match table.productions[index]? with
  | none => .error (.unknownProduction index)
  | some production =>
      match table.nonterminalIndex? production.head with
      | none => .error (.unknownNonterminal production.head)
      | some head =>
          let length := production.body.length
          let children := configuration.trees.take length
          match configuration.states.drop length with
          | uncovered :: below =>
              if children.length < length then .error (.stackUnderflow index)
              else
                match table.goto? uncovered head with
                | none => .error (.missingGoto uncovered production.head)
                | some target =>
                    .ok { configuration with
                      states := target :: uncovered :: below
                      trees := .node production.head children.reverse ::
                        configuration.trees.drop length }
          | [] => .error (.stackUnderflow index)

/-- Reports a token that the state has no action on, and skips to the next token that it has one
on. After the end mark there is none. -/
def recover (table : Table) (state : Nat) (token : Token) (rest : List Token)
    (configuration : Configuration) : Step :=
  let error := SyntaxError.ofToken token (table.expected state)
  let configuration := { configuration with errors := configuration.errors ++ [error] }
  if token.isEof then .halt configuration .stuck
  else
    match rest.dropWhile fun next => (table.action? state next.kind).isNone with
    | [] => .halt configuration .stuck
    | rest => .next { configuration with rest }

def step (mode : Mode) (table : Table) (configuration : Configuration) : Step :=
  match configuration.states, configuration.rest with
  | [], _ => .halt configuration (.failed (.stackUnderflow 0))
  | _ :: _, [] => .halt configuration .exhausted
  | state :: _, token :: rest =>
      match table.action? state token.kind with
      | none =>
          match mode with
          | .probe => .halt configuration .stuck
          | .recover => table.recover state token rest configuration
      | some (.shift target) => .next (shift configuration token rest target)
      | some (.reduce index) =>
          match table.reduce index configuration with
          | .ok configuration => .next configuration
          | .error error => .halt configuration (.failed error)
      | some .accept => .halt configuration .accepted

/-- Steps until the run ends. There is no answer if `steps` are too few for it. -/
def run (mode : Mode) (table : Table) : (steps : Nat) → Configuration →
    Option (Configuration × Halt)
  | 0, _ => none
  | steps + 1, configuration =>
      match step mode table configuration with
      | .next configuration => run mode table steps configuration
      | .halt configuration reason => some (configuration, reason)

/-- A run that ends comes to the same end with steps to spare. -/
theorem run_of_le {mode : Mode} {table : Table} {steps more : Nat} {configuration : Configuration}
    {outcome : Configuration × Halt} (ends : run mode table steps configuration = some outcome)
    (le : steps ≤ more) : run mode table more configuration = some outcome := by
  induction steps generalizing more configuration with
  | zero => cases ends
  | succ steps ih =>
      obtain ⟨more, rfl⟩ : ∃ fewer, more = fewer + 1 := ⟨more - 1, by omega⟩
      simp only [run] at ends ⊢
      split
      · rename_i next stepped
        rw [stepped] at ends
        exact ih ends (by omega)
      · rename_i halted reason stepped
        rw [stepped] at ends
        exact ends

/-- What is reported of the step from a configuration. -/
def stepNotices (table : Table) (configuration : Configuration) : List Notice :=
  match configuration.states, configuration.rest with
  | state :: _, token :: _ =>
      match table.action? state token.kind with
      | none => [.noAction state token.name token.image]
      | some action => [.acted state token.name token.image action]
  | _, _ => []

/-- What is reported of a run that goes on after errors. -/
def runNotices (table : Table) : (steps : Nat) → Configuration → List Notice
  | 0, _ => []
  | steps + 1, configuration =>
      table.stepNotices configuration ++
        match step .recover table configuration with
        | .next configuration => runNotices table steps configuration
        | .halt _ _ => []

end Table

end CanonicalLR
