import CanonicalLR.Ordered.Map
import CanonicalLR.Parse.Result

/-!
Completions for an editor. A completer knows what to offer for the labels of a table, which are
names of tokens and groups, and reads off a syntax error or a list of states which labels to offer.
-/

namespace CanonicalLR

inductive CompleteError where
  | unmapped (label : String)
deriving DecidableEq, Repr

def CompleteError.message : CompleteError → String
  | .unmapped label => s!"no suggestions registered for '{label}'"

structure Completer where
  table : Table
  suggestions : OrderedMap String (List String) := .empty

namespace Completer

/-- Sets what is offered for a label; without suggestions that is the label itself. -/
def setSuggestions (completer : Completer) (label : String) (suggestions : Option (List String)) :
    Completer :=
  { completer with
    suggestions := completer.suggestions.insert label (suggestions.getD [label]) }

def suggestionsFor (completer : Completer) (label : String) : Except CompleteError (List String) :=
  match completer.suggestions.get? label with
  | some suggestions => .ok suggestions
  | none => .error (.unmapped label)

/-- All that is offered for labels, each suggestion once. -/
def suggestAll (completer : Completer) (labels : List String) :
    Except CompleteError (List String) :=
  labels.foldlM (fun offered label => do
    return extendUnique offered (← completer.suggestionsFor label)) []

/-- What would have been accepted in place of an error. -/
def suggestFromError (completer : Completer) (error : SyntaxError) :
    Except CompleteError (List String) :=
  completer.suggestAll error.expected.labels

/-- The state to go to when a production is complete; the states come with the latest first. -/
def gotoAfter? (table : Table) (states : List Nat) (index : Nat) : Option Nat := do
  let production ← table.productions[index]?
  let uncovered ← (states.drop production.body.length).head?
  let head ← table.nonterminalIndex? production.head
  table.goto? uncovered head

def shifted (table : Table) (state : Nat) : List Terminal :=
  (table.actions[state]?.getD #[]).toList.filterMap fun cell =>
    match cell.action with
    | .shift _ => some cell.terminal
    | .reduce _ | .accept => none

/-- The terminals that a cell of the latest state stands for: its own if that is shifted, and after
a reduction those that are shifted then. -/
def terminalsOf (table : Table) (states : List Nat) (cell : ActionCell) : List Terminal :=
  match cell.action with
  | .shift _ => [cell.terminal]
  | .reduce index =>
      match gotoAfter? table states index with
      | some target => shifted table target
      | none => []
  | .accept => []

/-- The states below the latest one; a single state stands for itself. -/
def statesBelow : List Nat → List Nat
  | [] => []
  | [state] => [state]
  | _ :: below => below

/-- What can be offered in place of the last thing taken, given the states with the latest first. -/
def suggestFromStates (completer : Completer) (states : List Nat) :
    Except CompleteError (List String) :=
  match statesBelow states with
  | [] => .ok []
  | state :: below =>
      let row := (completer.table.actions[state]?.getD #[]).toList
      let terminals := row.flatMap (terminalsOf completer.table (state :: below))
      completer.suggestAll (terminals.filterMap completer.table.terminalName?)

end Completer

end CanonicalLR
