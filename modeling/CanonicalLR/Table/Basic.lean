import CanonicalLR.Flat.Basic
import CanonicalLR.Ordered.Bisection
import CanonicalLR.Table.Action

/-!
Parse tables: all that a parser needs to know of a grammar. Rows, terminals and the parts of states
are stored in order of their numbers. A table may come from outside, so nothing here relies on its
numbers being in range, and looking up what is missing finds nothing.
-/

namespace CanonicalLR

structure ActionCell where
  terminal : Terminal
  action : Action
deriving DecidableEq, Repr

structure GotoCell where
  nonterminal : Nat
  state : Nat
deriving DecidableEq, Repr

/-- The name of a terminal, and the group that it is reported as. -/
structure TerminalEntry where
  index : Terminal
  name : String
  group : Option String
deriving DecidableEq, Repr

structure ItemRecord where
  production : Nat
  dot : Nat
  lookaheads : List Terminal
deriving DecidableEq, Repr

structure TransitionRecord where
  symbol : Symbol
  target : Nat
deriving DecidableEq, Repr

structure StateRecord where
  items : List ItemRecord
  transitions : List TransitionRecord
deriving DecidableEq, Repr

/-- Two items claim a cell for different actions: the later one takes it. -/
structure Conflict where
  state : Nat
  terminal : Terminal
  previous : Action
  chosen : Action
deriving DecidableEq, Repr

structure Table where
  /-- One row for each state. -/
  actions : Array (Array ActionCell)
  /-- One row for each state. -/
  gotos : Array (Array GotoCell)
  terminals : Array TerminalEntry
  productions : Array Production
  nonterminals : List NonterminalEntry
  /-- The collection that the rows come from. -/
  states : List StateRecord
  /-- In the order in which the rows were filled. -/
  conflicts : List Conflict
deriving DecidableEq, Repr

namespace Table

def stateCount (table : Table) : Nat :=
  table.actions.size

def action? (table : Table) (state : Nat) (terminal : Terminal) : Option Action := do
  let cell ← bisect ActionCell.terminal terminal (← table.actions[state]?)
  return cell.action

/-- The state to go to from a state when a nonterminal is complete. -/
def goto? (table : Table) (state nonterminal : Nat) : Option Nat := do
  let cell ← bisect GotoCell.nonterminal nonterminal (← table.gotos[state]?)
  return cell.state

def terminalEntry? (table : Table) (terminal : Terminal) : Option TerminalEntry :=
  bisect TerminalEntry.index terminal table.terminals

def terminalName? (table : Table) (terminal : Terminal) : Option String :=
  (table.terminalEntry? terminal).map (·.name)

/-- The group that a terminal is reported as. -/
def groupOf? (table : Table) (terminal : Terminal) : Option String :=
  (table.terminalEntry? terminal).bind (·.group)

def nonterminalIndex? (table : Table) (name : String) : Option Nat :=
  CanonicalLR.nonterminalIndex? table.nonterminals name

end Table

end CanonicalLR
