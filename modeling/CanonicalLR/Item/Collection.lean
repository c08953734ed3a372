import CanonicalLR.Item.Closure
import CanonicalLR.Notice

/-!
The canonical collection: the closed item sets that can be reached from the start, numbered in the
order in which a breadth-first search finds them, with the transitions between them. Sets count as
one state only if they agree in their lookaheads too.
-/

namespace CanonicalLR

structure State where
  items : ItemSet
  transitions : OrderedMap Symbol Nat := .empty
deriving DecidableEq

structure Automaton where
  states : Array State
deriving DecidableEq

namespace ItemSystem

def startItems (system : ItemSystem) : ItemSet :=
  system.closure (({} : ItemSet).insert ⟨0, 0⟩ [Terminal.eof])

/-- The symbols that items of a set stand before, in order. -/
def nextSymbols (system : ItemSystem) (items : ItemSet) : OrderedSet Symbol :=
  .ofList (items.cores.filterMap system.nextSymbol?)

/-- Follows one symbol from a state: finds the state it leads to among those known, or adds it. -/
def follow (system : ItemSystem) (source : Nat) (states : Array State) (symbol : Symbol) :
    Array State :=
  match states[source]? with
  | none => states
  | some state =>
      let items := system.goto state.items symbol
      if items.isEmpty then states
      else
        let link (target : Nat) (states : Array State) : Array State :=
          states.set! source { state with transitions := state.transitions.insert symbol target }
        match states.toList.findIdx? (·.items = items) with
        | some target => link target states
        | none => link states.size (states.push { items })

/-- Follows all symbols from the states from number `index` on. -/
def explore (system : ItemSystem) : (steps index : Nat) → Array State → Array State
  | 0, _, states => states
  | steps + 1, index, states =>
      match states[index]? with
      | none => states
      | some state =>
          system.explore steps (index + 1)
            ((system.nextSymbols state.items).members.foldl (system.follow index) states)

def terminals (grammar : FlatGrammar) : OrderedSet Terminal :=
  .ofList (grammar.productions.toList.flatMap fun production =>
    production.body.filterMap fun
      | .terminal terminal => some terminal
      | .nonterminal _ => none)

/-- Bounds the number of items that states are made of, with a lookahead or without. -/
def itemBound (grammar : FlatGrammar) : Nat :=
  let cores := grammar.productions.size + FirstSets.bodySymbols grammar + 1
  cores * ((terminals grammar).size + 2)

/-- Bounds the number of states: a state is determined by the cores that it holds and, for each of
them, the lookaheads. -/
def stateBound (grammar : FlatGrammar) : Nat :=
  Nat.pow 2 (itemBound grammar + 1) - 1

def automaton (system : ItemSystem) : Automaton :=
  ⟨system.explore (stateBound system.grammar) 0 #[{ items := system.startItems }]⟩

end ItemSystem

end CanonicalLR
