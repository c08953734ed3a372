import CanonicalLR.Item.First
import CanonicalLR.Item.Set

/-!
Closure and advance of item sets. Where an item stands before a nonterminal, the productions of
that nonterminal begin, and what may follow them is what can follow the nonterminal in the item.
-/

namespace CanonicalLR

/-- A flat grammar with all that closures need: its first sets, and the productions of every
nonterminal. -/
structure ItemSystem where
  grammar : FlatGrammar
  first : FirstSets
  byHead : Std.TreeMap Nat (List Nat)
  /-- The number of symbols in all bodies. -/
  bodySymbols : Nat

namespace ItemSystem

/-- The productions of each nonterminal, by number. -/
def productionsByHead (grammar : FlatGrammar) : Std.TreeMap Nat (List Nat) :=
  let heads := grammar.heads
  grammar.productions.toList.zipIdx.foldl (fun byHead (production, index) =>
    match heads[production.head]? with
    | some head => byHead.alter head fun old => some (old.getD [] ++ [index])
    | none => byHead) {}

def ofGrammar (grammar : FlatGrammar) : ItemSystem :=
  { grammar
    first := FirstSets.compute grammar
    byHead := productionsByHead grammar
    bodySymbols := FirstSets.bodySymbols grammar }

/-- What is left of the body of an item. -/
def remaining (system : ItemSystem) (core : Core) : List Symbol :=
  match system.grammar.productions[core.production]? with
  | some production => production.body.drop core.dot
  | none => []

def nextSymbol? (system : ItemSystem) (core : Core) : Option Symbol :=
  (system.remaining core).head?

def productionsOf (system : ItemSystem) (nonterminal : Nat) : List Nat :=
  system.byHead.getD nonterminal []

/-- What may follow a nonterminal with `rest` after it, in an item with the given lookaheads. -/
def followers (system : ItemSystem) (rest : List Symbol) (lookaheads : OrderedSet Terminal) :
    OrderedSet Terminal :=
  let first := system.first.firstOfSequence rest
  if system.first.sequenceNullable rest then first.union lookaheads else first

/-- Adds the items that begin where an item of the set stands. -/
def predict (system : ItemSystem) (items : ItemSet) (core : Core) : ItemSet :=
  match system.remaining core with
  | .nonterminal head :: rest =>
      let lookaheads := system.followers rest ((items.lookaheads? core).getD .empty)
      (system.productionsOf head).foldl
        (fun items production => items.insert ⟨production, 0⟩ lookaheads.members) items
  | _ => items

def predictAll (system : ItemSystem) (items : ItemSet) : ItemSet :=
  items.cores.foldl system.predict items

/-- Bounds the number of items and lookaheads that a closure can add: each production begins once,
and its lookaheads come from the set or from a body. -/
def closureRounds (system : ItemSystem) (items : ItemSet) : Nat :=
  let given := (items.entries.flatMap fun (_, lookaheads) => lookaheads.members).length
  system.grammar.productions.size * (given + system.bodySymbols + 1) + 1

/-- The least set that holds the given items and all that begin where its items stand. -/
def closure (system : ItemSystem) (items : ItemSet) : ItemSet :=
  settle system.predictAll (system.closureRounds items) items

/-- The items that stand before a symbol, moved past it. -/
def advance (system : ItemSystem) (items : ItemSet) (symbol : Symbol) : ItemSet :=
  items.entries.foldl (fun moved (core, lookaheads) =>
    if system.nextSymbol? core = some symbol then moved.insert core.next lookaheads.members
    else moved) {}

def goto (system : ItemSystem) (items : ItemSet) (symbol : Symbol) : ItemSet :=
  system.closure (system.advance items symbol)

end ItemSystem

end CanonicalLR
