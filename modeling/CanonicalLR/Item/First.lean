import CanonicalLR.Fixpoint
import CanonicalLR.Flat.Basic
import CanonicalLR.Ordered.Map
import CanonicalLR.Ordered.Set
import CanonicalLR.Ordered.Tree

/-!
Which nonterminals of a flat grammar can derive nothing, and which terminals their derivations can
begin with. Both grow from nothing until every production is satisfied.
-/

namespace CanonicalLR

structure FirstSets where
  nullables : OrderedSet Nat := .empty
  firsts : OrderedMap Nat (OrderedSet Terminal) := .empty
deriving DecidableEq

namespace FirstSets

def isNullable (sets : FirstSets) : Symbol → Bool
  | .terminal _ => false
  | .nonterminal index => index ∈ sets.nullables

def sequenceNullable (sets : FirstSets) (sequence : List Symbol) : Bool :=
  sequence.all sets.isNullable

def first (sets : FirstSets) : Symbol → OrderedSet Terminal
  | .terminal terminal => .ofList [terminal]
  | .nonterminal index => (sets.firsts.get? index).getD .empty

/-- The terminals that a sequence can begin with: those of its symbols up to the first that cannot
derive nothing. -/
def firstOfSequence (sets : FirstSets) : List Symbol → OrderedSet Terminal
  | [] => .empty
  | symbol :: rest =>
      if sets.isNullable symbol then (sets.first symbol).union (sets.firstOfSequence rest)
      else sets.first symbol

/-- Adds what one production with a known head says. -/
def add (sets : FirstSets) (head : Nat) (body : List Symbol) : FirstSets :=
  let nullables :=
    if sets.sequenceNullable body then sets.nullables.insert head else sets.nullables
  let sets := { sets with nullables }
  let found := sets.firstOfSequence body
  { sets with firsts := sets.firsts.alter head fun old => (old.getD .empty).union found }

def addAll (grammar : FlatGrammar) (sets : FirstSets) : FirstSets :=
  grammar.productions.toList.foldl (fun sets production =>
    match grammar.headIndex? production.head with
    | some head => sets.add head production.body
    | none => sets) sets

/-- Number of symbols in all bodies. -/
def bodySymbols (grammar : FlatGrammar) : Nat :=
  (grammar.productions.toList.flatMap (·.body)).length

end FirstSets

/-- First sets under construction, with quick access to what is known of a nonterminal. -/
structure FirstTable where
  nullables : Std.TreeSet Nat := {}
  firsts : Std.TreeMap Nat (OrderedSet Terminal) := {}

namespace FirstTable

def sets (table : FirstTable) : FirstSets :=
  { nullables := .ofTree table.nullables, firsts := .ofTree table.firsts }

def isNullable (table : FirstTable) : Symbol → Bool
  | .terminal _ => false
  | .nonterminal index => table.nullables.contains index

def first (table : FirstTable) : Symbol → OrderedSet Terminal
  | .terminal terminal => .ofList [terminal]
  | .nonterminal index => table.firsts[index]?.getD .empty

def firstOfSequence (table : FirstTable) : List Symbol → OrderedSet Terminal
  | [] => .empty
  | symbol :: rest =>
      if table.isNullable symbol then (table.first symbol).union (table.firstOfSequence rest)
      else table.first symbol

def noteNullable (table : FirstTable) (head : Nat) (body : List Symbol) : FirstTable :=
  if body.all table.isNullable then { table with nullables := table.nullables.insert head }
  else table

def add (table : FirstTable) (head : Nat) (body : List Symbol) : FirstTable :=
  let table := table.noteNullable head body
  let found := table.firstOfSequence body
  { table with firsts := table.firsts.insert head ((table.first (.nonterminal head)).union found) }

def addAll (grammar : FlatGrammar) (table : FirstTable) : FirstTable :=
  let heads := grammar.heads
  grammar.productions.toList.foldl (fun table production =>
    match heads[production.head]? with
    | some head => table.add head production.body
    | none => table) table

end FirstTable

namespace FirstSets

/-- The sets of a grammar. Each round before the last finds a nonterminal, one that can derive
nothing or one more terminal to begin with. -/
def compute (grammar : FlatGrammar) : FirstSets :=
  (settleThrough FirstTable.sets (FirstTable.addAll grammar)
    (grammar.productions.size * (bodySymbols grammar + 2) + 1) {}).sets

end FirstSets

end CanonicalLR
