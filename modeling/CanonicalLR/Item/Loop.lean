import CanonicalLR.Item.Collection
import CanonicalLR.Loop

/-!
The three searches behind a collection as loops: rounds over the productions until no set grows, a
queue of cores whose lookaheads have grown, and a queue of states whose symbols have not been
followed.
-/

namespace CanonicalLR

namespace FirstSets

/-- Whether adding a production brings a nonterminal that can derive nothing, or one more terminal
to begin with. -/
def gains (sets : FirstSets) (head : Nat) (body : List Symbol) : Bool :=
  !decide (head ∈ sets.nullables) && sets.sequenceNullable body ||
    decide ((sets.first (.nonterminal head)).size <
      ((sets.add head body).first (.nonterminal head)).size)

/-- Adds productions one after the other, and tells whether one of them brings something. -/
def sweep (grammar : FlatGrammar) : List Production → FirstSets → FirstSets × Bool
  | [], sets => (sets, false)
  | production :: rest, sets =>
      match grammar.headIndex? production.head with
      | none => sweep grammar rest sets
      | some head =>
          let (last, changed) := sweep grammar rest (sets.add head production.body)
          (last, sets.gains head production.body || changed)

end FirstSets

namespace ItemSystem

/-- Begins productions with the same lookaheads, and lists the cores that this lets grow. -/
def beginAll (lookaheads : List Terminal) : List Nat → ItemSet → ItemSet × List Core
  | [], items => (items, [])
  | production :: rest, items =>
      let begun : Core := ⟨production, 0⟩
      let (last, grown) := beginAll lookaheads rest (items.insert begun lookaheads)
      (last, if items.wouldGrow begun lookaheads then begun :: grown else grown)

/-- Begins what stands at the dot of a core. -/
def visitCore (system : ItemSystem) (items : ItemSet) (core : Core) : ItemSet × List Core :=
  match system.remaining core with
  | .nonterminal head :: rest =>
      let lookaheads := system.followers rest ((items.lookaheads? core).getD .empty)
      beginAll lookaheads.members (system.productionsOf head) items
  | _ => (items, [])

/-- Follows symbols from a state, and lists the states that this adds. -/
def followAll (system : ItemSystem) (source : Nat) : List Symbol → Array State →
    Array State × List Nat
  | [], states => (states, [])
  | symbol :: rest, states =>
      let next := system.follow source states symbol
      let (last, added) := system.followAll source rest next
      (last, if states.size < next.size then states.size :: added else added)

def visitState (system : ItemSystem) (states : Array State) (index : Nat) :
    Array State × List Nat :=
  match states[index]? with
  | none => (states, [])
  | some state => system.followAll index (system.nextSymbols state.items).members states

end ItemSystem

end CanonicalLR
