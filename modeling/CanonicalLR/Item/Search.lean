import CanonicalLR.Item.Collection
import Std.Data.HashMap

/-!
The search for the canonical collection with an index of the item sets that have been found, so that
large grammars do not make it compare every set with all others.
-/

namespace CanonicalLR

instance : Hashable ItemSet :=
  ⟨fun items => hash (items.entries.map fun (core, lookaheads) =>
    (core.production, core.dot, lookaheads.members))⟩

theorem findIdx?_modify {α : Type} {holds : α → Bool} {change : α → α}
    (same : ∀ a, holds (change a) = holds a) (list : List α) (place : Nat) :
    (list.modify place change).findIdx? holds = list.findIdx? holds := by
  induction list generalizing place with
  | nil => rw [List.modify_nil]
  | cons head rest ih =>
      cases place with
      | zero => rw [List.modify_zero_cons, List.findIdx?_cons, same, List.findIdx?_cons]
      | succ place => rw [List.modify_succ_cons, List.findIdx?_cons, ih, List.findIdx?_cons]

/-- States with the place of each item set among them. -/
structure Found where
  states : Array State
  places : Std.HashMap ItemSet Nat
  placed : ∀ items, places[items]? = states.toList.findIdx? (·.items = items)

namespace Found

def start (items : ItemSet) : Found :=
  { states := #[{ items }]
    places := {(items, 0)}
    placed := by
      intro other
      by_cases same : items = other <;> simp [same] }

/-- Adds a state behind the others. -/
def add (found : Found) (items : ItemSet) : Found :=
  let place := found.states.size
  { states := found.states.push { items }
    places := found.places.insertIfNew items place
    placed := by
      intro other
      simp only [Std.HashMap.getElem?_insertIfNew, Std.HashMap.mem_iff_isSome_getElem?,
        found.placed, Array.toList_push, List.findIdx?_append]
      by_cases same : items = other
      · subst same
        cases found.states.toList.findIdx? (·.items = items) <;> simp [place]
      · simp [same] }

/-- Lets a symbol lead from one state to another. -/
def link (found : Found) (source : Nat) (symbol : Symbol) (target : Nat) : Found :=
  { found with
    states := found.states.modify source fun state =>
      { state with transitions := state.transitions.insert symbol target }
    placed := by
      intro other
      rw [found.placed, Array.toList_modify, findIdx?_modify]
      exact fun _ => rfl }

/-- Follows one symbol from a state. -/
def follow (system : ItemSystem) (source : Nat) (found : Found) (symbol : Symbol) : Found :=
  match found.states[source]? with
  | none => found
  | some state =>
      let items := system.goto state.items symbol
      if items.isEmpty then found
      else
        match found.places[items]? with
        | some target => found.link source symbol target
        | none =>
            let target := found.states.size
            (found.add items).link source symbol target

/-- Follows all symbols from `steps` states, from number `index` on, and tells where it has come. -/
def explore (system : ItemSystem) : (steps index : Nat) → Found → Nat × Found
  | 0, index, found => (index, found)
  | steps + 1, index, found =>
      match found.states[index]? with
      | none => (index, found)
      | some state =>
          explore system steps (index + 1)
            ((system.nextSymbols state.items).members.foldl (follow system index) found)

/-- Follows all symbols from the states from number `index` on. The steps double as long as there is
more to follow, so a few portions of them go a long way. -/
def exploreAll (system : ItemSystem) : (portions steps index : Nat) → Found → Found
  | 0, _, _, found => found
  | portions + 1, steps, index, found =>
      match explore system steps index found with
      | (index, found) =>
          if index < found.states.size then exploreAll system portions (2 * steps) index found
          else found

end Found

def Automaton.ofGrammar (grammar : FlatGrammar) : Automaton × List Notice :=
  let system := ItemSystem.ofGrammar grammar
  let found := Found.exploreAll system (ItemSystem.itemBound grammar + 1) 1 0
    (.start system.startItems)
  (⟨found.states⟩, [.statesBuilt found.states.size])

end CanonicalLR
