import CanonicalLR.Item.Search

namespace CanonicalLR

theorem ItemSystem.explore_of_size_le (system : ItemSystem) {index : Nat} {states : Array State}
    (behind : states.size ≤ index) (steps : Nat) : system.explore steps index states = states := by
  cases steps with
  | zero => rfl
  | succ steps => rw [explore, Array.getElem?_eq_none behind]

namespace Found

variable (system : ItemSystem)

theorem states_link {found : Found} {source : Nat} {state : State}
    (held : found.states[source]? = some state) (symbol : Symbol) (target : Nat) :
    (found.link source symbol target).states = found.states.set! source
      { state with transitions := state.transitions.insert symbol target } := by
  apply Array.ext_getElem?
  intro place
  rw [link, Array.getElem?_modify, Array.set!_eq_setIfInBounds, Array.getElem?_setIfInBounds]
  split
  · rename_i same
    subst same
    obtain ⟨inside, _⟩ := Array.getElem?_eq_some_iff.mp held
    rw [held, if_pos inside, Option.map_some]
  · rfl

theorem states_follow (source : Nat) (found : Found) (symbol : Symbol) :
    (found.follow system source symbol).states = system.follow source found.states symbol := by
  rw [follow, ItemSystem.follow]
  cases held : found.states[source]? with
  | none => rfl
  | some state =>
      simp only
      split
      · rfl
      · rw [← found.placed]
        cases found.places[system.goto state.items symbol]? with
        | some target => exact states_link held symbol target
        | none =>
            obtain ⟨inside, _⟩ := Array.getElem?_eq_some_iff.mp held
            refine states_link ?_ symbol found.states.size
            rw [add, Array.getElem?_push_lt inside, ← Array.getElem?_eq_getElem inside, held]

theorem states_foldl_follow (source : Nat) (symbols : List Symbol) (found : Found) :
    (symbols.foldl (follow system source) found).states =
      symbols.foldl (system.follow source) found.states :=
  (List.foldl_hom Found.states fun found symbol =>
    (states_follow system source found symbol).symm).symm

theorem explore_add (steps more index : Nat) (found : Found) :
    system.explore (steps + more) index found.states =
      system.explore more (found.explore system steps index).1
        (found.explore system steps index).2.states := by
  induction steps generalizing index found with
  | zero => rw [Nat.zero_add]; rfl
  | succ steps ih =>
      cases held : found.states[index]? with
      | none =>
          have behind := Array.getElem?_eq_none_iff.mp held
          simp only [explore, held, system.explore_of_size_le behind]
      | some state =>
          rw [Nat.succ_add]
          simp only [ItemSystem.explore, explore, held, ← states_foldl_follow, ih]

theorem states_exploreAll (portions steps index : Nat) (found : Found) :
    (found.exploreAll system portions steps index).states =
      system.explore (steps * (Nat.pow 2 portions - 1)) index found.states := by
  induction portions generalizing steps index found with
  | zero => rfl
  | succ portions ih =>
      have split : steps * (Nat.pow 2 (portions + 1) - 1) =
          steps + 2 * steps * (Nat.pow 2 portions - 1) := by
        have positive : 0 < Nat.pow 2 portions := Nat.two_pow_pos portions
        have power : Nat.pow 2 (portions + 1) = Nat.pow 2 portions * 2 := rfl
        have double : Nat.pow 2 (portions + 1) - 1 = 1 + 2 * (Nat.pow 2 portions - 1) := by omega
        rw [double, Nat.mul_add, Nat.mul_one, Nat.mul_left_comm, Nat.mul_assoc]
      rw [split, explore_add, exploreAll]
      generalize found.explore system steps index = reached
      obtain ⟨place, later⟩ := reached
      simp only
      split
      · exact ih (2 * steps) place later
      · rename_i behind
        exact (system.explore_of_size_le (Nat.le_of_not_lt behind) _).symm

end Found

theorem Automaton.ofGrammar_eq (grammar : FlatGrammar) :
    ofGrammar grammar = ((ItemSystem.ofGrammar grammar).automaton,
      [.statesBuilt (ItemSystem.ofGrammar grammar).automaton.states.size]) := by
  have same := Found.states_exploreAll (ItemSystem.ofGrammar grammar)
    (ItemSystem.itemBound grammar + 1) 1 0 (.start (ItemSystem.ofGrammar grammar).startItems)
  rw [Nat.one_mul] at same
  rw [ofGrammar, same]
  rfl

end CanonicalLR
