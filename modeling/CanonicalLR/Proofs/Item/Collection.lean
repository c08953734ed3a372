import CanonicalLR.Proofs.Item.Closure
import Mathlib.Data.Finset.Powerset

namespace CanonicalLR

namespace ItemSystem
open ItemSet

variable {grammar : FlatGrammar} {system : ItemSystem} {states : Array State}

/-! ### States and transitions -/

def itemsAt? (states : Array State) (index : Nat) : Option ItemSet :=
  states[index]?.map (·.items)

def targetAt? (states : Array State) (index : Nat) (symbol : Symbol) : Option Nat :=
  states[index]?.bind (·.transitions.get? symbol)

def Distinct (states : Array State) : Prop :=
  ∀ first second items, itemsAt? states first = some items →
    itemsAt? states second = some items → first = second

theorem lt_size_of_itemsAt? {index : Nat} {items : ItemSet}
    (found : itemsAt? states index = some items) : index < states.size := by
  obtain ⟨state, present, _⟩ := Option.map_eq_some_iff.mp found
  exact (Array.getElem?_eq_some_iff.mp present).1

theorem exists_itemsAt? {index : Nat} (less : index < states.size) :
    ∃ items, itemsAt? states index = some items := by
  refine ⟨states[index].items, ?_⟩
  rw [itemsAt?, Array.getElem?_eq_getElem less, Option.map_some]

def link (source : Nat) (symbol : Symbol) (target : Nat) (states : Array State) : Array State :=
  states.modify source fun state =>
    { state with transitions := state.transitions.insert symbol target }

theorem itemsAt?_link (source : Nat) (symbol : Symbol) (target index : Nat) :
    itemsAt? (link source symbol target states) index = itemsAt? states index := by
  rw [itemsAt?, itemsAt?, link, Array.getElem?_modify]
  split <;> simp [Function.comp_def]

theorem targetAt?_link {source : Nat} {symbol : Symbol} {target : Nat} (less : source < states.size)
    (index : Nat) (other : Symbol) :
    targetAt? (link source symbol target states) index other =
      if index = source ∧ other = symbol then some target else targetAt? states index other := by
  rw [targetAt?, targetAt?, link, Array.getElem?_modify]
  by_cases sameIndex : index = source
  · subst sameIndex
    simp [Array.getElem?_eq_getElem less, OrderedMap.get?_insert]
  · simp [sameIndex, Ne.symm sameIndex]

theorem itemsAt?_push (items : ItemSet) (index : Nat) :
    itemsAt? (states.push { items }) index =
      if index = states.size then some items else itemsAt? states index := by
  rw [itemsAt?, itemsAt?, Array.getElem?_push]
  split <;> rfl

theorem targetAt?_push (items : ItemSet) (index : Nat) (symbol : Symbol) :
    targetAt? (states.push { items }) index symbol = targetAt? states index symbol := by
  rw [targetAt?, targetAt?, Array.getElem?_push]
  split
  · rename_i last
    simp [last]
  · rfl

/-! ### Following one symbol -/

/-- What following a symbol from a state does: the items that it leads to are those of a state, old
or new, and the transition to this state is added. -/
structure Follows (source : Nat) (symbol : Symbol) (goal : ItemSet) (before after : Array State)
    (target : Nat) : Prop where
  reached : itemsAt? after target = some goal
  kept : ∀ index items, itemsAt? before index = some items → itemsAt? after index = some items
  added : ∀ index items, itemsAt? after index = some items →
    itemsAt? before index = some items ∨ items = goal ∧ before.size ≤ index
  transitions : ∀ index other, targetAt? after index other =
    if index = source ∧ other = symbol then some target else targetAt? before index other
  distinct : Distinct before → Distinct after

theorem mem_nextSymbols {items : ItemSet} {symbol : Symbol} :
    symbol ∈ system.nextSymbols items ↔
      ∃ core, items.HasCore core ∧ system.nextSymbol? core = some symbol := by
  simp only [nextSymbols, OrderedSet.mem_ofList, List.mem_filterMap, mem_cores]

theorem isEmpty_eq_false {items : ItemSet} (core : Core) (has : items.HasCore core) :
    items.isEmpty = false := by
  obtain ⟨lookaheads, found⟩ := Option.isSome_iff_exists.mp has
  have member := mem_entries.mpr found
  cases same : items.entries with
  | nil => rw [same] at member; cases member
  | cons head rest => rw [ItemSet.isEmpty, same, List.isEmpty_cons]

theorem isEmpty_goto {items : ItemSet} {symbol : Symbol}
    (next : symbol ∈ system.nextSymbols items) : (system.goto items symbol).isEmpty = false := by
  obtain ⟨core, has, stands⟩ := mem_nextSymbols.mp next
  apply isEmpty_eq_false core.next
  exact facts_subset_closure (mem_facts_none.mpr (hasCore_advance.mpr ⟨core, has, stands, rfl⟩))

theorem follow_eq {source : Nat} {state : State} {symbol : Symbol}
    (found : states[source]? = some state) (next : symbol ∈ system.nextSymbols state.items) :
    system.follow source states symbol =
      match states.toList.findIdx? (·.items = system.goto state.items symbol) with
      | some target => link source symbol target states
      | none => link source symbol states.size
          (states.push { items := system.goto state.items symbol }) := by
  have linked (target : Nat) {others : Array State} (held : others[source]? = some state) :
      others.set! source { state with transitions := state.transitions.insert symbol target } =
        link source symbol target others := by
    apply Array.ext_getElem?
    intro index
    rw [link, Array.getElem?_modify, Array.set!_eq_setIfInBounds, Array.getElem?_setIfInBounds]
    obtain ⟨less, same⟩ := Array.getElem?_eq_some_iff.mp held
    split
    · rename_i here
      subst here
      simp [less, same]
    · rfl
  simp only [follow, found, isEmpty_goto next, Bool.false_eq_true, if_false]
  cases states.toList.findIdx? (·.items = system.goto state.items symbol) with
  | some target => exact linked target found
  | none =>
    apply linked
    rw [Array.getElem?_push, if_neg (Array.getElem?_eq_some_iff.mp found).1.ne]
    exact found

theorem follows_link {source target : Nat} {goal : ItemSet} (less : source < states.size)
    (symbol : Symbol) (found : itemsAt? states target = some goal) :
    Follows source symbol goal states (link source symbol target states) target := by
  constructor
  · rw [itemsAt?_link]
    exact found
  · intro index held
    rw [itemsAt?_link]
    exact id
  · intro index held
    rw [itemsAt?_link]
    exact .inl
  · exact targetAt?_link less
  · intro distinct first second held
    rw [itemsAt?_link, itemsAt?_link]
    exact distinct first second held

theorem follows_link_push {source : Nat} {goal : ItemSet} (less : source < states.size)
    (symbol : Symbol) (new : ∀ index, itemsAt? states index ≠ some goal) :
    Follows source symbol goal states
      (link source symbol states.size (states.push { items := goal })) states.size := by
  constructor
  · rw [itemsAt?_link, itemsAt?_push, if_pos rfl]
  · intro index held old
    rw [itemsAt?_link, itemsAt?_push, if_neg (lt_size_of_itemsAt? old).ne]
    exact old
  · intro index held
    rw [itemsAt?_link, itemsAt?_push]
    split
    · rintro ⟨⟩
      exact .inr ⟨rfl, by omega⟩
    · exact .inl
  · intro index other
    rw [targetAt?_link (by rw [Array.size_push]; omega), targetAt?_push]
  · intro distinct first second held
    rw [itemsAt?_link, itemsAt?_link, itemsAt?_push, itemsAt?_push]
    split
    · split
      · omega
      · rintro ⟨⟩ old
        exact absurd old (new second)
    · split
      · rintro old ⟨⟩
        exact absurd old (new first)
      · exact distinct first second held

theorem follows_follow {source : Nat} {items : ItemSet} {symbol : Symbol}
    (found : itemsAt? states source = some items) (next : symbol ∈ system.nextSymbols items) :
    ∃ target, Follows source symbol (system.goto items symbol) states
      (system.follow source states symbol) target := by
  obtain ⟨state, present, rfl⟩ := Option.map_eq_some_iff.mp found
  have less := lt_size_of_itemsAt? found
  rw [follow_eq present next]
  split
  · rename_i target known
    obtain ⟨within, same, _⟩ := List.findIdx?_eq_some_iff_getElem.mp known
    refine ⟨target, follows_link less symbol ?_⟩
    rw [itemsAt?, Array.getElem?_eq_getElem (by simpa using within)]
    simpa using same
  · rename_i unknown
    refine ⟨states.size, follows_link_push less symbol fun index old => ?_⟩
    obtain ⟨other, held, same⟩ := Option.map_eq_some_iff.mp old
    have differs := List.findIdx?_eq_none_iff.mp unknown other (Array.mem_of_getElem? held).val
    simp [same] at differs

/-! ### What has been explored -/

/-- What is known of the states once the transitions in `asked` have been asked for. -/
structure Explored (system : ItemSystem) (bound : Finset (Core × Option Terminal))
    (asked : Nat → Symbol → Prop) (states : Array State) : Prop where
  start : itemsAt? states 0 = some system.startItems
  known : ∀ {index : Nat} {symbol : Symbol}, asked index symbol → index < states.size
  distinct : Distinct states
  within : ∀ {index : Nat} {items : ItemSet}, itemsAt? states index = some items →
    facts items ⊆ bound
  sound : ∀ {index target : Nat} {symbol : Symbol}, targetAt? states index symbol = some target →
    ∃ items, itemsAt? states index = some items ∧ symbol ∈ system.nextSymbols items ∧
      itemsAt? states target = some (system.goto items symbol)
  complete : ∀ {index : Nat} {symbol : Symbol} {items : ItemSet}, asked index symbol →
    itemsAt? states index = some items → symbol ∈ system.nextSymbols items →
      ∃ target, targetAt? states index symbol = some target

variable {bound : Finset (Core × Option Terminal)} {asked : Nat → Symbol → Prop}

theorem Explored.size_le (explored : Explored system bound asked states) :
    states.size ≤ 2 ^ bound.card := by
  rw [← Finset.card_powerset, ← Finset.card_range states.size]
  apply Finset.card_le_card_of_injOn
    (fun index => presentFacts ((itemsAt? states index).getD {}))
  · intro index less
    obtain ⟨items, found⟩ := exists_itemsAt? (Finset.mem_range.mp less)
    simp only [found, Option.getD_some, Finset.mem_coe, Finset.mem_powerset]
    intro fact present
    exact explored.within found (mem_presentFacts.mp present)
  · intro first lessFirst second lessSecond same
    obtain ⟨items, found⟩ := exists_itemsAt? (Finset.mem_range.mp lessFirst)
    obtain ⟨others, foundOthers⟩ := exists_itemsAt? (Finset.mem_range.mp lessSecond)
    simp only [found, foundOthers, Option.getD_some] at same
    have equal : items = others := by
      apply facts_injective
      ext fact
      rw [← mem_presentFacts, same, mem_presentFacts]
    subst equal
    exact explored.distinct first second items found foundOthers

theorem Explored.follow (explored : Explored system bound asked states) {source : Nat}
    {items : ItemSet} {symbol : Symbol} (found : itemsAt? states source = some items)
    (next : symbol ∈ system.nextSymbols items)
    (stays : ∀ items symbol, facts items ⊆ bound → facts (system.goto items symbol) ⊆ bound) :
    Explored system bound (fun index other => asked index other ∨ index = source ∧ other = symbol)
      (system.follow source states symbol) := by
  obtain ⟨target, follows⟩ := follows_follow found next
  constructor
  · exact follows.kept 0 _ explored.start
  · intro index other askedFor
    have below : index < states.size := by
      rcases askedFor with old | ⟨rfl, _⟩
      · exact explored.known old
      · exact lt_size_of_itemsAt? found
    obtain ⟨held, present⟩ := exists_itemsAt? below
    exact lt_size_of_itemsAt? (follows.kept _ _ present)
  · exact follows.distinct explored.distinct
  · intro index held present
    rcases follows.added index held present with old | ⟨rfl, _⟩
    · exact explored.within old
    · exact stays items symbol (explored.within found)
  · intro index goal other leads
    rw [follows.transitions] at leads
    split at leads
    · rename_i here
      obtain ⟨rfl, rfl⟩ := here
      cases leads
      exact ⟨items, follows.kept _ _ found, next, follows.reached⟩
    · obtain ⟨held, present, stands, reached⟩ := explored.sound leads
      exact ⟨held, follows.kept _ _ present, stands, follows.kept _ _ reached⟩
  · intro index other held askedFor present stands
    rw [follows.transitions]
    split
    · exact ⟨target, rfl⟩
    · rename_i elsewhere
      have old := askedFor.resolve_right elsewhere
      rcases follows.added index held present with before | ⟨_, new⟩
      · exact explored.complete old before stands
      · exact absurd (explored.known old) (by omega)

theorem Explored.weaken {less : Nat → Symbol → Prop} (explored : Explored system bound asked states)
    (fewer : ∀ index symbol, less index symbol → asked index symbol) :
    Explored system bound less states :=
  { explored with
    known := fun askedFor => explored.known (fewer _ _ askedFor)
    complete := fun askedFor => explored.complete (fewer _ _ askedFor) }

theorem Explored.followAll (explored : Explored system bound asked states) {source : Nat}
    {items : ItemSet} {symbols : List Symbol} (found : itemsAt? states source = some items)
    (next : ∀ symbol ∈ symbols, symbol ∈ system.nextSymbols items)
    (stays : ∀ items symbol, facts items ⊆ bound → facts (system.goto items symbol) ⊆ bound) :
    itemsAt? (symbols.foldl (system.follow source) states) source = some items ∧
      Explored system bound
        (fun index other => asked index other ∨ index = source ∧ other ∈ symbols)
        (symbols.foldl (system.follow source) states) := by
  induction symbols generalizing states asked with
  | nil => exact ⟨found, explored.weaken fun _ _ askedFor => askedFor.resolve_right (by simp)⟩
  | cons symbol rest ih =>
      have stands := next symbol List.mem_cons_self
      have followed := explored.follow found stands stays
      obtain ⟨target, follows⟩ := follows_follow found stands
      obtain ⟨still, later⟩ := ih followed (follows.kept _ _ found) fun other member =>
        next other (List.mem_cons_of_mem _ member)
      refine ⟨still, later.weaken ?_⟩
      rintro index other (old | ⟨rfl, member⟩)
      · exact .inl (.inl old)
      · rcases List.mem_cons.mp member with rfl | later
        · exact .inl (.inr ⟨rfl, rfl⟩)
        · exact .inr ⟨rfl, later⟩

theorem Explored.followState {index : Nat} {items : ItemSet}
    (explored : Explored system bound (fun before _ => before < index) states)
    (found : itemsAt? states index = some items)
    (stays : ∀ items symbol, facts items ⊆ bound → facts (system.goto items symbol) ⊆ bound) :
    Explored system bound (fun before _ => before < index + 1)
      ((system.nextSymbols items).members.foldl (system.follow index) states) := by
  obtain ⟨still, followed⟩ := explored.followAll found (fun _ member => member) stays
  constructor
  · exact followed.start
  · intro before symbol less
    rcases Nat.lt_succ_iff_lt_or_eq.mp less with earlier | rfl
    · have askedFor : before < index ∨ before = index ∧
          symbol ∈ (system.nextSymbols items).members := .inl earlier
      exact followed.known askedFor
    · exact lt_size_of_itemsAt? still
  · exact followed.distinct
  · exact followed.within
  · exact followed.sound
  · intro before symbol held less present stands
    rcases Nat.lt_succ_iff_lt_or_eq.mp less with earlier | rfl
    · exact followed.complete (.inl earlier) present stands
    · rw [still] at present
      cases present
      exact followed.complete (.inr ⟨rfl, stands⟩) still stands

theorem Explored.explore {steps index : Nat}
    (explored : Explored system bound (fun before _ => before < index) states)
    (enough : 2 ^ bound.card ≤ index + steps)
    (stays : ∀ items symbol, facts items ⊆ bound → facts (system.goto items symbol) ⊆ bound) :
    Explored system bound (fun before _ => before < (system.explore steps index states).size)
      (system.explore steps index states) := by
  induction steps generalizing index states with
  | zero =>
      -- The number from which on states are followed is past every state there can be.
      apply explored.weaken
      intro before _ less
      exact less.trans_le (explored.size_le.trans enough)
  | succ steps ih =>
      simp only [ItemSystem.explore]
      split
      · rename_i beyond
        apply explored.weaken
        intro before _ less
        exact less.trans_le (Array.getElem?_eq_none_iff.mp beyond)
      · rename_i state present
        have found : itemsAt? states index = some state.items := by rw [itemsAt?, present]; rfl
        exact ih (explored.followState found stays) (by omega)

/-! ### The items of a grammar -/

def places (grammar : FlatGrammar) : Finset Core :=
  insert ⟨0, 0⟩ (grammar.productions.toList.zipIdx.flatMap fun (production, index) =>
    (List.range (production.body.length + 1)).map (Core.mk index)).toFinset

theorem mem_places {core : Core} :
    core ∈ places grammar ↔ core = ⟨0, 0⟩ ∨ ∃ production,
      grammar.productions[core.production]? = some production ∧
        core.dot ≤ production.body.length := by
  rw [places, Finset.mem_insert]
  apply or_congr_right
  simp only [List.mem_toFinset, List.mem_flatMap, Prod.exists, List.mem_zipIdx_iff_getElem?,
    List.mem_map, List.mem_range, Nat.lt_succ_iff, Array.getElem?_toList]
  constructor
  · rintro ⟨production, index, found, dot, within, rfl⟩
    exact ⟨production, found, within⟩
  · rintro ⟨production, found, within⟩
    exact ⟨production, core.production, found, core.dot, within, rfl⟩

theorem card_places :
    (places grammar).card ≤ grammar.productions.size + FirstSets.bodySymbols grammar + 1 := by
  apply (Finset.card_insert_le _ _).trans
  apply Nat.succ_le_succ
  apply (List.toFinset_card_le _).trans
  rw [FirstSets.bodySymbols, List.length_flatMap, List.length_flatMap, ← Array.length_toList]
  generalize grammar.productions.toList = productions
  simp only [List.length_map, List.length_range]
  generalize 0 = start
  induction productions generalizing start with
  | nil => simp
  | cons production rest ih =>
      have later := ih (start + 1)
      simp only [List.zipIdx_cons, List.map_cons, List.sum_cons, List.length_cons]
      omega

def possible (grammar : FlatGrammar) : Finset (Core × Option Terminal) :=
  places grammar ×ˢ Finset.insertNone (insert Terminal.eof (terminals grammar).members.toFinset)

theorem mem_possible {core : Core} {lookahead : Option Terminal} :
    (core, lookahead) ∈ possible grammar ↔ core ∈ places grammar ∧
      ∀ terminal, lookahead = some terminal →
        terminal = Terminal.eof ∨ terminal ∈ terminals grammar := by
  simp only [possible, Finset.mem_product, Finset.mem_insertNone, Finset.mem_insert,
    List.mem_toFinset, OrderedSet.mem_members, Option.mem_def]

theorem card_possible : (possible grammar).card ≤ itemBound grammar := by
  rw [possible, Finset.card_product, Finset.card_insertNone]
  apply Nat.mul_le_mul card_places
  apply Nat.succ_le_succ
  apply (Finset.card_insert_le _ _).trans
  exact Nat.succ_le_succ (List.toFinset_card_le _)

theorem stateBound_ge : 2 ^ (possible grammar).card ≤ stateBound grammar :=
  Nat.le_sub_one_of_lt (Nat.pow_lt_pow_right (by decide) (Nat.lt_succ_of_le card_possible))

theorem closed_possible :
    (ofGrammar grammar).Closed (possible grammar : Set (Core × Option Terminal)) := by
  have begins {core begun : Core} {rest : List Symbol}
      (predicts : (ofGrammar grammar).Predicts core begun rest) : begun ∈ places grammar := by
    obtain ⟨_, production, _, found, _⟩ := predicts.exists_production
    refine mem_places.mpr (.inr ⟨production, found, ?_⟩)
    rw [predicts.dot_eq]
    exact Nat.zero_le _
  constructor
  · intro core begun rest _ predicts
    exact mem_possible.mpr ⟨begins predicts, nofun⟩
  · intro core begun rest terminal _ predicts first
    refine mem_possible.mpr ⟨begins predicts, ?_⟩
    rintro _ ⟨⟩
    exact .inr (predicts.first_mem_terminals first)
  · intro core begun rest terminal member predicts _
    exact mem_possible.mpr ⟨begins predicts, (mem_possible.mp member).2⟩

theorem facts_goto_subset {items : ItemSet} (symbol : Symbol)
    (within : facts items ⊆ (possible grammar : Set (Core × Option Terminal))) :
    facts ((ofGrammar grammar).goto items symbol) ⊆
      (possible grammar : Set (Core × Option Terminal)) := by
  apply facts_closure_subset closed_possible
  rintro ⟨moved, lookahead⟩ present
  obtain ⟨core, old, stands, rfl⟩ := (mem_facts_advance _).mp present
  refine mem_possible.mpr ⟨mem_places.mpr (.inr ?_), (mem_possible.mp (within old)).2⟩
  obtain ⟨rest, remains⟩ := nextSymbol?_eq_some_iff.mp stands
  obtain ⟨production, found, body⟩ := exists_production_of_remaining remains
  have less : core.dot < production.body.length := by
    apply Nat.lt_of_sub_pos
    rw [← List.length_drop, body]
    exact Nat.succ_pos _
  exact ⟨production, found, less⟩

theorem facts_startItems_subset :
    facts (ofGrammar grammar).startItems ⊆
      (possible grammar : Set (Core × Option Terminal)) := by
  apply facts_closure_subset closed_possible
  rintro ⟨core, lookahead⟩ present
  rcases mem_facts_insert.mp present with old | ⟨same, lookaheads⟩
  · exact absurd old (not_mem_facts_empty _)
  · refine mem_possible.mpr ⟨mem_places.mpr (.inl same), fun terminal carried => .inl ?_⟩
    exact List.mem_singleton.mp (lookaheads terminal carried)

/-! ### The canonical collection -/

theorem explored_start :
    Explored (ofGrammar grammar) (possible grammar) (fun index _ => index < 0)
      #[{ items := (ofGrammar grammar).startItems }] := by
  have only {index : Nat} {items : ItemSet}
      (found : itemsAt? #[{ items := (ofGrammar grammar).startItems }] index = some items) :
      index = 0 ∧ items = (ofGrammar grammar).startItems := by
    cases index <;> cases found
    exact ⟨rfl, rfl⟩
  constructor
  · rfl
  · intro index symbol less
    exact absurd less (Nat.not_lt_zero _)
  · intro first second items foundFirst foundSecond
    rw [(only foundFirst).1, (only foundSecond).1]
  · intro index items found
    rw [(only found).2]
    exact facts_startItems_subset
  · intro index target symbol leads
    cases index <;> cases leads
  · intro index symbol items less
    exact absurd less (Nat.not_lt_zero _)

theorem canonical_automaton :
    Explored (ofGrammar grammar) (possible grammar)
      (fun index _ => index < (ofGrammar grammar).automaton.states.size)
      (ofGrammar grammar).automaton.states := by
  apply explored_start.explore
  · rw [Nat.zero_add]
    exact stateBound_ge
  · exact fun items symbol => facts_goto_subset symbol

theorem exists_target {index : Nat} {items : ItemSet} {symbol : Symbol}
    (found : itemsAt? (ofGrammar grammar).automaton.states index = some items)
    (stands : symbol ∈ (ofGrammar grammar).nextSymbols items) :
    ∃ target, targetAt? (ofGrammar grammar).automaton.states index symbol = some target ∧
      itemsAt? (ofGrammar grammar).automaton.states target =
        some ((ofGrammar grammar).goto items symbol) := by
  obtain ⟨target, leads⟩ :=
    canonical_automaton.complete (lt_size_of_itemsAt? found) found stands
  obtain ⟨held, present, _, reached⟩ := canonical_automaton.sound leads
  rw [found] at present
  cases present
  exact ⟨target, leads, reached⟩

end ItemSystem

end CanonicalLR
