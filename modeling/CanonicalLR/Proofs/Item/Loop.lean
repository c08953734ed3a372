import CanonicalLR.Proofs.Derivation.Sweep
import CanonicalLR.Proofs.Item.Subset
import Mathlib.Data.Set.Finite.Powerset

namespace CanonicalLR

namespace ItemSet

variable {items : ItemSet} {core : Core} {terminals : List Terminal}

theorem insert_eq_self (still : items.wouldGrow core terminals = false) :
    items.insert core terminals = items := by
  unfold wouldGrow at still
  split at still
  · cases still
  · rename_i old found
    have same : old = old.insertAll terminals := by
      apply OrderedSet.eq_of_subset_of_size_le
      · exact fun terminal member => OrderedSet.mem_insertAll.mpr (.inr member)
      · exact Nat.le_of_not_lt (of_decide_eq_false still)
    apply facts_injective
    ext ⟨other, lookahead⟩
    rw [mem_facts_insert]
    apply or_iff_left_of_imp
    rintro ⟨rfl, brought⟩
    cases lookahead with
    | none => rw [mem_facts_none, HasCore, found, Option.isSome_some]
    | some terminal =>
        refine ⟨old, found, ?_⟩
        rw [same]
        exact OrderedSet.mem_insertAll.mpr (.inl (brought terminal rfl))

theorem exists_new_fact (grows : items.wouldGrow core terminals = true) :
    ∃ fact ∈ facts (items.insert core terminals), fact ∉ facts items := by
  unfold wouldGrow at grows
  split at grows
  · rename_i absent
    refine ⟨(core, none), mem_facts_insert.mpr (.inr ⟨rfl, fun _ given => ?_⟩), ?_⟩
    · cases given
    · rw [mem_facts_none, HasCore, absent]
      exact Bool.false_ne_true
  · rename_i old found
    by_contra none
    push Not at none
    have same : old = old.insertAll terminals := by
      apply OrderedSet.ext
      intro terminal
      rw [OrderedSet.mem_insertAll]
      refine ⟨.inr, fun member => member.elim (fun given => ?_) id⟩
      have fact := none (core, some terminal) (mem_facts_insert.mpr (.inr ⟨rfl, ?_⟩))
      · obtain ⟨lookaheads, here, within⟩ := fact
        rw [found] at here
        cases here
        exact within
      · rintro _ ⟨⟩
        exact given
    have less := of_decide_eq_true grows
    rw [← same] at less
    exact Nat.lt_irrefl _ less

end ItemSet

namespace ItemSystem
open ItemSet

variable {grammar : FlatGrammar} {system : ItemSystem} {items start : ItemSet}

/-! ### The queue of cores -/

open scoped Classical in
noncomputable def lacking (whole items : ItemSet) : Finset (Core × Option Terminal) :=
  (presentFacts whole).filter (· ∉ facts items)

theorem card_lacking_lt {whole : ItemSet} {core : Core} {terminals : List Terminal}
    (grows : items.wouldGrow core terminals = true)
    (within : facts (items.insert core terminals) ⊆ facts whole) :
    (lacking whole (items.insert core terminals)).card < (lacking whole items).card := by
  classical
  obtain ⟨fact, added, new⟩ := exists_new_fact grows
  exact card_missing_lt (fun _ present => mem_facts_insert.mpr (.inl present))
    (mem_presentFacts.mpr (within added)) added new

theorem beginAll_fst (terminals : List Terminal) (productions : List Nat) (items : ItemSet) :
    (beginAll terminals productions items).1 =
      productions.foldl (fun items production => items.insert ⟨production, 0⟩ terminals) items := by
  induction productions generalizing items with
  | nil => rfl
  | cons production rest ih => exact ih _

theorem visitCore_eq (system : ItemSystem) (items : ItemSet) (core : Core) :
    ∃ terminals productions, system.visitCore items core = beginAll terminals productions items := by
  unfold visitCore
  split
  · exact ⟨_, _, rfl⟩
  · exact ⟨[], [], rfl⟩

theorem visitCore_fst (system : ItemSystem) (items : ItemSet) (core : Core) :
    (system.visitCore items core).1 = system.predict items core := by
  cases remains : system.remaining core with
  | nil => simp only [visitCore, predict, remains]
  | cons symbol rest =>
      cases symbol with
      | terminal _ => simp only [visitCore, predict, remains]
      | nonterminal head => simp only [visitCore, predict, remains, beginAll_fst]

theorem facts_subset_beginAll (terminals : List Terminal) (productions : List Nat)
    (items : ItemSet) : facts items ⊆ facts (beginAll terminals productions items).1 := by
  rw [beginAll_fst]
  exact subset_foldl (fun _ _ _ present => mem_facts_insert.mpr (.inl present)) _ _

theorem facts_beginAll {terminals : List Terminal} {productions : List Nat} {core : Core}
    (still : core ∉ (beginAll terminals productions items).2) (lookahead : Option Terminal) :
    (core, lookahead) ∈ facts (beginAll terminals productions items).1 ↔
      (core, lookahead) ∈ facts items := by
  induction productions generalizing items with
  | nil => rfl
  | cons production rest ih =>
      simp only [beginAll] at still ⊢
      split at still
      · rw [List.mem_cons, not_or] at still
        rw [ih still.2, mem_facts_insert]
        exact or_iff_left fun brought => still.1 brought.1
      · rename_i same
        rw [insert_eq_self (Bool.eq_false_of_not_eq_true same)] at still ⊢
        exact ih still

theorem length_beginAll {whole : ItemSet} {terminals : List Terminal} {productions : List Nat}
    (within : facts (beginAll terminals productions items).1 ⊆ facts whole) :
    (beginAll terminals productions items).2.length +
        (lacking whole (beginAll terminals productions items).1).card ≤
      (lacking whole items).card := by
  induction productions generalizing items with
  | nil => exact (Nat.zero_add _).le
  | cons production rest ih =>
      have later := ih within
      have grown : facts (items.insert ⟨production, 0⟩ terminals) ⊆ facts whole :=
        (facts_subset_beginAll terminals rest _).trans within
      simp only [beginAll]
      split
      · rename_i grows
        have less := card_lacking_lt grows grown
        simp only [List.length_cons]
        omega
      · rename_i same
        rw [insert_eq_self (Bool.eq_false_of_not_eq_true same)] at later ⊢
        exact later

theorem hasCore_of_mem_beginAll {terminals : List Terminal} {productions : List Nat} {core : Core}
    (member : core ∈ (beginAll terminals productions items).2) :
    (beginAll terminals productions items).1.HasCore core := by
  induction productions generalizing items with
  | nil => cases member
  | cons production rest ih =>
      simp only [beginAll] at member ⊢
      split at member
      · rcases List.mem_cons.mp member with rfl | later
        · have inserted : (items.insert ⟨production, 0⟩ terminals).HasCore ⟨production, 0⟩ :=
            hasCore_insert.mpr (.inr rfl)
          exact facts_subset_beginAll terminals rest _ (mem_facts_none.mpr inserted)
        · exact ih later
      · exact ih member

/-- What is known while the queue of a closure is worked off: the set has grown from what was given
within its closure, and the cores that are not in the queue begin nothing more. -/
structure Pending (grammar : FlatGrammar) (given items : ItemSet) (queue : List Core) : Prop where
  above : facts given ⊆ facts items
  below : facts items ⊆ facts ((ofGrammar grammar).closure given)
  queued : ∀ core ∈ queue, items.HasCore core
  settled : ∀ core, items.HasCore core → core ∈ queue ∨
    facts ((ofGrammar grammar).predict items core) ⊆ facts items

variable {given : ItemSet} {queue rest : List Core} {core : Core}

theorem pending_start : Pending grammar given given given.cores :=
  ⟨subset_rfl, facts_subset_closure, fun _ => mem_cores.mp, fun _ has => .inl (mem_cores.mpr has)⟩

theorem facts_predict_subset_of_same {more : ItemSet}
    (same : ∀ terminal, more.HasItem core terminal → items.HasItem core terminal)
    (begun : facts (system.predict items core) ⊆ facts more) :
    facts (system.predict more core) ⊆ facts more := by
  intro fact added
  rcases mem_facts_predict.mp added with old | ⟨rest, predicts, lookaheads⟩
  · exact old
  · apply begun
    refine mem_facts_predict.mpr (.inr ⟨rest, predicts, fun terminal carried => ?_⟩)
    exact (lookaheads terminal carried).imp_right fun own => ⟨own.1, same terminal own.2⟩

theorem Pending.visit (pending : Pending grammar given items (core :: rest)) :
    Pending grammar given ((ofGrammar grammar).visitCore items core).1
      (rest ++ ((ofGrammar grammar).visitCore items core).2) := by
  have predicted := visitCore_fst (ofGrammar grammar) items core
  have grows : facts items ⊆ facts ((ofGrammar grammar).visitCore items core).1 := by
    rw [predicted]
    exact facts_predict items core
  obtain ⟨terminals, productions, visited⟩ := visitCore_eq (ofGrammar grammar) items core
  constructor
  · exact pending.above.trans grows
  · rw [predicted]
    exact closed_closure.facts_predict_subset
      (pending.below (pending.queued core List.mem_cons_self)) pending.below
  · intro other member
    rcases List.mem_append.mp member with later | added
    · exact grows (mem_facts_none.mpr (pending.queued other (List.mem_cons_of_mem _ later)))
    · rw [visited] at added ⊢
      exact hasCore_of_mem_beginAll added
  · intro other has
    by_cases added : other ∈ ((ofGrammar grammar).visitCore items core).2
    · exact .inl (List.mem_append_right _ added)
    · -- A core that is not queued again has kept its lookaheads, so what it begins was there before.
      have same (lookahead : Option Terminal) :
          (other, lookahead) ∈ facts ((ofGrammar grammar).visitCore items core).1 ↔
            (other, lookahead) ∈ facts items := by
        rw [visited] at added ⊢
        exact facts_beginAll added lookahead
      have settles (begun : facts ((ofGrammar grammar).predict items other) ⊆
          facts ((ofGrammar grammar).visitCore items core).1) :=
        facts_predict_subset_of_same (fun terminal => (same (some terminal)).mp) begun
      rcases pending.settled other ((same none).mp has) with queued | settled
      · rcases List.mem_cons.mp queued with rfl | later
        · refine .inr (settles ?_)
          rw [predicted]
        · exact .inl (List.mem_append_left _ later)
      · exact .inr (settles (settled.trans grows))

theorem Pending.length_visit (pending : Pending grammar given items (core :: rest)) :
    (rest ++ ((ofGrammar grammar).visitCore items core).2).length +
        (lacking ((ofGrammar grammar).closure given)
          ((ofGrammar grammar).visitCore items core).1).card <
      (core :: rest).length + (lacking ((ofGrammar grammar).closure given) items).card := by
  obtain ⟨terminals, productions, visited⟩ := visitCore_eq (ofGrammar grammar) items core
  have within := pending.visit.below
  rw [visited] at within ⊢
  have fewer := length_beginAll within
  rw [List.length_append, List.length_cons]
  omega

theorem Pending.eq_closure (pending : Pending grammar given items []) :
    items = (ofGrammar grammar).closure given := by
  apply facts_injective
  apply Set.Subset.antisymm pending.below
  apply facts_closure_subset _ pending.above
  exact closed_of_predict_subset fun core has =>
    (pending.settled core has).resolve_left List.not_mem_nil

theorem exists_drain_closure (given : ItemSet) :
    ∃ turns visited, drain (ofGrammar grammar).visitCore turns given given.cores =
      some ((ofGrammar grammar).closure given, visited) := by
  obtain ⟨turns, last, visited, drained, final⟩ :=
    exists_drain (ofGrammar grammar).visitCore (Pending grammar given)
      (fun items queue => queue.length + (lacking ((ofGrammar grammar).closure given) items).card)
      (fun _ _ _ pending => pending.visit) (fun _ _ _ pending => pending.length_visit) pending_start
  rw [final.eq_closure] at drained
  exact ⟨turns, visited, drained⟩

/-! ### The queue of states -/

variable {states : Array State} {bound : Finset (Core × Option Terminal)}

theorem size_follow (system : ItemSystem) (source : Nat) (states : Array State) (symbol : Symbol) :
    (system.follow source states symbol).size = states.size ∨
      (system.follow source states symbol).size = states.size + 1 := by
  unfold follow
  split
  · exact .inl rfl
  · dsimp only
    split
    · exact .inl rfl
    · split <;> simp

theorem size_le_followAll (system : ItemSystem) (source : Nat) (symbols : List Symbol)
    (states : Array State) :
    states.size ≤ (symbols.foldl (system.follow source) states).size := by
  induction symbols generalizing states with
  | nil => exact le_rfl
  | cons symbol rest ih =>
      have later := ih (system.follow source states symbol)
      have first := size_follow system source states symbol
      rw [List.foldl_cons]
      omega

theorem size_le_explore (system : ItemSystem) (steps index : Nat) (states : Array State) :
    states.size ≤ (system.explore steps index states).size := by
  induction steps generalizing index states with
  | zero => exact le_rfl
  | succ steps ih =>
      simp only [explore]
      split
      · exact le_rfl
      · exact (size_le_followAll system index _ states).trans (ih _ _)

theorem followAll_eq (system : ItemSystem) (source : Nat) (symbols : List Symbol)
    (states : Array State) :
    system.followAll source symbols states =
      (symbols.foldl (system.follow source) states, List.range' states.size
        ((symbols.foldl (system.follow source) states).size - states.size)) := by
  induction symbols generalizing states with
  | nil => simp [followAll]
  | cons symbol rest ih =>
      have later := size_le_followAll system source rest (system.follow source states symbol)
      simp only [followAll, ih, List.foldl_cons]
      congr 1
      rcases size_follow system source states symbol with same | more
      · rw [if_neg (by omega), same]
      · rw [if_pos (by omega), more]
        rw [more] at later
        generalize (List.foldl (system.follow source) _ rest).size = last at later ⊢
        obtain ⟨added, rfl⟩ := Nat.exists_eq_add_of_le later
        rw [Nat.add_sub_cancel_left, show states.size + 1 + added - states.size = added + 1 by omega,
          List.range'_succ]

theorem visitState_eq {system : ItemSystem} {index : Nat} {state : State} {after : Array State}
    (present : states[index]? = some state)
    (next : (system.nextSymbols state.items).members.foldl (system.follow index) states = after) :
    (system.visitState states index).1 = after ∧
      List.range' (index + 1) (states.size - (index + 1)) ++ (system.visitState states index).2 =
        List.range' (index + 1) (after.size - (index + 1)) := by
  have less : index + 1 ≤ states.size := (Array.getElem?_eq_some_iff.mp present).1
  have grown : states.size ≤ after.size := next ▸ size_le_followAll system index _ states
  simp only [visitState, present, followAll_eq, next, true_and]
  obtain ⟨waiting, size⟩ := Nat.exists_eq_add_of_le less
  obtain ⟨added, last⟩ := Nat.exists_eq_add_of_le grown
  rw [last, size, Nat.add_sub_cancel_left, Nat.add_sub_cancel_left, List.range'_append_1,
    Nat.add_assoc (index + 1), Nat.add_sub_cancel_left]

theorem drain_ended (system : ItemSystem) {index : Nat} (last : states.size ≤ index) :
    drain system.visitState (states.size - index) states
        (List.range' index (states.size - index)) =
      some (states, List.range' index (states.size - index)) := by
  rw [Nat.sub_eq_zero_of_le last, List.range'_zero]
  rfl

theorem Explored.drain_explore {system : ItemSystem} {steps index : Nat}
    (explored : Explored system bound (fun before _ => before < index) states)
    (enough : 2 ^ bound.card ≤ index + steps)
    (stays : ∀ items symbol, facts items ⊆ bound → facts (system.goto items symbol) ⊆ bound) :
    drain system.visitState ((system.explore steps index states).size - index) states
        (List.range' index (states.size - index)) =
      some (system.explore steps index states,
        List.range' index ((system.explore steps index states).size - index)) := by
  induction steps generalizing index states with
  | zero => exact drain_ended system (explored.size_le.trans enough)
  | succ steps ih =>
      simp only [ItemSystem.explore]
      split
      · rename_i beyond
        exact drain_ended system (Array.getElem?_eq_none_iff.mp beyond)
      · rename_i state present
        have found : itemsAt? states index = some state.items := by rw [itemsAt?, present]; rfl
        have less := lt_size_of_itemsAt? found
        generalize next :
          (system.nextSymbols state.items).members.foldl (system.follow index) states = after
        have grown : states.size ≤ after.size := next ▸ size_le_followAll system index _ states
        have final := size_le_explore system steps (index + 1) after
        -- The queue is the interval of the states from `index` on: a turn takes the first of them and
        -- adds the new states behind the last.
        obtain ⟨follows, queue⟩ := visitState_eq present next
        have drained := ih (next ▸ explored.followState found stays) (by omega)
        rw [← queue, ← follows] at drained
        have taken := drain_cons drained
        rw [follows, ← List.range'_succ, ← List.range'_succ] at taken
        rwa [show (system.explore steps (index + 1) after).size - (index + 1) + 1 =
          (system.explore steps (index + 1) after).size - index by omega,
          show states.size - (index + 1) + 1 = states.size - index by omega] at taken

theorem drain_automaton (grammar : FlatGrammar) :
    drain (ofGrammar grammar).visitState (ofGrammar grammar).automaton.states.size
        #[{ items := (ofGrammar grammar).startItems }] [0] =
      some ((ofGrammar grammar).automaton.states,
        List.range (ofGrammar grammar).automaton.states.size) := by
  have enough : 2 ^ (possible grammar).card ≤ 0 + stateBound grammar := by
    rw [Nat.zero_add]
    exact stateBound_ge
  rw [List.range_eq_range']
  exact explored_start.drain_explore enough fun _ symbol => facts_goto_subset symbol

/-- The item sets that symbols lead to from the start. -/
def discoverable (grammar : FlatGrammar) : Set ItemSet :=
  Set.range fun symbols : List Symbol =>
    symbols.foldl (ofGrammar grammar).goto (ofGrammar grammar).startItems

theorem finite_discoverable (grammar : FlatGrammar) : (discoverable grammar).Finite := by
  have few : {items | facts items ⊆ (possible grammar : Set (Core × Option Terminal))}.Finite :=
    (possible grammar).finite_toSet.finite_subsets.preimage facts_injective.injOn
  apply few.subset
  rintro _ ⟨symbols, rfl⟩
  apply List.foldlRecOn (motive := fun items => facts items ⊆ (possible grammar : Set _)) _ _
    facts_startItems_subset
  exact fun _ within symbol _ => facts_goto_subset symbol within

theorem mem_discoverable {index : Nat}
    (found : itemsAt? (ofGrammar grammar).automaton.states index = some items) :
    items ∈ discoverable grammar := by
  induction index using Nat.strong_induction_on generalizing items with
  | _ index ih =>
      rcases linked_automaton index items found with rfl | ⟨source, symbol, earlier, leads⟩
      · rw [canonical_automaton.start] at found
        cases found
        exact ⟨[], rfl⟩
      · obtain ⟨held, present, _, reached⟩ := canonical_automaton.sound leads
        obtain ⟨symbols, same⟩ := ih source earlier present
        rw [found] at reached
        cases reached
        refine ⟨symbols ++ [symbol], ?_⟩
        rw [← same]
        exact List.foldl_concat _ _ _ _

/-- The sets of a grammar are found in finitely many rounds, the queue of every closure runs empty,
and so does the queue of the states, which takes each of them once; the states are among the
finitely many item sets that there are to discover. -/
theorem searches_end (grammar : FlatGrammar) :
    (∃ rounds, repeatWhile (FirstSets.sweep grammar grammar.productions.toList) rounds {} =
      some (FirstSets.compute grammar)) ∧
    (∀ items : ItemSet, ∃ turns visited,
      drain (ofGrammar grammar).visitCore turns items items.cores =
        some ((ofGrammar grammar).closure items, visited)) ∧
    (drain (ofGrammar grammar).visitState (ofGrammar grammar).automaton.states.size
        #[{ items := (ofGrammar grammar).startItems }] [0] =
      some ((ofGrammar grammar).automaton.states,
        List.range (ofGrammar grammar).automaton.states.size)) ∧
    (∀ state ∈ (ofGrammar grammar).automaton.states, state.items ∈ discoverable grammar) ∧
    (discoverable grammar).Finite := by
  refine ⟨FirstSets.exists_repeatWhile_sweep grammar, exists_drain_closure, drain_automaton grammar,
    fun state member => ?_, finite_discoverable grammar⟩
  obtain ⟨index, present⟩ := Array.mem_iff_getElem?.mp member
  have found : itemsAt? (ofGrammar grammar).automaton.states index = some state.items := by
    rw [itemsAt?, present, Option.map_some]
  exact mem_discoverable found

end ItemSystem

end CanonicalLR
