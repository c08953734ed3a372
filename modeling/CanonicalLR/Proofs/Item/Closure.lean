import CanonicalLR.Item.Collection
import CanonicalLR.Proofs.Item.Set

namespace CanonicalLR

theorem FlatGrammar.Begins.mem_terminals {grammar : FlatGrammar} {symbols : List Symbol}
    {terminal : Terminal} (begins : grammar.Begins symbols terminal) :
    .terminal terminal ∈ symbols ∨ terminal ∈ ItemSystem.terminals grammar := by
  have listed {production : Production} (member : production ∈ grammar.productions)
      (occurs : .terminal terminal ∈ production.body) :
      terminal ∈ ItemSystem.terminals grammar := by
    simp only [ItemSystem.terminals, OrderedSet.mem_ofList, List.mem_flatMap, List.mem_filterMap,
      Array.mem_toList_iff]
    exact ⟨production, member, .terminal terminal, occurs, rfl⟩
  induction begins with
  | terminal terminal rest => exact .inl List.mem_cons_self
  | nonterminal produces _ ih =>
      rcases ih listed with inner | known
      · exact .inr (listed produces.1 inner)
      · exact .inr known
  | skip _ _ ih =>
      rcases ih listed with later | known
      · exact .inl (List.mem_cons_of_mem _ later)
      · exact .inr known

namespace ItemSystem
open ItemSet

variable {grammar : FlatGrammar} {system : ItemSystem} {items : ItemSet}

theorem card_ofList (keys : List Terminal) :
    (OrderedSet.ofList keys).members.toFinset.card ≤ keys.length := by
  have same : (OrderedSet.ofList keys).members.toFinset = keys.toFinset := by
    ext terminal
    rw [List.mem_toFinset, List.mem_toFinset, OrderedSet.mem_members, OrderedSet.mem_ofList]
  rw [same]
  exact List.toFinset_card_le keys

theorem card_terminals :
    (terminals grammar).members.toFinset.card ≤ FirstSets.bodySymbols grammar := by
  apply (card_ofList _).trans
  rw [← List.filterMap_flatMap]
  exact List.length_filterMap_le _ _

/-- Sets of cores and items with all that begins where one of them stands. -/
structure Closed (system : ItemSystem) (held : Set (Core × Option Terminal)) : Prop where
  core : ∀ {core begun : Core} {rest : List Symbol}, (core, none) ∈ held →
    system.Predicts core begun rest → (begun, none) ∈ held
  first : ∀ {core begun : Core} {rest : List Symbol} {terminal : Terminal}, (core, none) ∈ held →
    system.Predicts core begun rest → terminal ∈ system.first.firstOfSequence rest →
      (begun, some terminal) ∈ held
  inherit : ∀ {core begun : Core} {rest : List Symbol} {terminal : Terminal},
    (core, some terminal) ∈ held → system.Predicts core begun rest →
      system.first.sequenceNullable rest = true → (begun, some terminal) ∈ held

theorem facts_predictAll (items : ItemSet) : facts items ⊆ facts (system.predictAll items) :=
  subset_foldl facts_predict _ _

theorem Closed.facts_predict_subset {held : Set (Core × Option Terminal)}
    (closed : system.Closed held) {core : Core} (present : (core, none) ∈ held)
    (within : facts items ⊆ held) : facts (system.predict items core) ⊆ held := by
  rintro ⟨begun, lookahead⟩ added
  rcases mem_facts_predict.mp added with old | ⟨rest, predicts, lookaheads⟩
  · exact within old
  · cases lookahead with
    | none => exact closed.core present predicts
    | some terminal =>
        rcases lookaheads terminal rfl with first | ⟨nullable, own⟩
        · exact closed.first present predicts first
        · exact closed.inherit (within own) predicts nullable

theorem Closed.facts_predictAll_subset {held : Set (Core × Option Terminal)}
    (closed : system.Closed held) (start : facts items ⊆ held) :
    facts (system.predictAll items) ⊆ held := by
  apply List.foldlRecOn (motive := fun items => facts items ⊆ held) _ _ start
  intro found within core member
  exact closed.facts_predict_subset (start (mem_cores.mp member)) within

theorem closed_of_predict_subset
    (settled : ∀ core, items.HasCore core → facts (system.predict items core) ⊆ facts items) :
    system.Closed (facts items) := by
  constructor
  · intro core begun rest has predicts
    exact settled core has (hasCore_predict.mpr (.inr ⟨rest, predicts⟩))
  · intro core begun rest terminal has predicts first
    exact settled core has (hasItem_predict.mpr (.inr ⟨rest, predicts, .inl first⟩))
  · intro core begun rest terminal has predicts nullable
    have present := hasItem_predict.mpr (.inr ⟨rest, predicts, .inr ⟨nullable, has⟩⟩)
    exact settled core (HasItem.hasCore has) present

theorem closed_of_predictAll_eq (rest : system.predictAll items = items) :
    system.Closed (facts items) := by
  apply closed_of_predict_subset
  intro core has
  have still : system.predict items core = items :=
    eq_self_of_foldl_eq_self facts_injective facts_predict rest core (mem_cores.mpr has)
  rw [still]

/-! ### The rounds are enough -/

theorem Predicts.production_lt {core begun : Core} {rest : List Symbol}
    (predicts : (ofGrammar grammar).Predicts core begun rest) :
    begun.production < grammar.productions.size := by
  obtain ⟨_, production, _, found, _⟩ := predicts.exists_production
  exact (Array.getElem?_eq_some_iff.mp found).1

theorem Predicts.first_mem_terminals {core begun : Core} {rest : List Symbol} {terminal : Terminal}
    (predicts : (ofGrammar grammar).Predicts core begun rest)
    (first : terminal ∈ (ofGrammar grammar).first.firstOfSequence rest) :
    terminal ∈ terminals grammar := by
  obtain ⟨head, remains, _, _⟩ := predicts
  rcases (FirstSets.mem_firstOfSequence_iff.mp first).mem_terminals with within | known
  · obtain ⟨production, found, body⟩ := exists_production_of_remaining remains
    have occurs : .terminal terminal ∈ production.body := by
      apply List.mem_of_mem_drop (i := core.dot)
      rw [body]
      exact List.mem_cons_of_mem _ within
    simp only [terminals, OrderedSet.mem_ofList, List.mem_flatMap, List.mem_filterMap,
      Array.mem_toList_iff]
    exact ⟨production, Array.mem_of_getElem? found, .terminal terminal, occurs, rfl⟩
  · exact known

def givenLookaheads (items : ItemSet) : List Terminal :=
  items.entries.flatMap fun (_, lookaheads) => lookaheads.members

theorem mem_givenLookaheads {terminal : Terminal} :
    terminal ∈ givenLookaheads items ↔ ∃ core, items.HasItem core terminal := by
  simp only [givenLookaheads, List.mem_flatMap, Prod.exists, mem_entries, HasItem]
  rfl

def additions (grammar : FlatGrammar) (items : ItemSet) : Finset (Core × Option Terminal) :=
  (Finset.range grammar.productions.size).image (fun production => (⟨production, 0⟩ : Core)) ×ˢ
    Finset.insertNone ((givenLookaheads items).toFinset ∪ (terminals grammar).members.toFinset)

theorem mem_additions {core : Core} {lookahead : Option Terminal} :
    (core, lookahead) ∈ additions grammar items ↔
      (core.production < grammar.productions.size ∧ core.dot = 0) ∧
        ∀ terminal, lookahead = some terminal →
          (∃ core, items.HasItem core terminal) ∨ terminal ∈ terminals grammar := by
  have lookaheads : lookahead ∈ Finset.insertNone
      ((givenLookaheads items).toFinset ∪ (terminals grammar).members.toFinset) ↔
        ∀ terminal, lookahead = some terminal →
          (∃ core, items.HasItem core terminal) ∨ terminal ∈ terminals grammar := by
    rw [Finset.mem_insertNone]
    simp only [Finset.mem_union, List.mem_toFinset, mem_givenLookaheads, OrderedSet.mem_members,
      Option.mem_def]
  rw [additions, Finset.mem_product, lookaheads]
  apply and_congr_left
  intro _
  obtain ⟨production, dot⟩ := core
  simp only [Finset.mem_image, Finset.mem_range, Core.mk.injEq]
  constructor
  · rintro ⟨_, less, rfl, rfl⟩
    exact ⟨less, rfl⟩
  · rintro ⟨less, rfl⟩
    exact ⟨production, less, rfl, rfl⟩

theorem card_additions :
    (additions grammar items).card < (ofGrammar grammar).closureRounds items := by
  have lookaheads := Finset.card_union_le (givenLookaheads items).toFinset
    (terminals grammar).members.toFinset
  have given := List.toFinset_card_le (givenLookaheads items)
  have occurring : (terminals grammar).members.toFinset.card ≤ FirstSets.bodySymbols grammar :=
    card_terminals
  apply Nat.lt_succ_of_le
  rw [additions, Finset.card_product, Finset.card_insertNone]
  apply Nat.mul_le_mul
  · exact Finset.card_image_le.trans (Finset.card_range _).le
  · change _ ≤ (givenLookaheads items).length + FirstSets.bodySymbols grammar + 1
    omega

def presentFacts (items : ItemSet) : Finset (Core × Option Terminal) :=
  (items.entries.flatMap fun (core, lookaheads) =>
    (core, none) :: lookaheads.members.map fun terminal => (core, some terminal)).toFinset

theorem mem_presentFacts {fact : Core × Option Terminal} :
    fact ∈ presentFacts items ↔ fact ∈ facts items := by
  obtain ⟨core, lookahead⟩ := fact
  simp only [presentFacts, List.mem_toFinset, List.mem_flatMap, Prod.exists, mem_entries,
    List.mem_cons, List.mem_map, Prod.mk.injEq]
  cases lookahead with
  | none =>
      rw [mem_facts_none, HasCore, Option.isSome_iff_exists]
      simp
  | some terminal =>
      rw [mem_facts_some, HasItem]
      simp [OrderedSet.mem_members]

theorem predictAll_closure :
    (ofGrammar grammar).predictAll ((ofGrammar grammar).closure items) =
      (ofGrammar grammar).closure items := by
  have bounded : (ofGrammar grammar).Closed
      ((presentFacts items ∪ additions grammar items : Finset _) : Set _) := by
    -- A lookahead of an item in the bound was given or occurs in a body.
    have known {core : Core} {terminal : Terminal}
        (member : (core, some terminal) ∈
          ((presentFacts items ∪ additions grammar items : Finset _) : Set _)) :
        (∃ core, items.HasItem core terminal) ∨ terminal ∈ terminals grammar := by
      rw [Finset.mem_coe, Finset.mem_union, mem_presentFacts, mem_additions] at member
      rcases member with present | ⟨_, lookahead⟩
      · exact .inl ⟨core, present⟩
      · exact lookahead terminal rfl
    have added {core begun : Core} {rest : List Symbol} {lookahead : Option Terminal}
        (predicts : (ofGrammar grammar).Predicts core begun rest)
        (lookaheads : ∀ terminal, lookahead = some terminal →
          (∃ core, items.HasItem core terminal) ∨ terminal ∈ terminals grammar) :
        (begun, lookahead) ∈
          ((presentFacts items ∪ additions grammar items : Finset _) : Set _) := by
      have zero : begun.dot = 0 := predicts.choose_spec.2.2
      rw [Finset.mem_coe, Finset.mem_union, mem_additions]
      exact .inr ⟨⟨predicts.production_lt, zero⟩, lookaheads⟩
    constructor
    · intro core begun rest _ predicts
      exact added predicts nofun
    · intro core begun rest terminal _ predicts first
      apply added predicts
      rintro _ ⟨⟩
      exact .inr (predicts.first_mem_terminals first)
    · intro core begun rest terminal member predicts _
      apply added predicts
      rintro _ ⟨⟩
      exact known member
  apply grow_settle_of_facts facts_injective facts_predictAll (additions grammar items)
    (fun _ => bounded.facts_predictAll_subset) _ _ card_additions
  · intro fact present
    rw [Finset.mem_coe, Finset.mem_union, mem_presentFacts]
    exact .inl present
  · intro fact member
    rw [Finset.mem_coe, Finset.mem_union, mem_presentFacts] at member
    exact member

/-! ### Closures -/

theorem closed_closure : (ofGrammar grammar).Closed (facts ((ofGrammar grammar).closure items)) :=
  closed_of_predictAll_eq predictAll_closure

theorem facts_subset_closure : facts items ⊆ facts (system.closure items) :=
  settle_induction (motive := fun found => facts items ⊆ facts found)
    (fun found within => within.trans (facts_predictAll found)) _ subset_rfl

theorem facts_closure_subset {held : Set (Core × Option Terminal)} (closed : system.Closed held)
    (start : facts items ⊆ held) : facts (system.closure items) ⊆ held :=
  settle_induction (motive := fun found => facts found ⊆ held)
    (fun _ within => closed.facts_predictAll_subset within) _ start

end ItemSystem

end CanonicalLR
