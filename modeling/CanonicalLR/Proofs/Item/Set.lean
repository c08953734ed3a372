import CanonicalLR.Item.Closure
import CanonicalLR.Proofs.Derivation.First

namespace CanonicalLR

namespace ItemSet

def HasCore (items : ItemSet) (core : Core) : Prop :=
  (items.lookaheads? core).isSome = true

def HasItem (items : ItemSet) (core : Core) (terminal : Terminal) : Prop :=
  ∃ lookaheads, items.lookaheads? core = some lookaheads ∧ terminal ∈ lookaheads

variable {items : ItemSet}

theorem HasItem.hasCore {core : Core} {terminal : Terminal} (has : items.HasItem core terminal) :
    items.HasCore core := by
  obtain ⟨lookaheads, found, _⟩ := has
  rw [HasCore, found, Option.isSome_some]

theorem mem_entries {core : Core} {lookaheads : OrderedSet Terminal} :
    (core, lookaheads) ∈ items.entries ↔ items.lookaheads? core = some lookaheads :=
  items.lookaheads.get?_eq_some_iff.symm

theorem mem_cores {core : Core} : core ∈ items.cores ↔ items.HasCore core := by
  rw [HasCore, Option.isSome_iff_exists]
  simp only [cores, OrderedMap.keys, List.mem_map, Prod.exists, exists_and_right, exists_eq_right]
  exact exists_congr fun lookaheads => mem_entries

theorem lookaheads?_insert_self (core : Core) (terminals : List Terminal) :
    (items.insert core terminals).lookaheads? core =
      some (((items.lookaheads? core).getD .empty).insertAll terminals) :=
  items.lookaheads.get?_alter_self core _

theorem lookaheads?_insert_of_ne {core other : Core} (differ : other ≠ core)
    (terminals : List Terminal) :
    (items.insert core terminals).lookaheads? other = items.lookaheads? other :=
  items.lookaheads.get?_alter_of_ne differ _

theorem hasCore_insert {core other : Core} {terminals : List Terminal} :
    (items.insert core terminals).HasCore other ↔ items.HasCore other ∨ other = core := by
  by_cases same : other = core
  · subst same
    simp [HasCore, lookaheads?_insert_self]
  · simp [HasCore, lookaheads?_insert_of_ne same, same]

theorem hasItem_insert {core other : Core} {terminals : List Terminal} {terminal : Terminal} :
    (items.insert core terminals).HasItem other terminal ↔
      items.HasItem other terminal ∨ other = core ∧ terminal ∈ terminals := by
  by_cases same : other = core
  · subst same
    simp only [HasItem, lookaheads?_insert_self, Option.some.injEq, exists_eq_left',
      OrderedSet.mem_insertAll, true_and]
    cases items.lookaheads? other <;> simp [or_comm]
  · simp [HasItem, lookaheads?_insert_of_ne same, same]

theorem not_hasCore_empty (core : Core) : ¬ ({} : ItemSet).HasCore core := by
  simp [HasCore, lookaheads?]

def facts (items : ItemSet) : Set (Core × Option Terminal) :=
  {fact | match fact.2 with
    | none => items.HasCore fact.1
    | some terminal => items.HasItem fact.1 terminal}

theorem facts_injective : Function.Injective facts := by
  intro a b same
  have agree (fact : Core × Option Terminal) : fact ∈ facts a ↔ fact ∈ facts b := by
    rw [same]
  obtain ⟨mapA⟩ := a
  obtain ⟨mapB⟩ := b
  congr 1
  apply OrderedMap.ext_get?
  intro core
  have present := agree (core, none)
  have members (terminal : Terminal) := agree (core, some terminal)
  simp only [facts, HasCore, HasItem, lookaheads?, Set.mem_ofPred_eq] at present members
  cases foundA : mapA.get? core with
  | none => cases foundB : mapB.get? core <;> simp_all
  | some setA =>
      cases foundB : mapB.get? core with
      | none => simp_all
      | some setB =>
          simp only [foundA, foundB, Option.some.injEq, exists_eq_left'] at members
          exact congrArg some (OrderedSet.ext members)

theorem mem_facts_none {core : Core} : (core, none) ∈ facts items ↔ items.HasCore core := Iff.rfl

theorem mem_facts_some {core : Core} {terminal : Terminal} :
    (core, some terminal) ∈ facts items ↔ items.HasItem core terminal := Iff.rfl

def Brings (core : Core) (terminals : List Terminal) (fact : Core × Option Terminal) : Prop :=
  fact.1 = core ∧ ∀ terminal, fact.2 = some terminal → terminal ∈ terminals

theorem mem_facts_insert {core : Core} {terminals : List Terminal}
    {fact : Core × Option Terminal} :
    fact ∈ facts (items.insert core terminals) ↔
      fact ∈ facts items ∨ Brings core terminals fact := by
  obtain ⟨other, _ | terminal⟩ := fact
  · rw [mem_facts_none, mem_facts_none, hasCore_insert]
    simp [Brings]
  · rw [mem_facts_some, mem_facts_some, hasItem_insert]
    simp [Brings]

theorem not_mem_facts_empty (fact : Core × Option Terminal) : fact ∉ facts {} := by
  obtain ⟨core, _ | terminal⟩ := fact
  · exact not_hasCore_empty core
  · exact fun has => not_hasCore_empty core has.hasCore

end ItemSet

namespace ItemSystem
open ItemSet

variable {grammar : FlatGrammar} {system : ItemSystem} {items : ItemSet}

theorem ofGrammar_grammar : (ofGrammar grammar).grammar = grammar := rfl

/-! ### Productions by head -/

def noted (byHead : Std.TreeMap Nat (List Nat)) : Set (Nat × Nat) :=
  {fact | fact.2 ∈ byHead.getD fact.1 []}

theorem mem_noted {byHead : Std.TreeMap Nat (List Nat)} {head index : Nat} :
    (head, index) ∈ noted byHead ↔ index ∈ byHead.getD head [] := Iff.rfl

theorem mem_noted_alter {byHead : Std.TreeMap Nat (List Nat)} {head index : Nat}
    {fact : Nat × Nat} :
    fact ∈ noted (byHead.alter head fun old => some (old.getD [] ++ [index])) ↔
      fact ∈ noted byHead ∨ fact = (head, index) := by
  obtain ⟨other, number⟩ := fact
  rw [mem_noted, mem_noted, Std.TreeMap.getD_alter, Std.TreeMap.getD_eq_getD_getElem?,
    Prod.mk.injEq]
  split
  · rename_i same
    obtain rfl := Nat.compare_eq_eq.mp same
    simp
  · rename_i differ
    have differ : ¬ other = head := fun same => differ (Nat.compare_eq_eq.mpr same.symm)
    simp [differ]

theorem mem_productionsOf {index head : Nat} :
    index ∈ (ofGrammar grammar).productionsOf head ↔
      ∃ production, grammar.productions[index]? = some production ∧
        grammar.headIndex? production.head = some head := by
  let adds (entry : Production × Nat) (fact : Nat × Nat) : Prop :=
    grammar.headIndex? entry.1.head = some fact.1 ∧ entry.2 = fact.2
  have all : (head, index) ∈ noted (productionsByHead grammar) ↔
      ∃ entry ∈ grammar.productions.toList.zipIdx,
        grammar.headIndex? entry.1.head = some head ∧ entry.2 = index := by
    apply (mem_foldl_iff adds _).trans
    · simp [mem_noted, adds]
    · rintro byHead ⟨production, number⟩ fact
      simp only [FlatGrammar.getElem?_heads]
      cases found : grammar.headIndex? production.head with
      | none => simp [adds, found]
      | some owner =>
          simp only [adds, found]
          rw [mem_noted_alter, Prod.ext_iff, Option.some.injEq, eq_comm (a := fact.1),
            eq_comm (a := fact.2)]
  apply all.trans
  simp only [Prod.exists, List.mem_zipIdx_iff_getElem?, Array.getElem?_toList]
  grind

/-! ### Remaining symbols -/

theorem remaining_of_production {production : Production} (core : Core)
    (found : grammar.productions[core.production]? = some production) :
    (ofGrammar grammar).remaining core = production.body.drop core.dot := by
  rw [remaining, ofGrammar_grammar, found]

theorem exists_production_of_remaining {core : Core} {symbol : Symbol} {rest : List Symbol}
    (remains : system.remaining core = symbol :: rest) :
    ∃ production, system.grammar.productions[core.production]? = some production ∧
      production.body.drop core.dot = symbol :: rest := by
  unfold remaining at remains
  split at remains
  · exact ⟨_, ‹_›, remains⟩
  · cases remains

theorem remaining_next {core : Core} {symbol : Symbol} {rest : List Symbol}
    (remains : system.remaining core = symbol :: rest) : system.remaining core.next = rest := by
  obtain ⟨production, found, body⟩ := exists_production_of_remaining remains
  simp only [remaining, Core.next, found]
  rw [← List.tail_drop, body, List.tail_cons]

theorem nextSymbol?_eq_some_iff {core : Core} {symbol : Symbol} :
    system.nextSymbol? core = some symbol ↔ ∃ rest, system.remaining core = symbol :: rest := by
  rw [nextSymbol?]
  cases system.remaining core <;> simp

/-! ### Predicting -/

def Predicts (system : ItemSystem) (core begun : Core) (rest : List Symbol) : Prop :=
  ∃ head, system.remaining core = .nonterminal head :: rest ∧
    begun.production ∈ system.productionsOf head ∧ begun.dot = 0

theorem Predicts.dot_eq {core begun : Core} {rest : List Symbol}
    (predicts : system.Predicts core begun rest) : begun.dot = 0 := by
  obtain ⟨_, _, _, zero⟩ := predicts
  exact zero

theorem Predicts.exists_production {core begun : Core} {rest : List Symbol}
    (predicts : (ofGrammar grammar).Predicts core begun rest) :
    ∃ head production, (ofGrammar grammar).remaining core = .nonterminal head :: rest ∧
      grammar.productions[begun.production]? = some production ∧
      grammar.HasProduction head production := by
  obtain ⟨head, remains, member, _⟩ := predicts
  obtain ⟨production, found, owner⟩ := mem_productionsOf.mp member
  exact ⟨head, production, remains, found, Array.mem_of_getElem? found, owner⟩

theorem Predicts.remaining_begun {core begun : Core} {rest : List Symbol} {production : Production}
    (predicts : (ofGrammar grammar).Predicts core begun rest)
    (found : grammar.productions[begun.production]? = some production) :
    (ofGrammar grammar).remaining begun = production.body := by
  rw [remaining_of_production begun found, predicts.dot_eq, List.drop_zero]

theorem mem_followers {rest : List Symbol} {lookaheads : OrderedSet Terminal}
    {terminal : Terminal} :
    terminal ∈ system.followers rest lookaheads ↔
      terminal ∈ system.first.firstOfSequence rest ∨
        system.first.sequenceNullable rest = true ∧ terminal ∈ lookaheads := by
  simp only [followers]
  split <;> simp_all

theorem mem_facts_insertAll {productions : List Nat} {terminals : List Terminal}
    {fact : Core × Option Terminal} :
    fact ∈ facts (productions.foldl
        (fun items production => items.insert ⟨production, 0⟩ terminals) items) ↔
      fact ∈ facts items ∨ ∃ production ∈ productions, Brings ⟨production, 0⟩ terminals fact :=
  mem_foldl_iff (fun production => Brings ⟨production, 0⟩ terminals) fun _ _ _ => mem_facts_insert

theorem mem_facts_predict {core : Core} {fact : Core × Option Terminal} :
    fact ∈ facts (system.predict items core) ↔
      fact ∈ facts items ∨ ∃ rest, system.Predicts core fact.1 rest ∧
        ∀ terminal, fact.2 = some terminal → terminal ∈ system.first.firstOfSequence rest ∨
          system.first.sequenceNullable rest = true ∧ items.HasItem core terminal := by
  have own (terminal : Terminal) :
      terminal ∈ (items.lookaheads? core).getD .empty ↔ items.HasItem core terminal := by
    unfold HasItem
    cases items.lookaheads? core <;> simp
  obtain ⟨begun, lookahead⟩ := fact
  unfold predict Predicts
  split
  · rename_i head rest remains
    apply mem_facts_insertAll.trans
    apply or_congr_right
    simp only [Brings, OrderedSet.mem_members, mem_followers, own]
    constructor
    · rintro ⟨production, member, rfl, within⟩
      exact ⟨rest, ⟨head, remains, member, rfl⟩, within⟩
    · rintro ⟨others, ⟨other, same, member, zero⟩, within⟩
      obtain ⟨rfl, rfl⟩ : head = other ∧ rest = others := by simpa [remains] using same
      exact ⟨begun.production, member, by rw [← zero], within⟩
  · rename_i other
    have none (rest : List Symbol) (head : Nat) :
        system.remaining core ≠ .nonterminal head :: rest := other head rest
    simp [none]

theorem hasCore_predict {core begun : Core} :
    (system.predict items core).HasCore begun ↔
      items.HasCore begun ∨ ∃ rest, system.Predicts core begun rest := by
  rw [← mem_facts_none, mem_facts_predict]
  simp [mem_facts_none]

theorem hasItem_predict {core begun : Core} {terminal : Terminal} :
    (system.predict items core).HasItem begun terminal ↔
      items.HasItem begun terminal ∨ ∃ rest, system.Predicts core begun rest ∧
        (terminal ∈ system.first.firstOfSequence rest ∨
          system.first.sequenceNullable rest = true ∧ items.HasItem core terminal) := by
  rw [← mem_facts_some, mem_facts_predict]
  simp [mem_facts_some]

theorem facts_predict (items : ItemSet) (core : Core) :
    facts items ⊆ facts (system.predict items core) :=
  fun _ present => mem_facts_predict.mpr (.inl present)

/-! ### Advancing -/

theorem mem_facts_advance {symbol : Symbol} {moved : Core} (lookahead : Option Terminal) :
    (moved, lookahead) ∈ facts (system.advance items symbol) ↔
      ∃ core, (core, lookahead) ∈ facts items ∧ system.nextSymbol? core = some symbol ∧
        moved = core.next := by
  have each (moved : ItemSet) (entry : Core × OrderedSet Terminal)
      (fact : Core × Option Terminal) :
      fact ∈ facts (if system.nextSymbol? entry.1 = some symbol then
          moved.insert entry.1.next entry.2.members else moved) ↔
        fact ∈ facts moved ∨ system.nextSymbol? entry.1 = some symbol ∧
          Brings entry.1.next entry.2.members fact := by
    split
    · rename_i next
      simp only [mem_facts_insert, next, true_and]
    · rename_i next
      simp only [next, false_and, or_false]
  have entry (core : Core) : (core, lookahead) ∈ facts items ↔
      ∃ lookaheads, (core, lookaheads) ∈ items.entries ∧
        ∀ terminal, lookahead = some terminal → terminal ∈ lookaheads := by
    simp only [mem_entries]
    cases lookahead with
    | none => rw [mem_facts_none, HasCore, Option.isSome_iff_exists]; simp
    | some terminal => rw [mem_facts_some, HasItem]; simp
  unfold advance
  rw [mem_foldl_iff _ each, or_iff_right (not_mem_facts_empty _)]
  simp only [entry, Brings]
  constructor
  · rintro ⟨⟨core, lookaheads⟩, member, next, same, within⟩
    exact ⟨core, ⟨lookaheads, member, within⟩, next, same⟩
  · rintro ⟨core, ⟨lookaheads, member, within⟩, next, same⟩
    exact ⟨(core, lookaheads), member, next, same, within⟩

theorem hasCore_advance {symbol : Symbol} {moved : Core} :
    (system.advance items symbol).HasCore moved ↔
      ∃ core, items.HasCore core ∧ system.nextSymbol? core = some symbol ∧ moved = core.next :=
  mem_facts_advance none

end ItemSystem

end CanonicalLR
