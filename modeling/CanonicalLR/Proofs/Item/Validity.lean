import CanonicalLR.Proofs.Item.Collection

/-!
Valid items. The start item is valid for the empty string of symbols, where a valid item stands the
items that begin there are valid too, and an item that moves past a symbol is valid for the longer
string. `Trail.facts_eq` says that the states of the collection hold the valid items of the strings
that lead to them. Strings have the latest symbol first, as the stacks of the parser do.
-/

namespace CanonicalLR

namespace FlatGrammar
open ItemSet

inductive ValidCore (grammar : FlatGrammar) : List Symbol → Core → Prop where
  | start : ValidCore grammar [] ⟨0, 0⟩
  | begun {path rest : List Symbol} {core begun : Core} (valid : ValidCore grammar path core)
      (predicts : (ItemSystem.ofGrammar grammar).Predicts core begun rest) :
      ValidCore grammar path begun
  | moved {path rest : List Symbol} {core : Core} {symbol : Symbol}
      (valid : ValidCore grammar path core)
      (remains : (ItemSystem.ofGrammar grammar).remaining core = symbol :: rest) :
      ValidCore grammar (symbol :: path) core.next

/-- Cores with the terminals that may follow them. -/
inductive ValidItem (grammar : FlatGrammar) : List Symbol → Core → Terminal → Prop where
  | start : ValidItem grammar [] ⟨0, 0⟩ Terminal.eof
  | first {path rest : List Symbol} {core begun : Core} {terminal : Terminal}
      (valid : grammar.ValidCore path core)
      (predicts : (ItemSystem.ofGrammar grammar).Predicts core begun rest)
      (begins : grammar.Begins rest terminal) : ValidItem grammar path begun terminal
  | inherited {path rest : List Symbol} {core begun : Core} {terminal : Terminal}
      (valid : ValidItem grammar path core terminal)
      (predicts : (ItemSystem.ofGrammar grammar).Predicts core begun rest)
      (vanishes : grammar.Vanishes rest) : ValidItem grammar path begun terminal
  | moved {path rest : List Symbol} {core : Core} {symbol : Symbol} {terminal : Terminal}
      (valid : ValidItem grammar path core terminal)
      (remains : (ItemSystem.ofGrammar grammar).remaining core = symbol :: rest) :
      ValidItem grammar (symbol :: path) core.next terminal

variable {grammar : FlatGrammar} {path : List Symbol} {core : Core} {terminal : Terminal}

theorem ValidItem.validCore (valid : grammar.ValidItem path core terminal) :
    grammar.ValidCore path core := by
  induction valid with
  | start => exact .start
  | first valid predicts _ => exact .begun valid predicts
  | inherited _ predicts _ ih => exact .begun ih predicts
  | moved _ remains ih => exact .moved ih remains

/-! ### Where valid items come from -/

theorem ValidCore.beginning (valid : grammar.ValidCore path core) (zero : core.dot = 0) :
    path = [] ∧ core = ⟨0, 0⟩ ∨ ∃ before rest, grammar.ValidCore path before ∧
      (ItemSystem.ofGrammar grammar).Predicts before core rest := by
  cases valid with
  | start => exact .inl ⟨rfl, rfl⟩
  | begun valid predicts => exact .inr ⟨_, _, valid, predicts⟩
  | moved _ _ => cases zero

def Begun (grammar : FlatGrammar) (holds : List Symbol → Core → Prop) (path : List Symbol)
    (core : Core) : Prop :=
  ∃ front below : List Symbol, path = front.reverse ++ below ∧
    (ItemSystem.ofGrammar grammar).remaining ⟨core.production, 0⟩ =
      front ++ (ItemSystem.ofGrammar grammar).remaining core ∧
    holds below ⟨core.production, 0⟩

theorem Begun.here {holds : List Symbol → Core → Prop} (zero : core.dot = 0)
    (present : holds path core) : grammar.Begun holds path core := by
  have same : core = ⟨core.production, 0⟩ := by rw [← zero]
  refine ⟨[], path, rfl, ?_, ?_⟩
  · rw [← same, List.nil_append]
  · rw [← same]
    exact present

theorem Begun.moved {holds : List Symbol → Core → Prop} {symbol : Symbol} {rest : List Symbol}
    (begun : grammar.Begun holds path core)
    (remains : (ItemSystem.ofGrammar grammar).remaining core = symbol :: rest) :
    grammar.Begun holds (symbol :: path) core.next := by
  obtain ⟨front, below, split, whole, present⟩ := begun
  refine ⟨front ++ [symbol], below, ?_, ?_, present⟩
  · rw [split, List.reverse_append, List.reverse_singleton, List.singleton_append,
      List.cons_append]
  · rw [ItemSystem.remaining_next remains, List.append_assoc, List.singleton_append, ← remains]
    exact whole

theorem Begun.of_complete {holds : List Symbol → Core → Prop} {production : Production}
    (begun : grammar.Begun holds path core)
    (complete : (ItemSystem.ofGrammar grammar).remaining core = [])
    (found : grammar.productions[core.production]? = some production) :
    path = production.body.reverse ++ path.drop production.body.length ∧
      holds (path.drop production.body.length) ⟨core.production, 0⟩ := by
  obtain ⟨front, below, split, whole, present⟩ := begun
  have body : production.body = front := by
    have all : (ItemSystem.ofGrammar grammar).remaining ⟨core.production, 0⟩ = production.body :=
      ItemSystem.remaining_of_production ⟨core.production, 0⟩ found
    rw [whole, complete, List.append_nil] at all
    exact all.symm
  have lower : path.drop production.body.length = below := by
    rw [split, body, ← List.length_reverse, List.drop_left]
  rw [lower, body]
  exact ⟨split, present⟩

theorem ValidCore.origin (valid : grammar.ValidCore path core) :
    grammar.Begun grammar.ValidCore path core := by
  induction valid with
  | start => exact .here rfl .start
  | begun valid predicts _ => exact .here predicts.dot_eq (.begun valid predicts)
  | moved _ remains ih => exact ih.moved remains

theorem ValidItem.beginning (valid : grammar.ValidItem path core terminal) (zero : core.dot = 0) :
    path = [] ∧ core = ⟨0, 0⟩ ∧ terminal = Terminal.eof ∨
      ∃ before rest, grammar.ValidCore path before ∧
        (ItemSystem.ofGrammar grammar).Predicts before core rest ∧
        (grammar.Begins rest terminal ∨
          grammar.Vanishes rest ∧ grammar.ValidItem path before terminal) := by
  cases valid with
  | start => exact .inl ⟨rfl, rfl, rfl⟩
  | first valid predicts begins => exact .inr ⟨_, _, valid, predicts, .inl begins⟩
  | inherited valid predicts vanishes =>
      exact .inr ⟨_, _, valid.validCore, predicts, .inr ⟨vanishes, valid⟩⟩
  | moved _ _ => cases zero

theorem ValidItem.origin (valid : grammar.ValidItem path core terminal) :
    grammar.Begun (grammar.ValidItem · · terminal) path core := by
  induction valid with
  | start => exact .here rfl .start
  | first valid predicts begins => exact .here predicts.dot_eq (.first valid predicts begins)
  | inherited valid predicts vanishes _ =>
      exact .here predicts.dot_eq (.inherited valid predicts vanishes)
  | moved _ remains ih => exact ih.moved remains

/-! ### The states of the collection hold the valid items -/

def validFacts (grammar : FlatGrammar) (path : List Symbol) : Set (Core × Option Terminal) :=
  {fact | match fact.2 with
    | none => grammar.ValidCore path fact.1
    | some terminal => grammar.ValidItem path fact.1 terminal}

theorem closed_validFacts (path : List Symbol) :
    (ItemSystem.ofGrammar grammar).Closed (grammar.validFacts path) := by
  constructor
  · intro core begun rest valid predicts
    exact ValidCore.begun valid predicts
  · intro core begun rest terminal valid predicts first
    exact ValidItem.first valid predicts (FirstSets.mem_firstOfSequence_iff.mp first)
  · intro core begun rest terminal valid predicts nullable
    exact ValidItem.inherited valid predicts (FirstSets.sequenceNullable_iff.mp nullable)

theorem validFacts_subset {held : Set (Core × Option Terminal)}
    (closed : (ItemSystem.ofGrammar grammar).Closed held)
    (start : path = [] → (⟨0, 0⟩, none) ∈ held ∧ (⟨0, 0⟩, some Terminal.eof) ∈ held)
    (moved : ∀ symbol before core lookahead, path = symbol :: before →
      (core, lookahead) ∈ grammar.validFacts before →
      (ItemSystem.ofGrammar grammar).nextSymbol? core = some symbol →
      (core.next, lookahead) ∈ held) :
    grammar.validFacts path ⊆ held := by
  have cores {core : Core} (valid : grammar.ValidCore path core) : (core, none) ∈ held := by
    induction valid with
    | start => exact (start rfl).1
    | begun _ predicts ih => exact closed.core (ih start moved) predicts
    | moved valid remains _ =>
        exact moved _ _ _ none rfl valid (ItemSystem.nextSymbol?_eq_some_iff.mpr ⟨_, remains⟩)
  rintro ⟨core, _ | terminal⟩ valid
  · exact cores valid
  · change grammar.ValidItem path core terminal at valid
    induction valid with
    | start => exact (start rfl).2
    | first valid predicts begins =>
        exact closed.first (cores valid) predicts (FirstSets.mem_firstOfSequence_iff.mpr begins)
    | inherited _ predicts vanishes ih =>
        exact closed.inherit (ih start moved cores) predicts
          (FirstSets.sequenceNullable_iff.mpr vanishes)
    | @moved path rest core symbol terminal valid remains _ =>
        exact moved _ _ _ (some terminal) rfl valid
          (ItemSystem.nextSymbol?_eq_some_iff.mpr ⟨_, remains⟩)

theorem facts_startItems :
    facts (ItemSystem.ofGrammar grammar).startItems = grammar.validFacts [] := by
  apply Set.Subset.antisymm
  · apply ItemSystem.facts_closure_subset (closed_validFacts [])
    rintro ⟨core, lookahead⟩ present
    rcases mem_facts_insert.mp present with old | ⟨same, lookaheads⟩
    · exact absurd old (not_mem_facts_empty _)
    · change core = ⟨0, 0⟩ at same
      subst same
      cases lookahead with
      | none => exact ValidCore.start
      | some terminal =>
          obtain rfl := List.mem_singleton.mp (lookaheads terminal rfl)
          exact ValidItem.start
  · apply validFacts_subset ItemSystem.closed_closure
    · intro _
      constructor
      · apply ItemSystem.facts_subset_closure
        exact mem_facts_insert.mpr (.inr ⟨rfl, nofun⟩)
      · apply ItemSystem.facts_subset_closure
        refine mem_facts_insert.mpr (.inr ⟨rfl, ?_⟩)
        rintro _ ⟨⟩
        exact List.mem_singleton_self _
    · intro symbol before core lookahead cons
      cases cons

theorem facts_goto {items : ItemSet} (same : facts items = grammar.validFacts path)
    (symbol : Symbol) :
    facts ((ItemSystem.ofGrammar grammar).goto items symbol) =
      grammar.validFacts (symbol :: path) := by
  apply Set.Subset.antisymm
  · apply ItemSystem.facts_closure_subset (closed_validFacts (symbol :: path))
    rintro ⟨moved, lookahead⟩ present
    obtain ⟨core, old, stands, rfl⟩ := (ItemSystem.mem_facts_advance _).mp present
    obtain ⟨rest, remains⟩ := ItemSystem.nextSymbol?_eq_some_iff.mp stands
    rw [same] at old
    cases lookahead with
    | none => exact ValidCore.moved old remains
    | some terminal => exact ValidItem.moved old remains
  · apply validFacts_subset ItemSystem.closed_closure
    · intro empty
      cases empty
    · intro other before core lookahead cons valid stands
      cases cons
      apply ItemSystem.facts_subset_closure
      rw [← same] at valid
      exact (ItemSystem.mem_facts_advance _).mpr ⟨core, valid, stands, rfl⟩

/-- The states that transitions come through from the start, with the symbols on the way. -/
inductive Trail (grammar : FlatGrammar) : List Symbol → List Nat → Prop where
  | start : Trail grammar [] [0]
  | move {path : List Symbol} {state target : Nat} {below : List Nat} {symbol : Symbol}
      (earlier : Trail grammar path (state :: below))
      (leads : ItemSystem.targetAt? (ItemSystem.ofGrammar grammar).automaton.states state symbol =
        some target) :
      Trail grammar (symbol :: path) (target :: state :: below)

theorem Trail.facts_eq {state : Nat} {below : List Nat}
    (trail : grammar.Trail path (state :: below)) :
    ∃ items, ItemSystem.itemsAt? (ItemSystem.ofGrammar grammar).automaton.states state =
        some items ∧ facts items = grammar.validFacts path := by
  generalize split : state :: below = states at trail
  induction trail generalizing state below with
  | start =>
      cases split
      exact ⟨_, ItemSystem.canonical_automaton.start, facts_startItems⟩
  | @move path before target below symbol _ leads ih =>
      cases split
      obtain ⟨items, found, same⟩ := ih rfl
      obtain ⟨held, present, _, reached⟩ := ItemSystem.canonical_automaton.sound leads
      rw [found] at present
      cases present
      exact ⟨_, reached, facts_goto same symbol⟩

theorem Trail.exists_move {state : Nat} {below : List Nat}
    (trail : grammar.Trail path (state :: below)) {symbol : Symbol} {rest : List Symbol}
    (valid : grammar.ValidCore path core)
    (remains : (ItemSystem.ofGrammar grammar).remaining core = symbol :: rest) :
    ∃ target, ItemSystem.targetAt? (ItemSystem.ofGrammar grammar).automaton.states state symbol =
        some target ∧ grammar.Trail (symbol :: path) (target :: state :: below) := by
  obtain ⟨items, found, same⟩ := trail.facts_eq
  have has : items.HasCore core := by
    rw [← mem_facts_none, same]
    exact valid
  have stands := ItemSystem.mem_nextSymbols.mpr
    ⟨core, has, ItemSystem.nextSymbol?_eq_some_iff.mpr ⟨rest, remains⟩⟩
  obtain ⟨target, leads, _⟩ := ItemSystem.exists_target found stands
  exact ⟨target, leads, .move trail leads⟩

theorem Trail.exists_core {state target : Nat} {below : List Nat}
    (trail : grammar.Trail path (state :: below)) {symbol : Symbol}
    (leads : ItemSystem.targetAt? (ItemSystem.ofGrammar grammar).automaton.states state symbol =
      some target) :
    ∃ core rest, grammar.ValidCore path core ∧
      (ItemSystem.ofGrammar grammar).remaining core = symbol :: rest := by
  obtain ⟨items, found, same⟩ := trail.facts_eq
  obtain ⟨held, present, stands, _⟩ := ItemSystem.canonical_automaton.sound leads
  rw [found] at present
  cases present
  obtain ⟨core, has, next⟩ := ItemSystem.mem_nextSymbols.mp stands
  obtain ⟨rest, remains⟩ := ItemSystem.nextSymbol?_eq_some_iff.mp next
  rw [← mem_facts_none, same] at has
  exact ⟨core, rest, has, remains⟩

theorem Trail.drop {states : List Nat} (trail : grammar.Trail path states) {count : Nat}
    (within : count ≤ path.length) : grammar.Trail (path.drop count) (states.drop count) := by
  induction trail generalizing count with
  | start =>
      obtain rfl : count = 0 := Nat.le_zero.mp within
      exact .start
  | move earlier leads ih =>
      cases count with
      | zero => exact .move earlier leads
      | succ count => exact ih (Nat.le_of_succ_le_succ within)

end FlatGrammar

end CanonicalLR
