import CanonicalLR.Proofs.Item.Validity

/-!
The canonical collection as a subset construction. Items are valid for the strings of symbols that
they can be come to along; this is said of productions alone, with strings read from left to right.
`subset_construction` says that a string leads to a state if and only if some core is valid for it,
and that this state holds the valid items.
-/

namespace CanonicalLR

namespace ItemSystem
open ItemSet

variable {system : ItemSystem} {states : Array State} {bound : Finset (Core × Option Terminal)}
  {asked : Nat → Symbol → Prop}

/-! ### Where states come from -/

def KeptByFollowing (system : ItemSystem) (bound : Finset (Core × Option Terminal))
    (holds : Array State → Prop) : Prop :=
  ∀ (asked : Nat → Symbol → Prop) (states : Array State) (source : Nat) (items : ItemSet)
    (symbol : Symbol), Explored system bound asked states →
    itemsAt? states source = some items → symbol ∈ system.nextSymbols items →
    holds states → holds (system.follow source states symbol)

theorem Explored.followAll_induction {holds : Array State → Prop}
    (explored : Explored system bound asked states) {source : Nat} {items : ItemSet}
    {symbols : List Symbol} (found : itemsAt? states source = some items)
    (next : ∀ symbol ∈ symbols, symbol ∈ system.nextSymbols items)
    (stays : ∀ items symbol, facts items ⊆ bound → facts (system.goto items symbol) ⊆ bound)
    (kept : KeptByFollowing system bound holds) (start : holds states) :
    holds (symbols.foldl (system.follow source) states) := by
  induction symbols generalizing states asked with
  | nil => exact start
  | cons symbol rest ih =>
      have stands := next symbol List.mem_cons_self
      obtain ⟨target, follows⟩ := follows_follow found stands
      apply ih (explored.follow found stands stays) (follows.kept _ _ found)
      · exact fun other member => next other (List.mem_cons_of_mem _ member)
      · exact kept _ _ _ _ _ explored found stands start

theorem Explored.explore_induction {holds : Array State → Prop} {steps index : Nat}
    (explored : Explored system bound (fun before _ => before < index) states)
    (stays : ∀ items symbol, facts items ⊆ bound → facts (system.goto items symbol) ⊆ bound)
    (kept : KeptByFollowing system bound holds) (start : holds states) :
    holds (system.explore steps index states) := by
  induction steps generalizing index states with
  | zero => exact start
  | succ steps ih =>
      simp only [ItemSystem.explore]
      split
      · exact start
      · rename_i state present
        have found : itemsAt? states index = some state.items := by rw [itemsAt?, present]; rfl
        apply ih (explored.followState found stays)
        exact explored.followAll_induction found (fun _ member => member) stays kept start

def Linked (states : Array State) : Prop :=
  ∀ index items, itemsAt? states index = some items → index = 0 ∨
    ∃ source symbol, source < index ∧ targetAt? states source symbol = some index

theorem linked_kept : KeptByFollowing system bound Linked := by
  intro asked states source items symbol explored found next linked
  obtain ⟨target, follows⟩ := follows_follow found next
  have unique {index : Nat}
      (held : itemsAt? (system.follow source states symbol) index =
        some (system.goto items symbol)) : index = target :=
    follows.distinct explored.distinct _ _ _ held follows.reached
  intro index held present
  rcases follows.added index held present with old | ⟨rfl, new⟩
  · rcases linked index held old with zero | ⟨earlier, other, less, leads⟩
    · exact .inl zero
    · refine .inr ⟨earlier, other, less, ?_⟩
      rw [follows.transitions]
      split
      · -- The transition was there before, so it leads to the state of the same items.
        rename_i here
        obtain ⟨rfl, rfl⟩ := here
        obtain ⟨others, foundOthers, _, reached⟩ := explored.sound leads
        rw [found] at foundOthers
        cases foundOthers
        rw [unique (follows.kept _ _ reached)]
      · exact leads
  · refine .inr ⟨source, symbol, (lt_size_of_itemsAt? found).trans_le new, ?_⟩
    rw [follows.transitions, if_pos ⟨rfl, rfl⟩, unique present]

theorem linked_automaton {grammar : FlatGrammar} :
    Linked (ofGrammar grammar).automaton.states := by
  apply explored_start.explore_induction (fun _ symbol => facts_goto_subset symbol) linked_kept
  intro index items found
  cases index <;> cases found
  exact .inl rfl

end ItemSystem

/-- The state that a string of symbols leads to from the start. -/
def Automaton.walk? (automaton : Automaton) (symbols : List Symbol) : Option Nat :=
  symbols.foldlM (ItemSystem.targetAt? automaton.states) 0

theorem Automaton.walk?_concat (automaton : Automaton) (symbols : List Symbol) (symbol : Symbol) :
    automaton.walk? (symbols ++ [symbol]) =
      (automaton.walk? symbols).bind (ItemSystem.targetAt? automaton.states · symbol) := by
  simp [walk?]

namespace FlatGrammar
open ItemSet ItemSystem

def AtDot (grammar : FlatGrammar) (core : Core) (symbol : Symbol) (rest : List Symbol) : Prop :=
  ∃ production, grammar.productions[core.production]? = some production ∧
    production.body.drop core.dot = symbol :: rest

def BeginsAt (grammar : FlatGrammar) (head : Nat) (core : Core) : Prop :=
  core.dot = 0 ∧ ∃ production, grammar.productions[core.production]? = some production ∧
    grammar.headIndex? production.head = some head

variable {grammar : FlatGrammar} {path symbols rest : List Symbol} {core begun : Core}
  {state : Nat}

/-! ### Validity of productions and of stacks -/

theorem atDot_iff {symbol : Symbol} :
    grammar.AtDot core symbol rest ↔ (ofGrammar grammar).remaining core = symbol :: rest := by
  constructor
  · rintro ⟨production, found, body⟩
    rw [remaining_of_production core found, body]
  · exact exists_production_of_remaining

theorem predicts_iff : (ofGrammar grammar).Predicts core begun rest ↔
    ∃ head, grammar.AtDot core (.nonterminal head) rest ∧ grammar.BeginsAt head begun := by
  simp only [Predicts, atDot_iff, BeginsAt, mem_productionsOf, and_comm]

theorem walk?_eq_some_iff : (ofGrammar grammar).automaton.walk? symbols = some state ↔
    ∃ below, grammar.Trail symbols.reverse (state :: below) := by
  induction symbols using List.reverseRecOn generalizing state with
  | nil =>
      constructor
      · rintro ⟨⟩
        exact ⟨[], .start⟩
      · rintro ⟨_, ⟨⟩⟩
        rfl
  | append_singleton symbols symbol ih =>
      rw [Automaton.walk?_concat, List.reverse_concat, Option.bind_eq_some_iff]
      constructor
      · rintro ⟨source, walks, leads⟩
        obtain ⟨below, trail⟩ := ih.mp walks
        exact ⟨_, trail.move leads⟩
      · rintro ⟨_, trail⟩
        cases trail with
        | move earlier leads => exact ⟨_, ih.mpr ⟨_, earlier⟩, leads⟩

theorem exists_walk (less : state < (ofGrammar grammar).automaton.states.size) :
    ∃ symbols, (ofGrammar grammar).automaton.walk? symbols = some state := by
  induction state using Nat.strong_induction_on with
  | _ state ih =>
      obtain ⟨items, found⟩ := exists_itemsAt? less
      rcases linked_automaton state items found with rfl | ⟨source, symbol, earlier, leads⟩
      · exact ⟨[], rfl⟩
      · obtain ⟨symbols, walks⟩ := ih source earlier (earlier.trans less)
        refine ⟨symbols ++ [symbol], ?_⟩
        rw [Automaton.walk?_concat, walks, Option.bind_some, leads]

end FlatGrammar

end CanonicalLR
