import CanonicalLR.Proofs.Item.Loop
import Mathlib.Order.Bounds.Basic

namespace CanonicalLR

namespace ItemSet

variable {items more : ItemSet}

instance : LE ItemSet where
  le items more := ∀ core lookaheads, items.lookaheads? core = some lookaheads →
    ∃ others, more.lookaheads? core = some others ∧ ∀ terminal ∈ lookaheads, terminal ∈ others

theorem le_iff_facts_subset : items ≤ more ↔ facts items ⊆ facts more := by
  constructor
  · rintro within ⟨core, _ | terminal⟩ present
    · obtain ⟨lookaheads, found⟩ := Option.isSome_iff_exists.mp present
      obtain ⟨others, foundMore, _⟩ := within core lookaheads found
      rw [mem_facts_none, HasCore, foundMore, Option.isSome_some]
    · obtain ⟨lookaheads, found, member⟩ := present
      obtain ⟨others, foundMore, kept⟩ := within core lookaheads found
      exact ⟨others, foundMore, kept terminal member⟩
  · intro within core lookaheads found
    have present : (core, none) ∈ facts items := by
      rw [mem_facts_none, HasCore, found, Option.isSome_some]
    obtain ⟨others, foundMore⟩ := Option.isSome_iff_exists.mp (within present)
    refine ⟨others, foundMore, fun terminal member => ?_⟩
    have item : more.HasItem core terminal := within (mem_facts_some.mpr ⟨lookaheads, found, member⟩)
    obtain ⟨same, foundSame, inSame⟩ := item
    rw [foundMore] at foundSame
    cases foundSame
    exact inSame

instance : PartialOrder ItemSet where
  le_refl items := le_iff_facts_subset.mpr subset_rfl
  le_trans items more most within also :=
    le_iff_facts_subset.mpr ((le_iff_facts_subset.mp within).trans (le_iff_facts_subset.mp also))
  le_antisymm items more within also := facts_injective
    (Set.Subset.antisymm (le_iff_facts_subset.mp within) (le_iff_facts_subset.mp also))

/-- The set that adding items one after the other leads to. -/
def ofItems (entries : List (Core × List Terminal)) : ItemSet :=
  entries.foldl (fun items entry => items.insert entry.1 entry.2) {}

theorem mem_facts_ofItems {entries : List (Core × List Terminal)}
    {fact : Core × Option Terminal} :
    fact ∈ facts (ofItems entries) ↔ ∃ entry ∈ entries, Brings entry.1 entry.2 fact := by
  have each (items : ItemSet) (entry : Core × List Terminal) (fact : Core × Option Terminal) :
      fact ∈ facts (items.insert entry.1 entry.2) ↔
        fact ∈ facts items ∨ Brings entry.1 entry.2 fact := mem_facts_insert
  exact (mem_foldl_iff _ each).trans (or_iff_right (not_mem_facts_empty fact))

theorem ofItems_perm {first second : List (Core × List Terminal)} (perm : first.Perm second) :
    ofItems first = ofItems second := by
  apply facts_injective
  ext fact
  simp only [mem_facts_ofItems, perm.mem_iff]

end ItemSet

/-- Whether productions begin wherever an item of a set stands before their nonterminal, with all
that can begin what comes after it there, and with the lookaheads of the item if that can be nothing. -/
def FlatGrammar.Saturates (grammar : FlatGrammar) (items : ItemSet) : Prop :=
  ∀ ⦃core begun : Core⦄ ⦃head : Nat⦄ ⦃rest : List Symbol⦄ ⦃lookaheads : OrderedSet Terminal⦄,
    items.lookaheads? core = some lookaheads → grammar.AtDot core (.nonterminal head) rest →
    grammar.BeginsAt head begun →
    ∃ others, items.lookaheads? begun = some others ∧
      (∀ terminal, grammar.Begins rest terminal → terminal ∈ others) ∧
      (grammar.Vanishes rest → ∀ terminal ∈ lookaheads, terminal ∈ others)

namespace ItemSystem
open ItemSet FlatGrammar

variable {grammar : FlatGrammar} {items given more : ItemSet}

theorem saturates_iff_closed :
    grammar.Saturates items ↔ (ofGrammar grammar).Closed (facts items) := by
  constructor
  · intro saturates
    constructor
    · intro core begun rest present predicts
      obtain ⟨head, stands, begins⟩ := predicts_iff.mp predicts
      obtain ⟨lookaheads, found⟩ := Option.isSome_iff_exists.mp present
      obtain ⟨others, foundBegun, _⟩ := saturates found stands begins
      rw [mem_facts_none, HasCore, foundBegun, Option.isSome_some]
    · intro core begun rest terminal present predicts first
      obtain ⟨head, stands, begins⟩ := predicts_iff.mp predicts
      obtain ⟨lookaheads, found⟩ := Option.isSome_iff_exists.mp present
      obtain ⟨others, foundBegun, followed, _⟩ := saturates found stands begins
      exact ⟨others, foundBegun, followed terminal (FirstSets.mem_firstOfSequence_iff.mp first)⟩
    · rintro core begun rest terminal ⟨lookaheads, found, member⟩ predicts nullable
      obtain ⟨head, stands, begins⟩ := predicts_iff.mp predicts
      obtain ⟨others, foundBegun, _, inherited⟩ := saturates found stands begins
      exact ⟨others, foundBegun,
        inherited (FirstSets.sequenceNullable_iff.mp nullable) terminal member⟩
  · intro closed core begun head rest lookaheads found stands begins
    have predicts := predicts_iff.mpr ⟨head, stands, begins⟩
    have present : (core, none) ∈ facts items := by
      rw [mem_facts_none, HasCore, found, Option.isSome_some]
    obtain ⟨others, foundBegun⟩ := Option.isSome_iff_exists.mp (closed.core present predicts)
    have inOthers {terminal : Terminal} (item : items.HasItem begun terminal) :
        terminal ∈ others := by
      obtain ⟨same, foundSame, member⟩ := item
      rw [foundBegun] at foundSame
      cases foundSame
      exact member
    refine ⟨others, foundBegun, fun terminal first => inOthers ?_,
      fun vanishes terminal member => inOthers ?_⟩
    · exact closed.first present predicts (FirstSets.mem_firstOfSequence_iff.mpr first)
    · exact closed.inherit (mem_facts_some.mpr ⟨lookaheads, found, member⟩) predicts
        (FirstSets.sequenceNullable_iff.mpr vanishes)

theorem closure_isLeast (items : ItemSet) :
    IsLeast {more | items ≤ more ∧ grammar.Saturates more} ((ofGrammar grammar).closure items) := by
  constructor
  · exact ⟨le_iff_facts_subset.mpr facts_subset_closure, saturates_iff_closed.mpr closed_closure⟩
  · rintro more ⟨above, saturates⟩
    exact le_iff_facts_subset.mpr
      (facts_closure_subset (saturates_iff_closed.mp saturates) (le_iff_facts_subset.mp above))

theorem closure_closure :
    (ofGrammar grammar).closure ((ofGrammar grammar).closure items) =
      (ofGrammar grammar).closure items := by
  apply le_antisymm
  · exact (closure_isLeast _).2 ⟨le_rfl, (closure_isLeast items).1.2⟩
  · exact (closure_isLeast _).1.1

theorem closure_monotone : Monotone (ofGrammar grammar).closure := by
  intro items more within
  exact (closure_isLeast items).2 ⟨within.trans (closure_isLeast more).1.1, (closure_isLeast more).1.2⟩

/-! ### Any order of work -/

theorem Pending.perm {waiting next : List Core} (pending : Pending grammar given items waiting)
    (perm : waiting.Perm next) : Pending grammar given items next :=
  { pending with
    queued := fun core member => pending.queued core (perm.mem_iff.mpr member)
    settled := fun core has => (pending.settled core has).imp_left perm.mem_iff.mp }

theorem Pending.turn {work next : ItemSet × List Core}
    (pending : Pending grammar given work.1 work.2)
    (turn : Turn (ofGrammar grammar).visitCore work next) :
    Pending grammar given next.1 next.2 ∧
      next.2.length + (lacking ((ofGrammar grammar).closure given) next.1).card <
        work.2.length + (lacking ((ofGrammar grammar).closure given) work.1).card := by
  cases turn with
  | visit taken left =>
      have ordered := pending.perm taken
      refine ⟨ordered.visit.perm left.symm, ?_⟩
      rw [taken.length_eq, left.length_eq]
      exact ordered.length_visit

theorem Pending.turns {work last : ItemSet × List Core}
    (pending : Pending grammar given work.1 work.2)
    (turns : Relation.ReflTransGen (Turn (ofGrammar grammar).visitCore) work last) :
    Pending grammar given last.1 last.2 := by
  induction turns with
  | refl => exact pending
  | tail _ turn ih => exact (ih.turn turn).1

theorem acc_closure {waiting : List Core} (perm : waiting.Perm given.cores) :
    Acc (fun next work => Turn (ofGrammar grammar).visitCore work next) (given, waiting) :=
  acc_turn (fun work => Pending grammar given work.1 work.2) _
    (fun _ _ pending turn => pending.turn turn) (pending_start.perm perm.symm)

theorem eq_closure_of_turns {waiting : List Core} (perm : waiting.Perm given.cores) {last : ItemSet}
    (turns : Relation.ReflTransGen (Turn (ofGrammar grammar).visitCore) (given, waiting)
      (last, [])) : last = (ofGrammar grammar).closure given := by
  have pending : Pending grammar given given waiting := pending_start.perm perm.symm
  exact (pending.turns turns).eq_closure

/-- A closure is the least set above the given items in which productions begin wherever an item
stands before their nonterminal. So closing once is enough, and larger sets have larger closures;
the order in which items are put in does not matter, and neither does the order of the work, which
always ends. -/
theorem closure_least (grammar : FlatGrammar) :
    (∀ items, IsLeast {more | items ≤ more ∧ grammar.Saturates more}
      ((ofGrammar grammar).closure items)) ∧
    (∀ items, (ofGrammar grammar).closure ((ofGrammar grammar).closure items) =
      (ofGrammar grammar).closure items) ∧
    Monotone (ofGrammar grammar).closure ∧
    (∀ first second : List (Core × List Terminal), first.Perm second →
      (ofGrammar grammar).closure (.ofItems first) =
        (ofGrammar grammar).closure (.ofItems second)) ∧
    (∀ items : ItemSet, ∃ turns visited,
      drain (ofGrammar grammar).visitCore turns items items.cores =
        some ((ofGrammar grammar).closure items, visited)) ∧
    ∀ (items : ItemSet) (waiting : List Core), waiting.Perm items.cores →
      Acc (fun next work => Turn (ofGrammar grammar).visitCore work next) (items, waiting) ∧
      ∀ last, Relation.ReflTransGen (Turn (ofGrammar grammar).visitCore) (items, waiting)
        (last, []) → last = (ofGrammar grammar).closure items := by
  refine ⟨closure_isLeast, fun _ => closure_closure, closure_monotone, fun first second perm => ?_,
    exists_drain_closure, fun items waiting perm => ⟨acc_closure perm, fun last turns => ?_⟩⟩
  · rw [ofItems_perm perm]
  · exact eq_closure_of_turns perm turns

end ItemSystem

end CanonicalLR
