import CanonicalLR.Proofs.Derivation.First
import CanonicalLR.Proofs.Derivation.Rewriting
import CanonicalLR.Proofs.Fading
import Mathlib.Data.Set.Card
import Mathlib.Data.Set.Finite.Lattice
import Mathlib.Data.Set.Finite.List

namespace CanonicalLR

namespace FlatGrammar

/-- Whether all symbols but one, which satisfies a condition, can stand for nothing. -/
abbrev Leaves (grammar : FlatGrammar) : (Symbol → Prop) → List Symbol → Prop :=
  OneStays fun symbol => grammar.Vanishes [symbol]

def Passes (grammar : FlatGrammar) (number other : Nat) : Prop :=
  ∃ production, grammar.HasProduction number production ∧
    grammar.Leaves (· = .nonterminal other) production.body

def Acyclic (grammar : FlatGrammar) : Prop :=
  ∀ number, ¬ Relation.TransGen grammar.Passes number number

variable {grammar : FlatGrammar} {number other : Nat} {front back symbols : List Symbol}

theorem vanishes_append :
    grammar.Vanishes (front ++ back) ↔ grammar.Vanishes front ∧ grammar.Vanishes back := by
  constructor
  · rintro ⟨_, derives, empty⟩
    obtain ⟨first, second, rfl, inFront, inBack⟩ := derives.split
    rw [forestLeaves_append, List.append_eq_nil_iff] at empty
    exact ⟨⟨first, inFront, empty.1⟩, second, inBack, empty.2⟩
  · rintro ⟨first, second⟩
    exact first.append second

theorem vanishes_iff_forall :
    grammar.Vanishes symbols ↔ ∀ symbol ∈ symbols, grammar.Vanishes [symbol] := by
  induction symbols with
  | nil => exact iff_of_true vanishes_nil nofun
  | cons symbol rest ih =>
      rw [← List.singleton_append, vanishes_append, ih, List.singleton_append,
        List.forall_mem_cons]

theorem vanishes_iff : grammar.Vanishes symbols ↔ grammar.RewritesTo symbols [] := by
  have spells := @rewritesTo_iff_derives grammar symbols []
  rw [List.map_nil] at spells
  simp only [spells, Vanishes, spelled, List.map_eq_nil_iff]

/-! ### Derivations that come back -/

theorem HasProduction.passes {production : Production} {stays : Nat → Prop}
    (produces : grammar.HasProduction number production)
    (leaves : grammar.Leaves (fun symbol => ∃ source, symbol = .nonterminal source ∧ stays source)
      production.body) : ∃ source, grammar.Passes number source ∧ stays source := by
  obtain ⟨before, _, after, split, ⟨source, rfl, holds⟩, fadesBefore, fadesAfter⟩ := leaves
  exact ⟨source, ⟨production, produces, before, _, after, split, rfl, fadesBefore, fadesAfter⟩,
    holds⟩

theorem RewritesTo.leaves (steps : grammar.RewritesTo symbols [.nonterminal number]) :
    grammar.Leaves (fun symbol => ∃ source, symbol = .nonterminal source ∧
      Relation.ReflTransGen grammar.Passes source number) symbols := by
  induction steps using Relation.ReflTransGen.head_induction_on with
  | refl => exact oneStays_singleton.mpr ⟨number, rfl, .refl⟩
  | head step _ ih =>
      cases step with
      | @expand head production before after produces =>
          have vanishes (fades : ∀ symbol ∈ production.body, grammar.Vanishes [symbol]) :
              ∀ symbol ∈ [Symbol.nonterminal head], grammar.Vanishes [symbol] := by
            rw [← vanishes_iff_forall] at fades ⊢
            exact fades.of_production produces
          rw [← List.singleton_append, ← List.append_assoc, Leaves]
          rw [Leaves] at ih
          -- What is left stands before the body, in it or behind it.
          rcases oneStays_append.mp ih with ⟨inFront, fadesAfter⟩ | ⟨fades, inAfter⟩
          · apply OneStays.append_left _ fadesAfter
            rcases oneStays_append.mp inFront with ⟨inBefore, fades⟩ | ⟨fadesBefore, inBody⟩
            · exact inBefore.append_left (vanishes fades)
            · obtain ⟨source, passes, path⟩ := produces.passes inBody
              exact (oneStays_singleton.mpr ⟨head, rfl, path.head passes⟩).append_right fadesBefore
          · obtain ⟨fadesBefore, fadesBody⟩ := List.forall_mem_append.mp fades
            exact inAfter.append_right (List.forall_mem_append.mpr ⟨fadesBefore, vanishes fadesBody⟩)

theorem exists_of_rewrites_nonterminal (step : grammar.Rewrites [.nonterminal number] back) :
    ∃ production, grammar.HasProduction number production ∧ back = production.body := by
  generalize single : [Symbol.nonterminal number] = front at step
  cases step with
  | expand before after produces =>
      obtain ⟨rfl, same⟩ | ⟨rfl, same⟩ := List.append_eq_singleton_iff.mp single.symm
      · cases same
        exact ⟨_, produces, by simp⟩
      · cases same

theorem transGen_passes (cycle : Relation.TransGen grammar.Rewrites [.nonterminal number]
    [.nonterminal number]) : Relation.TransGen grammar.Passes number number := by
  obtain ⟨_, step, steps⟩ := Relation.TransGen.head'_iff.mp cycle
  obtain ⟨production, produces, rfl⟩ := exists_of_rewrites_nonterminal step
  exact Relation.TransGen.head'_iff.mpr (produces.passes (RewritesTo.leaves steps))

/-! ### Finitely many trees -/

def mentioned (grammar : FlatGrammar) : Finset Nat :=
  (grammar.productions.toList.flatMap fun production =>
    production.body.filterMap Symbol.nonterminal?).toFinset

theorem Passes.mem_mentioned (passes : grammar.Passes number other) : other ∈ grammar.mentioned := by
  obtain ⟨production, produces, leaves⟩ := passes
  obtain ⟨_, member, rfl⟩ := leaves.exists_mem
  simp only [mentioned, List.mem_toFinset, List.mem_flatMap, List.mem_filterMap,
    Array.mem_toList_iff]
  exact ⟨production, produces.1, _, member, rfl⟩

noncomputable def height (grammar : FlatGrammar) (number : Nat) : Nat :=
  {other | Relation.TransGen grammar.Passes number other}.ncard

theorem finite_passed (grammar : FlatGrammar) (number : Nat) :
    {other | Relation.TransGen grammar.Passes number other}.Finite := by
  apply (Finset.finite_toSet grammar.mentioned).subset
  intro other path
  obtain ⟨_, _, last⟩ := Relation.TransGen.tail'_iff.mp path
  exact last.mem_mentioned

theorem Acyclic.height_lt (acyclic : grammar.Acyclic) (passes : grammar.Passes number other) :
    grammar.height other < grammar.height number := by
  apply Set.ncard_lt_ncard _ (grammar.finite_passed number)
  exact ⟨fun third path => path.head passes, fun subset => acyclic other (subset (.single passes))⟩

def treesOf (grammar : FlatGrammar) (symbol : Symbol) (tokens : List Token) : Set Tree :=
  {tree | grammar.Derives [symbol] [tree] ∧ tree.leaves = tokens}

def forestsOf (grammar : FlatGrammar) (symbols : List Symbol) (tokens : List Token) :
    Set (List Tree) :=
  {trees | grammar.Derives symbols trees ∧ forestLeaves trees = tokens}

variable {tokens : List Token}

theorem forestsOf_cons {symbol : Symbol} : grammar.forestsOf (symbol :: symbols) tokens ⊆
    ⋃ cut ∈ Finset.range (tokens.length + 1), Set.image2 List.cons
      (grammar.treesOf symbol (tokens.take cut)) (grammar.forestsOf symbols (tokens.drop cut)) := by
  rintro trees ⟨derives, rfl⟩
  rw [← List.singleton_append] at derives
  obtain ⟨first, rest, rfl, here, later⟩ := derives.split
  obtain ⟨tree, rfl⟩ := List.length_eq_one_iff.mp here.length_eq
  simp only [Set.mem_iUnion, Finset.mem_range, forestLeaves_append, forestLeaves_singleton]
  refine ⟨tree.leaves.length, by simp, tree, ?_, rest, ?_, rfl⟩
  · exact ⟨here, by simp⟩
  · exact ⟨later, by simp⟩

def Occurs (grammar : FlatGrammar) (symbols : List Symbol) (tokens : List Token) (symbol : Symbol)
    (own : List Token) : Prop :=
  ∃ front back trees more, symbols = front ++ symbol :: back ∧ grammar.Derives front trees ∧
    grammar.Derives back more ∧ tokens = forestLeaves trees ++ own ++ forestLeaves more

theorem finite_forestsOf {before : List Symbol} {earlier : List Tree}
    (derives : grammar.Derives before earlier)
    (each : ∀ symbol own, grammar.Occurs (before ++ symbols) (forestLeaves earlier ++ tokens)
      symbol own → (grammar.treesOf symbol own).Finite) :
    (grammar.forestsOf symbols tokens).Finite := by
  induction symbols generalizing before earlier tokens with
  | nil =>
      apply (Set.finite_singleton []).subset
      rintro trees ⟨derives, _⟩
      cases derives
      rfl
  | cons symbol rest ih =>
      apply Set.Finite.subset _ forestsOf_cons
      apply Set.Finite.biUnion (Finset.finite_toSet _)
      intro cut _
      -- Unless both parts have something in them, there is nothing to put together.
      obtain none | ⟨tree, here, first⟩ :=
        (grammar.treesOf symbol (tokens.take cut)).eq_empty_or_nonempty
      · simp [none]
      obtain none | ⟨more, later, last⟩ :=
        (grammar.forestsOf rest (tokens.drop cut)).eq_empty_or_nonempty
      · simp [none]
      apply Set.Finite.image2
      · apply each
        refine ⟨before, rest, earlier, more, rfl, derives, later, ?_⟩
        rw [last, List.append_assoc, List.take_append_drop]
      · apply ih (derives.append here)
        rw [forestLeaves_append, forestLeaves_singleton, first, List.append_assoc before,
          List.append_assoc, List.take_append_drop]
        exact each

theorem finite_treesOf_terminal (terminal : Terminal) :
    (grammar.treesOf (.terminal terminal) tokens).Finite := by
  apply (Set.Finite.image Tree.leaf (List.finite_toSet tokens)).subset
  rintro tree ⟨derives, rfl⟩
  cases derives with
  | terminal token => exact ⟨token, by simp [Tree.leaves], rfl⟩

theorem Occurs.shrinks {production : Production} {own : List Token}
    (occurs : grammar.Occurs production.body tokens (.nonterminal other) own)
    (produces : grammar.HasProduction number production) :
    own.length < tokens.length ∨ own = tokens ∧ grammar.Passes number other := by
  obtain ⟨front, back, trees, more, split, inFront, inBack, rfl⟩ := occurs
  by_cases empty : forestLeaves trees = [] ∧ forestLeaves more = []
  · refine .inr ⟨by simp [empty], production, produces, front, _, back, split, rfl, ?_, ?_⟩
    · exact vanishes_iff_forall.mp ⟨trees, inFront, empty.1⟩
    · exact vanishes_iff_forall.mp ⟨more, inBack, empty.2⟩
  · left
    simp only [← List.length_eq_zero_iff] at empty
    simp only [List.length_append]
    omega

theorem treesOf_nonterminal : grammar.treesOf (.nonterminal number) tokens ⊆
    ⋃ production ∈ {production | grammar.HasProduction number production},
      Tree.node production.head '' grammar.forestsOf production.body tokens := by
  rintro tree ⟨derives, rfl⟩
  cases derives with
  | nonterminal produces inner tail =>
      simp only [Set.mem_iUnion]
      exact ⟨_, produces, _, ⟨inner, rfl⟩, rfl⟩

theorem Acyclic.finite_treesOf (acyclic : grammar.Acyclic) (number : Nat) (tokens : List Token) :
    (grammar.treesOf (.nonterminal number) tokens).Finite := by
  apply Set.Finite.subset _ treesOf_nonterminal
  apply Set.Finite.biUnion
  · exact (List.finite_toSet grammar.productions.toList).subset fun _ produces =>
      Array.mem_toList_iff.mpr produces.1
  · intro production produces
    apply Set.Finite.image
    apply finite_forestsOf .nil
    intro symbol own occurs
    cases symbol with
    | terminal terminal => exact finite_treesOf_terminal terminal
    | nonterminal other =>
        -- Only a nonterminal that is passed to can keep all of the leaves, and it is lower.
        rcases occurs.shrinks produces with fewer | ⟨same, passes⟩
        · exact acyclic.finite_treesOf other own
        · have lower := acyclic.height_lt passes
          rw [same]
          exact acyclic.finite_treesOf other tokens
termination_by (tokens.length, grammar.height number)

end FlatGrammar

end CanonicalLR
