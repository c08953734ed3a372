import CanonicalLR.Flat.Basic
import CanonicalLR.Tree.Basic

namespace CanonicalLR

mutual

/-- The tokens of a tree, from left to right. -/
def Tree.leaves : Tree → List Token
  | .leaf token => [token]
  | .node _ children => forestLeaves children

def forestLeaves : List Tree → List Token
  | [] => []
  | tree :: rest => tree.leaves ++ forestLeaves rest

end

theorem forestLeaves_append (front back : List Tree) :
    forestLeaves (front ++ back) = forestLeaves front ++ forestLeaves back := by
  induction front with
  | nil => rfl
  | cons tree rest ih => simp only [List.cons_append, forestLeaves, ih, List.append_assoc]

theorem forestLeaves_singleton (tree : Tree) : forestLeaves [tree] = tree.leaves := by
  simp only [forestLeaves, List.append_nil]

namespace FlatGrammar

/-- The productions of the nonterminal with a number. -/
def HasProduction (grammar : FlatGrammar) (head : Nat) (production : Production) : Prop :=
  production ∈ grammar.productions ∧ grammar.headIndex? production.head = some head

instance (grammar : FlatGrammar) (head : Nat) (production : Production) :
    Decidable (grammar.HasProduction head production) :=
  inferInstanceAs (Decidable (_ ∧ _))

inductive Derives (grammar : FlatGrammar) : List Symbol → List Tree → Prop where
  | nil : Derives grammar [] []
  | terminal {rest : List Symbol} {trees : List Tree} (token : Token)
      (tail : Derives grammar rest trees) :
      Derives grammar (.terminal token.kind :: rest) (.leaf token :: trees)
  | nonterminal {head : Nat} {production : Production} {children : List Tree}
      {rest : List Symbol} {trees : List Tree} (produces : grammar.HasProduction head production)
      (inner : Derives grammar production.body children) (tail : Derives grammar rest trees) :
      Derives grammar (.nonterminal head :: rest) (.node production.head children :: trees)

variable {grammar : FlatGrammar}

theorem Derives.append {front back : List Symbol} {trees more : List Tree}
    (first : grammar.Derives front trees) (second : grammar.Derives back more) :
    grammar.Derives (front ++ back) (trees ++ more) := by
  induction first with
  | nil => exact second
  | terminal token _ ih => exact .terminal token ih
  | nonterminal produces inner _ _ ih => exact .nonterminal produces inner ih

theorem Derives.split {front back : List Symbol} {trees : List Tree}
    (derives : grammar.Derives (front ++ back) trees) :
    ∃ first second, trees = first ++ second ∧ grammar.Derives front first ∧
      grammar.Derives back second := by
  induction front generalizing trees with
  | nil => exact ⟨[], trees, rfl, .nil, derives⟩
  | cons symbol rest ih =>
      cases derives with
      | terminal token tail =>
          obtain ⟨first, second, rfl, inFront, inBack⟩ := ih tail
          exact ⟨_ :: first, second, rfl, .terminal token inFront, inBack⟩
      | nonterminal produces inner tail =>
          obtain ⟨first, second, rfl, inFront, inBack⟩ := ih tail
          exact ⟨_ :: first, second, rfl, .nonterminal produces inner inFront, inBack⟩

theorem Derives.length_eq {symbols : List Symbol} {trees : List Tree}
    (derives : grammar.Derives symbols trees) : trees.length = symbols.length := by
  induction derives with
  | nil => rfl
  | terminal _ _ ih => simp only [List.length_cons, ih]
  | nonterminal _ _ _ _ ih => simp only [List.length_cons, ih]

theorem Derives.pop {above below : List Symbol} {trees : List Tree}
    (derives : grammar.Derives (below ++ above) trees.reverse) :
    grammar.Derives above (trees.take above.length).reverse ∧
      grammar.Derives below (trees.drop above.length).reverse := by
  obtain ⟨first, second, same, inBelow, inAbove⟩ := derives.split
  have stack : trees = second.reverse ++ first.reverse := by
    rw [← List.reverse_append, ← same, List.reverse_reverse]
  have length : above.length = second.reverse.length := by
    rw [List.length_reverse, inAbove.length_eq]
  rw [stack, length, List.take_left, List.drop_left, List.reverse_reverse, List.reverse_reverse]
  exact ⟨inAbove, inBelow⟩

/-- A tree of the nonterminal with a name. -/
def IsTreeOf (grammar : FlatGrammar) (name : String) (tree : Tree) : Prop :=
  ∃ head, nonterminalIndex? grammar.nonterminals name = some head ∧
    grammar.Derives [.nonterminal head] [tree]

end FlatGrammar

end CanonicalLR
