import CanonicalLR.Proofs.Flat.Reachable
import CanonicalLR.Proofs.Tree.Splice

namespace CanonicalLR

/-- Trees in which the children of every node unfold the body of a rule that the root refers to. -/
inductive Grammar.Shaped (grammar : Grammar) (root : RuleId) : Tree → Prop where
  | leaf (token : Token) : Shaped grammar root (.leaf token)
  | node {id : RuleId} {rule : Rule} {body : List Op} {children : List Tree}
      (reachable : grammar.Refers root id) (found : grammar.get? id = some rule)
      (defined : rule.body = some body) (fits : grammar.Fits body children)
      (inner : ∀ child ∈ children, Shaped grammar root child) :
      Shaped grammar root (.node rule.name children)

theorem FlatGrammar.Derives.of_mem_mul {grammar : FlatGrammar} {symbols : List Symbol}
    {trees : List Tree} {first second : Language Symbol}
    (derives : grammar.Derives symbols trees) (member : symbols ∈ first * second) :
    ∃ front back before after, front ∈ first ∧ back ∈ second ∧ trees = before ++ after ∧
      grammar.Derives front before ∧ grammar.Derives back after := by
  obtain ⟨front, inFirst, back, inSecond, rfl⟩ := Language.mem_mul.mp member
  obtain ⟨before, after, split, derivesFront, derivesBack⟩ := derives.split
  exact ⟨front, back, before, after, inFirst, inSecond, split, derivesFront, derivesBack⟩

namespace Expansion
open FlatGrammar

variable {grammar : Grammar} {start : Nat} {all : List RuleId} {expansion : Expansion}
  {root : RuleId} {symbols : List Symbol} {trees : List Tree}

def Unrolled (grammar : Grammar) (expansion : Expansion) (tree : Tree) : Prop :=
  ∀ ⦃body : List Op⦄ ⦃rounds : Language Symbol⦄ ⦃repetition number : Nat⦄ ⦃children : List Tree⦄,
    tree = .node (repetitionName repetition) children →
    expansion.number? (repetitionName repetition) = some number →
    languageOf (expansion.bodiesOf (repetitionName repetition)) =
      1 + rounds * {[.nonterminal number]} →
    expansion.Compiled grammar body rounds → grammar.Fits [.many body] (forestPieces children)

theorem Flattened.node_of_derives (invariant : Flattened grammar start [] all expansion)
    (apart : grammar.NamesApart) (few : expansion.flat.nonterminals.length ≤ 90000) {name : String}
    {number : Nat} (numbered : expansion.number? name = some number)
    (derives : expansion.flat.Derives [.nonterminal number] trees) :
    ∃ children, trees = [.node name children] := by
  cases derives with
  | nonterminal produces inner tail =>
      obtain ⟨rfl, _⟩ := (invariant.hasProduction_iff apart few numbered).mp produces
      cases tail
      exact ⟨_, rfl⟩

def Fitting (grammar : Grammar) (expansion : Expansion) (ops : List Op)
    (language : Language Symbol) : Prop :=
  ∀ symbols ∈ language, ∀ trees, expansion.flat.Derives symbols trees →
    (∀ tree ∈ trees, Unrolled grammar expansion tree) → grammar.Fits ops (forestPieces trees)

namespace Fitting

variable {ops body : List Op} {first second inners : Language Symbol}

theorem one (fits : grammar.Fits ops []) : Fitting grammar expansion ops 1 := by
  intro symbols one trees derives _
  rw [(Language.mem_one symbols).mp one] at derives
  cases derives
  exact fits

theorem imp {other : List Op} (fitting : Fitting grammar expansion ops first)
    (fits : ∀ ⦃trees⦄, grammar.Fits ops trees → grammar.Fits other trees) :
    Fitting grammar expansion other first :=
  fun symbols member trees derives unrolled => fits (fitting symbols member trees derives unrolled)

theorem terminal {op : Op} {terminal : Terminal}
    (reads : ∀ token : Token, token.kind = terminal → grammar.Fits [op] [.leaf token]) :
    Fitting grammar expansion [op] {[.terminal terminal]} := by
  rintro symbols rfl trees derives _
  cases derives with
  | terminal token nothing =>
      cases nothing
      exact reads token rfl

theorem cons {op : Op} (here : Fitting grammar expansion [op] first)
    (later : Fitting grammar expansion ops second) :
    Fitting grammar expansion (op :: ops) (first * second) := by
  intro symbols member trees derives unrolled
  obtain ⟨_, _, before, after, inFirst, inSecond, rfl, derivesFirst, derivesSecond⟩ :=
    derives.of_mem_mul member
  obtain ⟨unrolledFirst, unrolledSecond⟩ := List.forall_mem_append.mp unrolled
  rw [forestPieces_append]
  exact (here _ inFirst _ derivesFirst unrolledFirst).append
    (later _ inSecond _ derivesSecond unrolledSecond)

theorem add (left : Fitting grammar expansion ops first)
    (right : Fitting grammar expansion ops second) :
    Fitting grammar expansion ops (first + second) := by
  intro symbols member
  rcases (Language.mem_add _ _ _).mp member with inFirst | inSecond
  · exact left symbols inFirst
  · exact right symbols inSecond

theorem option (inner : Fitting grammar expansion body inners) :
    Fitting grammar expansion [.option body] (1 + inners) :=
  (one (Grammar.fits_option_nil body)).add (inner.imp fun _ fits => fits.option)

end Fitting

theorem Compiled.fits (invariant : Flattened grammar start [] all expansion)
    (apart : grammar.NamesApart) (few : expansion.flat.nonterminals.length ≤ 90000)
    {ops : List Op} {language : Language Symbol}
    (compiled : expansion.Compiled grammar ops language) :
    Fitting grammar expansion ops language := by
  induction compiled with
  | nil => exact .one Grammar.fits_nil
  | consume terminal _ ih =>
      refine Fitting.cons (Fitting.terminal ?_) ih
      rintro token rfl
      exact Grammar.fits_consume token
  | @subRule id rule number rest tails found numbered _ ih =>
      refine Fitting.cons ?_ ih
      rintro symbols rfl trees derives _
      obtain ⟨children, rfl⟩ := invariant.node_of_derives apart few numbered derives
      rw [forestPieces_singleton, Tree.pieces_node_of_plain children (plain_name apart found)]
      exact Grammar.fits_subRule (apart.find?_name found) _
  | option _ _ ihInner ihTail => exact ihInner.option.cons ihTail
  | choiceNil rest => exact fun _ member => absurd member (Language.notMem_zero _)
  | @choiceCons alternative rest more inners tails others _ _ _ ihInner ihTail ihLater =>
      have chosen : Fitting grammar expansion [.choice (alternative :: more)] inners :=
        ihInner.imp fun _ fits => fits.choice_head
      exact (chosen.cons ihTail).add (ihLater.imp fun _ fits => fits.choice_tail alternative)
  | group name members _ ih =>
      refine Fitting.cons ?_ ih
      intro symbols member
      obtain ⟨terminal, listed, rfl⟩ := List.mem_map.mp member
      refine Fitting.terminal ?_ _ rfl
      rintro token rfl
      exact Grammar.fits_group name listed
  | many numbered bodies inner _ _ ihTail =>
      refine Fitting.cons ?_ ihTail
      rintro symbols rfl trees derives unrolled
      obtain ⟨children, rfl⟩ := invariant.node_of_derives apart few numbered derives
      rw [forestPieces_singleton,
        Tree.pieces_node_of_repetition children (isRepetition_repetitionName _)]
      exact unrolled _ List.mem_cons_self rfl numbered bodies inner

theorem Flattened.unrolled (invariant : Flattened grammar start [] all expansion)
    (apart : grammar.NamesApart) (few : expansion.flat.nonterminals.length ≤ 90000)
    {number : Nat} {production : Production}
    (produces : expansion.flat.HasProduction number production)
    (derives : expansion.flat.Derives production.body trees)
    (inner : ∀ tree ∈ trees, Unrolled grammar expansion tree) :
    Unrolled grammar expansion (.node production.head trees) := by
  intro body rounds repetition other children same numbered bodies compiled
  injection same with head sameChildren
  subst sameChildren
  have listed : production.body ∈ languageOf (expansion.bodiesOf (repetitionName repetition)) := by
    rw [← head]
    exact mem_bodiesOf.mpr produces.1
  rw [bodies] at listed
  rcases (Language.mem_add _ _ _).mp listed with one | round
  · exact Fitting.one (Grammar.fits_many_nil body) _ one _ derives inner
  · obtain ⟨_, _, before, after, inRounds, rfl, rfl, here, later⟩ := derives.of_mem_mul round
    simp only [List.forall_mem_append] at inner
    obtain ⟨children, rfl⟩ := invariant.node_of_derives apart few numbered later
    rw [forestPieces_append, forestPieces_singleton,
      Tree.pieces_node_of_repetition children (isRepetition_repetitionName _)]
    have first := compiled.fits invariant apart few _ inRounds _ here inner.1
    exact first.many (inner.2 _ List.mem_cons_self rfl numbered bodies compiled)

theorem Flattened.shaped (invariant : Flattened grammar start [] all expansion)
    (apart : grammar.NamesApart) (few : expansion.flat.nonterminals.length ≤ 90000)
    (rootIn : root ∈ all) (hereditary : expansion.flat.Hereditary (Leads grammar root expansion))
    (derives : expansion.flat.Derives symbols trees)
    (leads : ∀ symbol ∈ symbols, Leads grammar root expansion symbol) :
    ∀ tree ∈ trees, Unrolled grammar expansion tree ∧ ∀ piece ∈ tree.pieces,
      grammar.Shaped root piece := by
  induction derives with
  | nil => exact fun _ member => absurd member List.not_mem_nil
  | terminal token _ ih =>
      rw [List.forall_mem_cons] at leads ⊢
      refine ⟨⟨nofun, ?_⟩, ih leads.2⟩
      intro piece member
      rw [List.mem_singleton.mp member]
      exact .leaf token
  | @nonterminal number production children rest trees produces inner _ ihInner ihTail =>
      rw [List.forall_mem_cons] at leads ⊢
      have below := ihInner (hereditary _ _ produces leads.1)
      have unrolled := fun tree member => (below tree member).1
      have shaped : ∀ piece ∈ forestPieces children, grammar.Shaped root piece := by
        intro piece member
        obtain ⟨tree, child, inPieces⟩ := mem_forestPieces.mp member
        exact (below tree child).2 piece inPieces
      refine ⟨⟨invariant.unrolled apart few produces inner unrolled, ?_⟩, ihTail leads.2⟩
      cases leads.1 with
      | @rule id rule _ reachable found numbered =>
          obtain ⟨body, defined, compiled, _⟩ :=
            invariant.compiled (invariant.mem_of_refers rootIn reachable) found
          obtain ⟨head, listed⟩ := (invariant.hasProduction_iff apart few numbered).mp produces
          have fits := compiled.fits invariant apart few _ listed _ inner unrolled
          rw [head, Tree.pieces_node_of_plain children (plain_name apart found)]
          intro piece member
          rw [List.mem_singleton.mp member]
          obtain ⟨_, same, recorded⟩ := Grammar.bodyOf?_eq_some_iff.mp defined
          rw [found] at same
          cases same
          exact .node reachable found recorded fits shaped
      | many numbered _ _ _ =>
          obtain ⟨head, _⟩ := (invariant.hasProduction_iff apart few numbered).mp produces
          rw [head, Tree.pieces_node_of_repetition children (isRepetition_repetitionName _)]
          exact shaped

end Expansion

end CanonicalLR
