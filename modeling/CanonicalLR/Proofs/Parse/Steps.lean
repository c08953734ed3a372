import CanonicalLR.Parse.Parser
import CanonicalLR.Proofs.Derivation.Basic
import CanonicalLR.Proofs.Flat.Augmented
import CanonicalLR.Proofs.Table.Claims

namespace CanonicalLR

namespace Table
open FlatGrammar ItemSystem

variable {mode : Mode} {table : Table} {first second third : Configuration}

/-! ### Runs -/

/-- Whether steps lead from one configuration to another. -/
def Reaches (mode : Mode) (table : Table) : Configuration → Configuration → Prop :=
  Relation.ReflTransGen fun before after => step mode table before = .next after

def Ends (mode : Mode) (table : Table) (configuration : Configuration) : Prop :=
  ∃ steps outcome, run mode table steps configuration = some outcome

theorem run_of_halt {last : Configuration} {reason : Halt}
    (halts : step mode table first = .halt last reason) :
    run mode table 1 first = some (last, reason) := by
  rw [run, halts]

theorem run_of_reaches (reaches : Reaches mode table first second) {steps : Nat}
    {outcome : Configuration × Halt} (ends : run mode table steps second = some outcome) :
    ∃ more, run mode table more first = some outcome := by
  induction reaches using Relation.ReflTransGen.head_induction_on with
  | refl => exact ⟨steps, ends⟩
  | head stepped _ ih =>
      obtain ⟨more, ends⟩ := ih
      refine ⟨more + 1, ?_⟩
      rw [run, stepped]
      exact ends

theorem exists_halt_of_run {steps : Nat} {last : Configuration} {reason : Halt}
    (ends : run mode table steps first = some (last, reason)) :
    ∃ before, Reaches mode table first before ∧ step mode table before = .halt last reason := by
  induction steps generalizing first with
  | zero => cases ends
  | succ steps ih =>
      rw [run] at ends
      split at ends
      · rename_i next stepped
        obtain ⟨before, reaches, halts⟩ := ih ends
        exact ⟨before, .head stepped reaches, halts⟩
      · rename_i halted why stepped
        cases ends
        exact ⟨first, .refl, stepped⟩

theorem run_later (reaches : Reaches mode table first second) {steps : Nat}
    {outcome : Configuration × Halt} (ends : run mode table steps first = some outcome) :
    ∃ fewer, run mode table fewer second = some outcome := by
  induction reaches using Relation.ReflTransGen.head_induction_on generalizing steps with
  | refl => exact ⟨steps, ends⟩
  | head stepped _ ih =>
      cases steps with
      | zero => cases ends
      | succ steps =>
          rw [run, stepped] at ends
          exact ih ends

theorem run_of_parse {steps : Nat} {tokens : List Token} {result : ParseResult}
    (answers : table.parse steps tokens = some (.ok result)) :
    ∃ last reason, run .recover table steps (.start tokens) = some (last, reason) ∧
      result = last.result := by
  obtain ⟨⟨last, reason⟩, ran, answer⟩ := Option.map_eq_some_iff.mp answers
  refine ⟨last, reason, ran, ?_⟩
  cases reason with
  | accepted => exact (Except.ok.inj answer).symm
  | stuck => exact (Except.ok.inj answer).symm
  | exhausted => cases answer
  | failed error => cases answer

theorem Ends.of_reaches (reaches : Reaches mode table first second)
    (ends : Ends mode table second) : Ends mode table first := by
  obtain ⟨steps, outcome, ends⟩ := ends
  obtain ⟨more, ends⟩ := run_of_reaches reaches ends
  exact ⟨more, outcome, ends⟩

theorem Ends.of_halt {last : Configuration} {reason : Halt}
    (halts : step mode table first = .halt last reason) : Ends mode table first :=
  ⟨1, _, run_of_halt halts⟩

def Accepts (mode : Mode) (table : Table) (configuration : Configuration) : Prop :=
  ∃ last, Reaches mode table configuration last ∧ step mode table last = .halt last .accepted

theorem Accepts.of_reaches (reaches : Reaches mode table first second)
    (accepts : Accepts mode table second) : Accepts mode table first := by
  obtain ⟨last, further, halts⟩ := accepts
  exact ⟨last, reaches.trans further, halts⟩

theorem Accepts.ends (accepts : Accepts mode table first) : Ends mode table first := by
  obtain ⟨last, reaches, halts⟩ := accepts
  exact Ends.of_reaches reaches (Ends.of_halt halts)

/-! ### Single steps -/

variable {vocabulary : Vocabulary} {grammar : FlatGrammar} {path : List Symbol} {root : Nat}
  {states : List Nat} {trees : List Tree} {token : Token} {rest : List Token}
  {errors : List SyntaxError}

theorem step_shift (mode : Mode) {state target : Nat} (below : List Nat) (trees : List Tree)
    (rest : List Token) (errors : List SyntaxError)
    (acts : table.action? state token.kind = some (.shift target)) :
    step mode table ⟨state :: below, trees, token :: rest, errors⟩ =
      .next ⟨target :: state :: below, .leaf token :: trees, rest, errors⟩ := by
  simp only [step, acts, shift]

theorem step_accept {state : Nat} {below : List Nat}
    (acts : table.action? state token.kind = some .accept) :
    step mode table ⟨state :: below, trees, token :: rest, errors⟩ =
      .halt ⟨state :: below, trees, token :: rest, errors⟩ .accepted := by
  simp only [step, acts]

theorem step_recover {state : Nat} {below : List Nat} {next : Configuration}
    (acts : table.action? state token.kind = none)
    (stepped : step .recover table ⟨state :: below, trees, token :: rest, errors⟩ = .next next) :
    next = ⟨state :: below, trees,
      rest.dropWhile fun other => (table.action? state other.kind).isNone,
      errors ++ [.ofToken token (table.expected state)]⟩ := by
  simp only [step, acts, recover] at stepped
  split at stepped
  · cases stepped
  · split at stepped
    · cases stepped
    · cases stepped
      rfl

theorem nonempty_of_trail (trail : grammar.Trail path states) :
    ∃ state below, states = state :: below := by
  cases trail with
  | start => exact ⟨0, [], rfl⟩
  | move _ _ => exact ⟨_, _, rfl⟩

/-- The states and trees after a reduction. -/
structure Reduced (grammar : FlatGrammar) (production : Production) (path : List Symbol)
    (states : List Nat) (number target : Nat) : Prop where
  produces : grammar.HasProduction number production
  split : path = production.body.reverse ++ path.drop production.body.length
  trail : grammar.Trail (.nonterminal number :: path.drop production.body.length)
    (target :: states.drop production.body.length)

theorem predicted_of_complete (augmented : grammar.Augmented root) {core : Core}
    {terminal : Terminal} {production : Production} (valid : grammar.ValidItem path core terminal)
    (complete : (ofGrammar grammar).remaining core = [])
    (found : grammar.productions[core.production]? = some production)
    (other : production.head ≠ Rule.startName) :
    path = production.body.reverse ++ path.drop production.body.length ∧
      ∃ number before rest, grammar.HasProduction number production ∧
        grammar.ValidCore (path.drop production.body.length) before ∧
        (ofGrammar grammar).remaining before = .nonterminal number :: rest ∧
        (grammar.Begins rest terminal ∨ grammar.Vanishes rest ∧
          grammar.ValidItem (path.drop production.body.length) before terminal) := by
  obtain ⟨split, begun⟩ := valid.origin.of_complete complete found
  refine ⟨split, ?_⟩
  rcases begun.beginning rfl with ⟨_, same, _⟩ | ⟨before, rest, validBefore, predicts, follows⟩
  · have zero : core.production = 0 := congrArg Core.production same
    rw [zero, augmented.start] at found
    cases found
    exact absurd rfl other
  · obtain ⟨number, owned, remains, foundOwned, produces⟩ := predicts.exists_production
    obtain rfl : production = owned := Option.some.inj (found.symm.trans foundOwned)
    exact ⟨number, before, rest, produces, validBefore, remains, follows⟩

theorem exists_reduced (augmented : grammar.Augmented root) (trail : grammar.Trail path states)
    {core : Core} {terminal : Terminal} (valid : grammar.ValidItem path core terminal)
    (complete : (ofGrammar grammar).remaining core = []) {production : Production}
    (found : grammar.productions[core.production]? = some production)
    (other : production.head ≠ Rule.startName) :
    ∃ number target, Reduced grammar production path states number target := by
  obtain ⟨split, number, before, rest, produces, validBefore, remains, _⟩ :=
    predicted_of_complete augmented valid complete found other
  have trailBelow : grammar.Trail (path.drop production.body.length)
      (states.drop production.body.length) := by
    apply trail.drop
    rw [split, List.length_append, List.length_reverse]
    omega
  obtain ⟨state, lowest, uncovered⟩ := nonempty_of_trail trailBelow
  rw [uncovered] at trailBelow
  obtain ⟨target, _, trailTarget⟩ := trailBelow.exists_move validBefore remains
  refine ⟨number, target, produces, split, ?_⟩
  rw [uncovered]
  exact trailTarget

theorem reduce_eq_of_reduced (augmented : grammar.Augmented root) {index number target : Nat}
    {production : Production} (found : grammar.productions[index]? = some production)
    (length : trees.length = path.length)
    (reduced : Reduced grammar production path states number target) :
    (canonical vocabulary grammar).reduce index ⟨states, trees, rest, errors⟩ =
      .ok ⟨target :: states.drop production.body.length,
        .node production.head (trees.take production.body.length).reverse ::
          trees.drop production.body.length, rest, errors⟩ := by
  have number? :
      (canonical vocabulary grammar).nonterminalIndex? production.head = some number := by
    rw [← reduced.produces.2, augmented.head]
    rfl
  have enough : ¬ (trees.take production.body.length).length < production.body.length := by
    have total := congrArg List.length reduced.split
    rw [List.length_append, List.length_reverse] at total
    rw [List.length_take]
    omega
  have trail := reduced.trail
  cases uncovered : states.drop production.body.length with
  | nil =>
      rw [uncovered] at trail
      cases trail
  | cons state below =>
      rw [uncovered] at trail
      have moves : (canonical vocabulary grammar).goto? state number = some target := by
        cases trail with
        | move _ leads => rw [goto?_canonical, leads]
      simp only [reduce, productions_canonical, found, number?, uncovered, moves, if_neg enough]

theorem step_reduce (augmented : grammar.Augmented root) {index number state target : Nat}
    {below : List Nat} {production : Production}
    (found : grammar.productions[index]? = some production)
    (length : trees.length = path.length)
    (reduced : Reduced grammar production path (state :: below) number target)
    (acts : (canonical vocabulary grammar).action? state token.kind = some (.reduce index)) :
    step mode (canonical vocabulary grammar) ⟨state :: below, trees, token :: rest, errors⟩ =
      .next ⟨target :: (state :: below).drop production.body.length,
        .node production.head (trees.take production.body.length).reverse ::
          trees.drop production.body.length, token :: rest, errors⟩ := by
  simp only [step, acts, reduce_eq_of_reduced augmented found length reduced]

end Table

end CanonicalLR
