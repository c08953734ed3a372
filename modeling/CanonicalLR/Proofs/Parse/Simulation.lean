import CanonicalLR.Proofs.Derivation.Beginnings
import CanonicalLR.Proofs.Parse.Steps

/-!
Derivations drive the engine. Without conflicts, the engine builds every forest that is derived from
what an item still expects, if the token after it may follow (`simulate`). The one other thing it can
do is to accept on the way, and that only if some body holds the start symbol.
-/

namespace CanonicalLR

namespace FlatGrammar
open ItemSystem

variable {grammar : FlatGrammar} {path front rest after : List Symbol} {core : Core}
  {terminal : Terminal}

def MayFollow (grammar : FlatGrammar) (path : List Symbol) (core : Core) (after : List Symbol)
    (terminal : Terminal) : Prop :=
  grammar.Begins after terminal ∨ grammar.Vanishes after ∧ grammar.ValidItem path core terminal

theorem MayFollow.before {trees : List Tree} {next first : Token} {others remainder : List Token}
    (derives : grammar.Derives front trees) (follows : grammar.MayFollow path core after next.kind)
    (split : forestLeaves trees ++ next :: others = first :: remainder) :
    grammar.MayFollow path core (front ++ after) first.kind := by
  cases leaves : forestLeaves trees with
  | nil =>
      rw [leaves, List.nil_append, List.cons.injEq] at split
      rw [← split.1]
      rcases follows with begins | ⟨vanishes, valid⟩
      · exact .inl (.behind derives leaves begins)
      · exact .inr ⟨.append ⟨trees, derives, leaves⟩ vanishes, valid⟩
  | cons leaf more =>
      rw [leaves, List.cons_append, List.cons.injEq] at split
      rw [split.1] at leaves
      exact .inl (.append (derives.begins leaves) after)

theorem MayFollow.moved {symbol : Symbol} (follows : grammar.MayFollow path core after terminal)
    (remains : (ofGrammar grammar).remaining core = symbol :: rest) :
    grammar.MayFollow (symbol :: path) core.next after terminal := by
  rcases follows with begins | ⟨vanishes, valid⟩
  · exact .inl begins
  · exact .inr ⟨vanishes, valid.moved remains⟩

theorem MayFollow.begun {begun : Core} (follows : grammar.MayFollow path core after terminal)
    (valid : grammar.ValidCore path core)
    (predicts : (ofGrammar grammar).Predicts core begun after) :
    grammar.ValidItem path begun terminal := by
  rcases follows with begins | ⟨vanishes, item⟩
  · exact .first valid predicts begins
  · exact .inherited item predicts vanishes

theorem ValidItem.advance (valid : grammar.ValidItem path core terminal)
    (remains : (ofGrammar grammar).remaining core = front ++ rest) :
    ∃ moved : Core, moved.production = core.production ∧
      (ofGrammar grammar).remaining moved = rest ∧
      grammar.ValidItem (front.reverse ++ path) moved terminal := by
  induction front generalizing path core with
  | nil => exact ⟨core, rfl, remains, valid⟩
  | cons symbol front ih =>
      obtain ⟨moved, same, left, further⟩ := ih (valid.moved remains) (remaining_next remains)
      refine ⟨moved, same, left, ?_⟩
      rw [List.reverse_cons, List.append_assoc]
      exact further

theorem HasProduction.predicts {number : Nat} {production : Production}
    (produces : grammar.HasProduction number production)
    (remains : (ofGrammar grammar).remaining core = .nonterminal number :: rest) :
    ∃ index, grammar.productions[index]? = some production ∧
      (ofGrammar grammar).Predicts core ⟨index, 0⟩ rest := by
  obtain ⟨member, owner⟩ := produces
  obtain ⟨index, found⟩ := Array.mem_iff_getElem?.mp member
  exact ⟨index, found, number, remains, mem_productionsOf.mpr ⟨production, found, owner⟩, rfl⟩

end FlatGrammar

namespace Table
open FlatGrammar ItemSystem

variable {vocabulary : Vocabulary} {grammar : FlatGrammar} {root : Nat} {path : List Symbol}
  {states : List Nat} {trees : List Tree}

theorem step_completion (mode : Mode) (rest : List Token) (errors : List SyntaxError)
    (augmented : grammar.Augmented root)
    (free : (canonical vocabulary grammar).conflicts = []) {core : Core} {token : Token}
    {production : Production} (trail : grammar.Trail path states)
    (length : trees.length = path.length)
    (found : grammar.productions[core.production]? = some production)
    (complete : (ofGrammar grammar).remaining core = [])
    (valid : grammar.ValidItem path core token.kind) :
    (production.head ≠ Rule.startName ∧ ∃ number target,
      Reduced grammar production path states number target ∧
      step mode (canonical vocabulary grammar) ⟨states, trees, token :: rest, errors⟩ =
        .next ⟨target :: states.drop production.body.length,
          .node production.head (trees.take production.body.length).reverse ::
            trees.drop production.body.length, token :: rest, errors⟩) ∨
    production.head = Rule.startName ∧
      step mode (canonical vocabulary grammar) ⟨states, trees, token :: rest, errors⟩ =
        .halt ⟨states, trees, token :: rest, errors⟩ .accepted := by
  obtain ⟨state, below, rfl⟩ := nonempty_of_trail trail
  have acts := action?_of_claims free trail (.completion found complete valid)
  by_cases same : production.head = Rule.startName
  · rw [completion_eq_accept_iff.mpr same] at acts
    exact .inr ⟨same, step_accept acts⟩
  · rw [completion_eq_reduce_iff.mpr ⟨same, rfl⟩] at acts
    obtain ⟨number, target, reduced⟩ :=
      exists_reduced augmented trail valid complete found same
    exact .inl ⟨same, number, target, reduced, step_reduce augmented found length reduced acts⟩

theorem Reduced.trail_below {production : Production} {number target : Nat}
    (reduced : Reduced grammar production (production.body.reverse ++ path) states number target) :
    grammar.Trail (.nonterminal number :: path)
      (target :: states.drop production.body.length) := by
  have trail := reduced.trail
  rwa [← List.length_reverse, List.drop_left, List.length_reverse] at trail

theorem HasProduction.unique {production : Production} {number other : Nat}
    (produces : grammar.HasProduction number production)
    (also : grammar.HasProduction other production) : number = other := by
  have owner := also.2
  rw [produces.2] at owner
  exact Option.some.inj owner

theorem simulate_shift (mode : Mode) (trees : List Tree) (others : List Token)
    (errors : List SyntaxError) (free : (canonical vocabulary grammar).conflicts = [])
    {rest : List Symbol} {core : Core} {token : Token} (trail : grammar.Trail path states)
    (valid : grammar.ValidCore path core)
    (remains : (ofGrammar grammar).remaining core = .terminal token.kind :: rest) :
    ∃ target, grammar.Trail (.terminal token.kind :: path) (target :: states) ∧
      step mode (canonical vocabulary grammar) ⟨states, trees, token :: others, errors⟩ =
        .next ⟨target :: states, .leaf token :: trees, others, errors⟩ := by
  obtain ⟨state, below, rfl⟩ := nonempty_of_trail trail
  obtain ⟨target, leads, further⟩ := trail.exists_move valid remains
  have acts := action?_of_claims free trail (.shift valid remains leads)
  exact ⟨target, further, step_shift mode below trees others errors acts⟩

theorem simulate_completion (mode : Mode) (rest : List Token) (errors : List SyntaxError)
    (augmented : grammar.Augmented root)
    (free : (canonical vocabulary grammar).conflicts = []) {core : Core} {token : Token}
    {production : Production} {number : Nat} {children : List Tree}
    (found : grammar.productions[core.production]? = some production)
    (produces : grammar.HasProduction number production)
    (derives : grammar.Derives production.body children)
    (trail : grammar.Trail (production.body.reverse ++ path) states)
    (length : trees.length = path.length)
    (complete : (ofGrammar grammar).remaining core = [])
    (valid : grammar.ValidItem (production.body.reverse ++ path) core token.kind) :
    (∃ target, grammar.Trail (.nonterminal number :: path)
        (target :: states.drop production.body.length) ∧
      step mode (canonical vocabulary grammar)
          ⟨states, children.reverse ++ trees, token :: rest, errors⟩ =
        .next ⟨target :: states.drop production.body.length,
          .node production.head children :: trees, token :: rest, errors⟩) ∨
    production.head = Rule.startName ∧
      step mode (canonical vocabulary grammar)
          ⟨states, children.reverse ++ trees, token :: rest, errors⟩ =
        .halt ⟨states, children.reverse ++ trees, token :: rest, errors⟩ .accepted := by
  have total : (children.reverse ++ trees).length = (production.body.reverse ++ path).length := by
    rw [List.length_append, List.length_append, List.length_reverse, List.length_reverse,
      derives.length_eq, length]
  rcases step_completion mode rest errors augmented free trail
    total found complete valid with ⟨_, other, target, reduced, stepped⟩ | accepted
  · obtain rfl := HasProduction.unique produces reduced.produces
    have count : production.body.length = children.reverse.length := by
      rw [List.length_reverse, derives.length_eq]
    rw [count, List.take_left, List.drop_left, List.reverse_reverse, ← count] at stepped
    exact .inl ⟨target, reduced.trail_below, stepped⟩
  · exact .inr accepted

def Builds (mode : Mode) (table : Table) (grammar : FlatGrammar) (path symbols : List Symbol)
    (below : List Nat) (before : Configuration) (trees : List Tree) (rest : List Token)
    (errors : List SyntaxError) : Prop :=
  (∃ above, grammar.Trail (symbols.reverse ++ path) above ∧ above.drop symbols.length = below ∧
    Reaches mode table before ⟨above, trees, rest, errors⟩) ∨
  ¬ grammar.StartUnused ∧ Accepts mode table before

theorem Builds.cons {mode : Mode} {table : Table} {symbol : Symbol} {symbols : List Symbol}
    {target : Nat} {before middle : Configuration} {rest : List Token} {errors : List SyntaxError}
    (later : Builds mode table grammar (symbol :: path) symbols (target :: states) middle trees rest
      errors)
    (reaches : Reaches mode table before middle) :
    Builds mode table grammar path (symbol :: symbols) states before trees rest errors := by
  rcases later with ⟨above, trail, uncovers, further⟩ | ⟨used, accepts⟩
  · refine .inl ⟨above, ?_, ?_, reaches.trans further⟩
    · rw [List.reverse_cons, List.append_assoc]
      exact trail
    · rw [List.length_cons, ← List.drop_drop, uncovers]
      rfl
  · exact .inr ⟨used, accepts.of_reaches reaches⟩

theorem simulate (mode : Mode) (others : List Token) (errors : List SyntaxError)
    (augmented : grammar.Augmented root)
    (free : (canonical vocabulary grammar).conflicts = []) {symbols after : List Symbol}
    {forest : List Tree} {core : Core} {next : Token}
    (derives : grammar.Derives symbols forest) (trail : grammar.Trail path states)
    (length : trees.length = path.length) (valid : grammar.ValidCore path core)
    (remains : (ofGrammar grammar).remaining core = symbols ++ after)
    (follows : grammar.MayFollow path core after next.kind) :
    Builds mode (canonical vocabulary grammar) grammar path symbols states
      ⟨states, trees, forestLeaves forest ++ next :: others, errors⟩ (forest.reverse ++ trees)
      (next :: others) errors := by
  induction derives generalizing path states trees core after next others with
  | nil => exact .inl ⟨states, trail, rfl, .refl⟩
  | @terminal rest more token _ ih =>
      obtain ⟨target, further, stepped⟩ := simulate_shift mode trees
        (forestLeaves more ++ next :: others) errors free trail valid remains
      have longer : (Tree.leaf token :: trees).length =
          (Symbol.terminal token.kind :: path).length := congrArg Nat.succ length
      have later := ih others further longer (valid.moved remains) (remaining_next remains)
        (follows.moved remains)
      rw [List.reverse_cons, List.append_assoc]
      exact later.cons (.single stepped)
  | @nonterminal number production children rest more produces inner tail ihInner ihTail =>
      obtain ⟨index, found, predicts⟩ := produces.predicts remains
      obtain ⟨first, remainder, split⟩ :
          ∃ first remainder, forestLeaves more ++ next :: others = first :: remainder := by
        cases forestLeaves more <;> exact ⟨_, _, rfl⟩
      have tokens : forestLeaves (.node production.head children :: more) ++ next :: others =
          forestLeaves children ++ first :: remainder := by
        rw [forestLeaves, Tree.leaves, List.append_assoc, split]
      rw [tokens]
      -- The token after the children is a lookahead of the item that begins with them.
      have item := (follows.before tail split).begun valid predicts
      have body : (ofGrammar grammar).remaining ⟨index, 0⟩ = production.body ++ [] := by
        rw [List.append_nil]
        exact remaining_of_production ⟨index, 0⟩ found
      rcases ihInner remainder trail length item.validCore body (.inr ⟨vanishes_nil, item⟩) with
        ⟨above, trailAbove, uncovers, reaches⟩ | early
      · obtain ⟨moved, same, complete, further⟩ := item.advance body
        have foundMoved : grammar.productions[moved.production]? = some production := by
          rw [same]
          exact found
        rcases simulate_completion mode remainder errors augmented
          free foundMoved produces inner trailAbove length complete further with
          ⟨target, trailTarget, stepped⟩ | ⟨start, accepted⟩
        · rw [uncovers] at trailTarget stepped
          have longer : (Tree.node production.head children :: trees).length =
              (Symbol.nonterminal number :: path).length := congrArg Nat.succ length
          have later := ihTail others trailTarget longer (valid.moved remains)
            (remaining_next remains) (follows.moved remains)
          rw [split] at later
          rw [List.reverse_cons, List.append_assoc]
          exact later.cons (reaches.tail stepped)
        · refine .inr ⟨fun unused => unused.head_ne remains produces start, ?_⟩
          exact Accepts.of_reaches reaches ⟨_, .refl, accepted⟩
      · exact .inr early

end Table

end CanonicalLR
