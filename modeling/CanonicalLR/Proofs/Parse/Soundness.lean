import CanonicalLR.Proofs.Derivation.Rewriting
import CanonicalLR.Proofs.Parse.Steps
import CanonicalLR.Proofs.Table.Built

namespace CanonicalLR

def keptTokens (passage : List (Token × Bool)) : List Token :=
  (passage.filter (·.2)).map (·.1)

theorem keptTokens_append (front back : List (Token × Bool)) :
    keptTokens (front ++ back) = keptTokens front ++ keptTokens back := by
  rw [keptTokens, List.filter_append, List.map_append]
  rfl

namespace Table
open FlatGrammar ItemSystem

/-- The tokens that the next step passes, each with whether it is kept as a leaf. Where there is no
action on a token, it is skipped together with all after it up to one that has an action. -/
def passed (table : Table) (configuration : Configuration) : List (Token × Bool) :=
  match configuration.states, configuration.rest with
  | state :: _, token :: rest =>
      match table.action? state token.kind with
      | none =>
          (token :: rest.takeWhile fun next => (table.action? state next.kind).isNone).map
            fun skipped => (skipped, false)
      | some (.shift _) => [(token, true)]
      | some (.reduce _) | some .accept => []
  | _, _ => []

/-- The tokens that a run which goes on after errors passes. -/
def passage (table : Table) : (steps : Nat) → Configuration → List (Token × Bool)
  | 0, _ => []
  | steps + 1, configuration =>
      match step .recover table configuration with
      | .next configuration' => table.passed configuration ++ passage table steps configuration'
      | .halt _ _ => []

/-- What passing tokens does to the leaves, the tokens left and the errors. -/
structure Passes (before : Configuration) (passage : List (Token × Bool))
    (after : Configuration) : Prop where
  leaves : forestLeaves after.trees.reverse =
    forestLeaves before.trees.reverse ++ keptTokens passage
  rest : passage.map (·.1) ++ after.rest = before.rest
  errors : before.errors.length ≤ after.errors.length
  clean : after.errors.length = before.errors.length → ∀ entry ∈ passage, entry.2 = true

theorem Passes.refl (configuration : Configuration) : Passes configuration [] configuration where
  leaves := (List.append_nil _).symm
  rest := rfl
  errors := le_rfl
  clean := fun _ _ member => absurd member List.not_mem_nil

theorem Passes.trans {first second third : Configuration} {front back : List (Token × Bool)}
    (earlier : Passes first front second) (later : Passes second back third) :
    Passes first (front ++ back) third := by
  have more := earlier.errors
  have further := later.errors
  constructor
  · rw [later.leaves, earlier.leaves, keptTokens_append, List.append_assoc]
  · rw [List.map_append, List.append_assoc, later.rest, earlier.rest]
  · exact more.trans further
  · intro same entry member
    rcases List.mem_append.mp member with inFront | inBack
    · exact earlier.clean (by omega) entry inFront
    · exact later.clean (by omega) entry inBack

section Moves

variable {states after : List Nat} {trees : List Tree} {token : Token} {rest : List Token}
  {errors : List SyntaxError}

theorem passes_skip (skips : Token → Bool) (error : SyntaxError) :
    Passes ⟨states, trees, token :: rest, errors⟩
      ((token :: rest.takeWhile skips).map fun skipped => (skipped, false))
      ⟨states, trees, rest.dropWhile skips, errors ++ [error]⟩ := by
  constructor
  · have nothing : ∀ skipped : List Token,
        keptTokens (skipped.map fun other => (other, false)) = [] := by
      intro skipped
      simp [keptTokens]
    rw [nothing, List.append_nil]
  · rw [List.map_map, Function.comp_def, List.map_id', List.cons_append,
      List.takeWhile_append_dropWhile]
  · rw [List.length_append]
    exact Nat.le_add_right _ _
  · intro same
    simp at same

theorem passes_leaf : Passes ⟨states, trees, token :: rest, errors⟩ [(token, true)]
    ⟨after, .leaf token :: trees, rest, errors⟩ := by
  constructor
  · rw [List.reverse_cons, forestLeaves_append]
    rfl
  · rfl
  · exact le_rfl
  · intro _ entry member
    rw [List.mem_singleton.mp member]

theorem passes_node (name : String) (count : Nat) : Passes ⟨states, trees, rest, errors⟩ []
    ⟨after, .node name (trees.take count).reverse :: trees.drop count, rest, errors⟩ := by
  refine { Passes.refl _ with leaves := ?_ }
  have whole := forestLeaves_append (trees.drop count).reverse (trees.take count).reverse
  rw [← List.reverse_append, List.take_append_drop] at whole
  rw [List.reverse_cons, forestLeaves_append, forestLeaves_singleton, Tree.leaves, whole]
  exact (List.append_nil _).symm

end Moves

/-- The states are a trail, and the trees are derived from its symbols. -/
structure Sound (grammar : FlatGrammar) (path : List Symbol) (configuration : Configuration) :
    Prop where
  trail : grammar.Trail path configuration.states
  derives : grammar.Derives path.reverse configuration.trees.reverse

variable {mode : Mode} {vocabulary : Vocabulary} {grammar : FlatGrammar} {root : Nat}
  {path : List Symbol} {configuration next last : Configuration}

theorem sound_start (tokens : List Token) : Sound grammar [] (.start tokens) :=
  ⟨.start, .nil⟩

theorem Sound.length_eq (sound : Sound grammar path configuration) :
    configuration.trees.length = path.length := by
  have same := sound.derives.length_eq
  rwa [List.length_reverse, List.length_reverse] at same

section Moves

variable {state : Nat} {below : List Nat} {trees : List Tree} {token : Token} {rest : List Token}
  {errors : List SyntaxError}

theorem Sound.shift (sound : Sound grammar path ⟨state :: below, trees, token :: rest, errors⟩)
    {target : Nat}
    (acts : (canonical vocabulary grammar).action? state token.kind = some (.shift target)) :
    Sound grammar (.terminal token.kind :: path)
      ⟨target :: state :: below, .leaf token :: trees, rest, errors⟩ := by
  have claims := claims_of_action? sound.trail acts
  generalize chosen : Action.shift target = action at claims
  cases claims with
  | shift valid remains leads =>
      cases chosen
      refine ⟨sound.trail.move leads, ?_⟩
      rw [List.reverse_cons, List.reverse_cons]
      exact sound.derives.append (.terminal token .nil)
  | completion _ _ _ => exact absurd chosen.symm completion_ne_shift

theorem exists_item_of_reduce (trail : grammar.Trail path (state :: below)) {index : Nat}
    {terminal : Terminal}
    (acts : (canonical vocabulary grammar).action? state terminal = some (.reduce index)) :
    ∃ core production, core.production = index ∧ grammar.productions[index]? = some production ∧
      production.head ≠ Rule.startName ∧ (ofGrammar grammar).remaining core = [] ∧
      grammar.ValidItem path core terminal := by
  have claims := claims_of_action? trail acts
  generalize chosen : Action.reduce index = action at claims
  cases claims with
  | shift _ _ _ => cases chosen
  | completion found complete valid =>
      obtain ⟨other, rfl⟩ := completion_eq_reduce_iff.mp chosen.symm
      exact ⟨_, _, rfl, found, other, complete, valid⟩

theorem Sound.reduce (augmented : grammar.Augmented root)
    (sound : Sound grammar path ⟨state :: below, trees, token :: rest, errors⟩) {index : Nat}
    (acts : (canonical vocabulary grammar).action? state token.kind = some (.reduce index)) :
    ∃ production number target, grammar.productions[index]? = some production ∧
      Reduced grammar production path (state :: below) number target ∧
      Sound grammar (.nonterminal number :: path.drop production.body.length)
        ⟨target :: (state :: below).drop production.body.length,
          .node production.head (trees.take production.body.length).reverse ::
            trees.drop production.body.length, token :: rest, errors⟩ := by
  obtain ⟨core, production, rfl, found, other, complete, valid⟩ :=
    exists_item_of_reduce sound.trail acts
  obtain ⟨number, target, reduced⟩ :=
    exists_reduced augmented sound.trail valid complete found other
  refine ⟨production, number, target, found, reduced, reduced.trail, ?_⟩
  have derives := sound.derives
  rw [reduced.split, List.reverse_append, List.reverse_reverse] at derives
  obtain ⟨inner, outer⟩ := derives.pop
  rw [List.reverse_cons, List.reverse_cons]
  exact outer.append (.nonterminal reduced.produces inner .nil)

end Moves

theorem Sound.step (augmented : grammar.Augmented root) (sound : Sound grammar path configuration)
    (stepped : step mode (canonical vocabulary grammar) configuration = .next next) :
    Passes configuration ((canonical vocabulary grammar).passed configuration) next ∧
      ∃ path, Sound grammar path next := by
  obtain ⟨states, trees, tokens, errors⟩ := configuration
  obtain ⟨state, below, rfl⟩ := nonempty_of_trail sound.trail
  cases tokens with
  | nil => cases stepped
  | cons token rest =>
      cases acts : (canonical vocabulary grammar).action? state token.kind with
      | none =>
          cases mode with
          | probe =>
              simp only [Table.step, acts] at stepped
              cases stepped
          | recover =>
              obtain rfl := step_recover acts stepped
              simp only [passed, acts]
              exact ⟨passes_skip _ _, path, sound.trail, sound.derives⟩
      | some action =>
          cases action with
          | shift target =>
              rw [step_shift mode below trees rest errors acts] at stepped
              cases stepped
              simp only [passed, acts]
              exact ⟨passes_leaf, _, sound.shift acts⟩
          | reduce index =>
              -- Whichever claim a conflict has left in the cell, an item of the state made it.
              obtain ⟨production, number, target, found, reduced, after⟩ :=
                sound.reduce augmented acts
              rw [step_reduce augmented found sound.length_eq reduced acts] at stepped
              cases stepped
              simp only [passed, acts]
              exact ⟨passes_node _ _, _, after⟩
          | accept =>
              rw [step_accept acts] at stepped
              cases stepped

theorem halt_accepted {table : Table}
    (halts : Table.step mode table configuration = .halt last .accepted) :
    last = configuration ∧ ∃ state below token rest, configuration.states = state :: below ∧
      configuration.rest = token :: rest ∧ table.action? state token.kind = some .accept := by
  obtain ⟨states, trees, tokens, errors⟩ := configuration
  match states, tokens with
  | [], _ => cases halts
  | _ :: _, [] => cases halts
  | state :: below, token :: rest =>
      simp only [Table.step] at halts
      split at halts
      · cases mode with
        | probe => cases halts
        | recover =>
            simp only [recover] at halts
            split at halts
            · cases halts
            · split at halts <;> cases halts
      · cases halts
      · split at halts <;> cases halts
      · rename_i acts
        cases halts
        exact ⟨rfl, state, below, token, rest, rfl, rfl, acts⟩

theorem Sound.run (augmented : grammar.Augmented root) {steps : Nat}
    (sound : Sound grammar path configuration)
    (accepted : run .recover (canonical vocabulary grammar) steps configuration =
      some (last, .accepted)) :
    Passes configuration ((canonical vocabulary grammar).passage steps configuration) last ∧
      (∃ path, Sound grammar path last) ∧
      Table.step .recover (canonical vocabulary grammar) last = .halt last .accepted := by
  induction steps generalizing configuration path with
  | zero => cases accepted
  | succ steps ih =>
      cases stepped : Table.step .recover (canonical vocabulary grammar) configuration with
      | next later =>
          simp only [Table.run, stepped] at accepted
          obtain ⟨passes, path', sound'⟩ := sound.step augmented stepped
          obtain ⟨further, sounds, halts⟩ := ih sound' accepted
          simp only [passage, stepped]
          exact ⟨passes.trans further, sounds, halts⟩
      | halt halted reason =>
          simp only [Table.run, stepped] at accepted
          cases accepted
          obtain ⟨rfl, _⟩ := halt_accepted stepped
          simp only [passage, stepped]
          exact ⟨.refl _, ⟨path, sound⟩, trivial⟩

theorem Sound.accepted (augmented : grammar.Augmented root) (unused : grammar.StartUnused)
    (sound : Sound grammar path configuration)
    (halts : Table.step mode (canonical vocabulary grammar) configuration =
      .halt last .accepted) :
    ∃ target tree token rest, (canonical vocabulary grammar).goto? 0 root = some target ∧
      configuration.states = [target, 0] ∧ configuration.trees = [tree] ∧
      grammar.Derives [.nonterminal root] [tree] ∧ configuration.rest = token :: rest ∧
      token.isEof = true := by
  obtain ⟨_, state, below, token, rest, split, tokens, acts⟩ := halt_accepted halts
  obtain ⟨states, trees, _, errors⟩ := configuration
  cases split
  cases tokens
  have claims := claims_of_action? sound.trail acts
  generalize chosen : Action.accept = action at claims
  cases claims with
  | shift _ _ _ => cases chosen
  | completion found complete valid =>
      have zero := augmented.single found (completion_eq_accept_iff.mp chosen.symm)
      obtain ⟨rfl, atEnd⟩ := augmented.complete_start unused zero valid complete
      have single : ∃ tree, trees = [tree] := List.length_eq_one_iff.mp sound.length_eq
      obtain ⟨tree, rfl⟩ := single
      have derives := sound.derives
      cases sound.trail with
      | move earlier leads =>
          cases earlier
          refine ⟨_, tree, token, rest, ?_, rfl, rfl, derives, rfl, ?_⟩
          · rw [goto?_canonical, leads]
          · rw [Token.isEof, atEnd]
            rfl

/-! ### Accepted tokens -/

theorem passed_of_isEof {tokens front rest : List Token} {eof token : Token}
    (inner : ∀ token ∈ tokens, token.isEof = false) (atEnd : token.isEof = true)
    (split : front ++ token :: rest = tokens ++ [eof]) : front = tokens := by
  rcases List.append_eq_append_iff.mp split with ⟨more, same, last⟩ | ⟨more, same, last⟩
  · cases more with
    | nil => rw [same, List.append_nil]
    | cons head more =>
        rw [List.cons_append, List.cons.injEq] at last
        have member : token ∈ tokens := by
          rw [same, last.1]
          exact List.mem_append_right _ List.mem_cons_self
        rw [inner token member] at atEnd
        cases atEnd
  · cases more with
    | nil => rw [same, List.append_nil]
    | cons head more => simp at last

theorem keptTokens_of_clean {passage : List (Token × Bool)}
    (clean : ∀ entry ∈ passage, entry.2 = true) : keptTokens passage = passage.map (·.1) := by
  rw [keptTokens, List.filter_eq_self.mpr clean]

variable {source : Grammar} {id : RuleId} {table : Table} {rule : Rule} {tokens : List Token}
  {eof : Token}

/-- What a run that accepts gives back is a tree of the root, whose leaves are the tokens that the
run has not skipped. Without errors these are all tokens. -/
theorem accepted_sound (constructed : source.Constructed)
    (ok : (build vocabulary source id).1 = .ok table) (few : table.nonterminals.length ≤ 90000)
    (found : source.get? id = some rule) (inner : ∀ token ∈ tokens, token.isEof = false)
    {steps : Nat}
    (accepted : Table.run .recover table steps (.start (tokens ++ [eof])) =
      some (last, .accepted)) :
    ∃ number target tree, table.nonterminalIndex? rule.name = some number ∧
      table.goto? 0 number = some target ∧ last.states = [target, 0] ∧ last.trees = [tree] ∧
      table.grammar.IsTreeOf rule.name tree ∧
      table.parse steps (tokens ++ [eof]) = some (.ok ⟨some tree.spliced, last.errors, last.states⟩) ∧
      (table.passage steps (.start (tokens ++ [eof]))).map (·.1) = tokens ∧
      tree.spliced.leaves = keptTokens (table.passage steps (.start (tokens ++ [eof]))) ∧
      (last.errors = [] → tree.leaves = tokens) := by
  obtain ⟨other, start, foundOther, built⟩ := built_of_build constructed ok
  rw [found] at foundOther
  cases foundOther
  have canonical := built.canonical
  have ran := accepted
  rw [canonical] at ran
  obtain ⟨passes, ⟨path, sound⟩, halts⟩ := (sound_start (tokens ++ [eof])).run built.augmented ran
  obtain ⟨target, tree, token, rest, moves, states, trees, derives, left, atEnd⟩ :=
    sound.accepted built.augmented (built.unused few) halts
  rw [← canonical] at passes moves
  have leaves : tree.leaves = keptTokens (table.passage steps (.start (tokens ++ [eof]))) := by
    have collected := passes.leaves
    rw [trees, List.reverse_singleton, forestLeaves_singleton] at collected
    exact collected
  have whole : (table.passage steps (.start (tokens ++ [eof]))).map (·.1) = tokens := by
    have split := passes.rest
    rw [left] at split
    exact passed_of_isEof inner atEnd split
  refine ⟨start, target, tree, built.numbered, moves, states, trees,
    ⟨start, built.numbered, derives⟩, ?_, whole, ?_, ?_⟩
  · rw [parse, accepted]
    simp only [Option.map_some, parseAnswer, Configuration.result, trees, List.reverse_singleton,
      built.splice_tree few derives, List.head?_cons]
  · rw [Tree.leaves_spliced, leaves]
  · intro none
    rw [leaves, keptTokens_of_clean (passes.clean (by rw [none]; rfl)), whole]

theorem accepted_sound_itemList :
    ∃ last tree, Table.run .recover itemListTable 20
        (.start ([0, 0, 1, 0].map tokenOfKind ++ [tokenOfKind Terminal.eof])) =
          some (last, .accepted) ∧
      last.errors.length = 1 ∧ itemListTable.grammar.IsTreeOf "list" tree ∧
      tree.spliced.leaves = [0, 1, 0].map tokenOfKind := by
  have ends : (Table.run .recover itemListTable 20
      (.start ([0, 0, 1, 0].map tokenOfKind ++ [tokenOfKind Terminal.eof]))).map
        (fun outcome => (outcome.1.errors.length, outcome.2)) = some (1, .accepted) := by
    decide +kernel
  obtain ⟨⟨last, reason⟩, ran, same⟩ := Option.map_eq_some_iff.mp ends
  obtain ⟨errors, rfl⟩ := Prod.ext_iff.mp same
  obtain ⟨_, _, tree, _, _, _, _, derived, _, _, leaves, _⟩ :=
    accepted_sound Grammar.constructed_itemList build_itemList (by decide) rfl
      (by decide +kernel) ran
  have kept : keptTokens (itemListTable.passage 20
      (.start ([0, 0, 1, 0].map tokenOfKind ++ [tokenOfKind Terminal.eof]))) =
        [0, 1, 0].map tokenOfKind := by
    decide +kernel
  exact ⟨last, tree, ran, errors, derived, leaves.trans kept⟩

end Table

end CanonicalLR
