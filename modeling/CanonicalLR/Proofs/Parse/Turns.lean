import CanonicalLR.Proofs.Parse.Lookahead
import CanonicalLR.Proofs.Parse.Soundness

/-!
Turns: all that a step of a sound configuration can do. A reduction on a token leads to a state that
again has an action on the token, because the lookahead that called for it came from what may follow
below. What runs do is told from here on by the cases of `Turn`.
-/

namespace CanonicalLR

/-- What a step leaves, whether or not the run goes on from there. -/
def Step.configuration : Step → Configuration
  | .next configuration => configuration
  | .halt configuration _ => configuration

namespace Table
open FlatGrammar ItemSystem

/-- The action on the token that comes next. -/
def nextAction? (table : Table) (configuration : Configuration) : Option Action :=
  match configuration.states, configuration.rest with
  | state :: _, token :: _ => table.action? state token.kind
  | _, _ => none

theorem nextAction?_cons (table : Table) (state : Nat) (below : List Nat) (trees : List Tree)
    (token : Token) (rest : List Token) (errors : List SyntaxError) :
    table.nextAction? ⟨state :: below, trees, token :: rest, errors⟩ =
      table.action? state token.kind := rfl

theorem exists_of_nextAction? {table : Table} {configuration : Configuration} {action : Action}
    (acts : table.nextAction? configuration = some action) :
    ∃ state below token rest, configuration.states = state :: below ∧
      configuration.rest = token :: rest ∧ table.action? state token.kind = some action := by
  obtain ⟨states, trees, rest, errors⟩ := configuration
  match states, rest with
  | [], _ => cases acts
  | _ :: _, [] => cases acts
  | state :: below, token :: rest => exact ⟨state, below, token, rest, rfl, rfl, acts⟩

/-- Whether a token is reported in a configuration, with what its latest state expects. -/
def Reports (table : Table) (configuration : Configuration) (state : Nat) (error : SyntaxError) :
    Prop :=
  ∃ below token rest, configuration.states = state :: below ∧ configuration.rest = token :: rest ∧
    table.action? state token.kind = none ∧ error = .ofToken token (table.expected state)

theorem Reports.nextAction? {table : Table} {configuration : Configuration} {state : Nat}
    {error : SyntaxError} (reports : Reports table configuration state error) :
    table.nextAction? configuration = none := by
  obtain ⟨below, token, rest, top, split, none, _⟩ := reports
  rw [Table.nextAction?, top, split]
  exact none

inductive Turn (mode : Mode) (table : Table) (before : Configuration) : Step → Prop where
  | shift {target : Nat} {token : Token} {rest : List Token}
      (acts : table.nextAction? before = some (.shift target)) (split : before.rest = token :: rest) :
      Turn mode table before (.next { before with
        states := target :: before.states
        trees := .leaf token :: before.trees
        rest })
  -- A reduction finds an action on the token again, and reads no more of the tokens than that one.
  | reduce {index : Nat} {after : Configuration}
      (acts : table.nextAction? before = some (.reduce index)) (rest : after.rest = before.rest)
      (errors : after.errors = before.errors) (again : (table.nextAction? after).isSome)
      (anew : ∀ other token rest left errors, before.rest = token :: rest →
        step other table ⟨before.states, before.trees, token :: left, errors⟩ =
          .next ⟨after.states, after.trees, token :: left, errors⟩) :
      Turn mode table before (.next after)
  | accept (acts : table.nextAction? before = some .accept) :
      Turn mode table before (.halt before .accepted)
  | exhausted (acts : table.nextAction? before = none) (empty : before.rest = []) :
      Turn mode table before (.halt before .exhausted)
  | probed (probes : mode = .probe) (acts : table.nextAction? before = none) :
      Turn mode table before (.halt before .stuck)
  | lost {state : Nat} {error : SyntaxError} (recovers : mode = .recover)
      (reports : Reports table before state error) :
      Turn mode table before (.halt { before with errors := before.errors ++ [error] } .stuck)
  | skip {state : Nat} {error : SyntaxError} {next : Token} {skipped later : List Token}
      (recovers : mode = .recover) (reports : Reports table before state error)
      (split : before.rest = skipped ++ next :: later)
      (again : (table.nextAction? ⟨before.states, before.trees, next :: later, []⟩).isSome) :
      Turn mode table before (.next { before with
        rest := next :: later
        errors := before.errors ++ [error] })

variable {mode : Mode} {table : Table} {configuration : Configuration} {result : Step}

namespace Turn

theorem reduction (turn : Turn mode table configuration result) {index : Nat}
    (acts : table.nextAction? configuration = some (.reduce index)) :
    ∃ after, result = .next after ∧ after.rest = configuration.rest ∧
      (table.nextAction? after).isSome := by
  cases turn with
  | reduce _ rest _ again _ => exact ⟨_, rfl, rest, again⟩
  | shift other _ => cases acts.symm.trans other
  | accept other => cases acts.symm.trans other
  | exhausted none _ => cases acts.symm.trans none
  | probed _ none => cases acts.symm.trans none
  | lost _ reports => cases acts.symm.trans reports.nextAction?
  | skip _ reports _ _ => cases acts.symm.trans reports.nextAction?

theorem halted {last : Configuration} {reason : Halt}
    (turn : Turn mode table configuration (.halt last reason)) :
    last.states = configuration.states ∧ last.trees = configuration.trees := by
  cases turn <;> exact ⟨rfl, rfl⟩

theorem errors_cases (turn : Turn mode table configuration result) :
    result.configuration.errors = configuration.errors ∨ ∃ state error,
      Reports table configuration state error ∧
      result.configuration = { configuration with
        rest := result.configuration.rest
        errors := configuration.errors ++ [error] } := by
  cases turn with
  | shift _ _ => exact .inl rfl
  | reduce _ _ errors _ _ => exact .inl errors
  | accept _ => exact .inl rfl
  | exhausted _ _ => exact .inl rfl
  | probed _ _ => exact .inl rfl
  | lost _ reports => exact .inr ⟨_, _, reports, rfl⟩
  | skip _ reports _ _ => exact .inr ⟨_, _, reports, rfl⟩

theorem reported (turn : Turn mode table configuration result)
    (added : result.configuration.errors ≠ configuration.errors) :
    table.nextAction? configuration = none ∧
      result.configuration.states = configuration.states ∧
      result.configuration.trees = configuration.trees := by
  obtain ⟨_, _, reports, left⟩ := turn.errors_cases.resolve_left added
  rw [left]
  exact ⟨reports.nextAction?, rfl, rfl⟩

end Turn

/-! ### The steps of sound configurations -/

theorem turn_recover {state : Nat} {below : List Nat} {trees : List Tree} {token : Token}
    {rest : List Token} {errors : List SyntaxError}
    (acts : table.action? state token.kind = none) :
    Turn .recover table ⟨state :: below, trees, token :: rest, errors⟩
      (step .recover table ⟨state :: below, trees, token :: rest, errors⟩) := by
  have reports : Reports table ⟨state :: below, trees, token :: rest, errors⟩ state
      (.ofToken token (table.expected state)) :=
    ⟨below, token, rest, rfl, rfl, acts, rfl⟩
  let skips : Token → Bool := fun next => (table.action? state next.kind).isNone
  have split : token :: rest = token :: rest.takeWhile skips ++ rest.dropWhile skips :=
    congrArg (token :: ·) List.takeWhile_append_dropWhile.symm
  have stops := List.head?_dropWhile_not skips rest
  simp only [step, acts, recover]
  split
  · exact .lost rfl reports
  · cases resumed : rest.dropWhile skips with
    | nil => exact .lost rfl reports
    | cons next later =>
        rw [resumed] at split stops
        have again : (table.action? state next.kind).isSome := Option.isNone_eq_false_iff.mp stops
        exact .skip rfl reports split again

variable {vocabulary : Vocabulary} {grammar : FlatGrammar} {root : Nat} {path : List Symbol}
  {states : List Nat} {later : Configuration}

theorem Reduced.follows {core : Core} {production : Production} {number target : Nat}
    {terminal : Terminal} (augmented : grammar.Augmented root)
    (reduced : Reduced grammar production path states number target)
    (valid : grammar.ValidItem path core terminal)
    (complete : (ofGrammar grammar).remaining core = [])
    (found : grammar.productions[core.production]? = some production)
    (other : production.head ≠ Rule.startName) :
    ∃ next, grammar.ValidCore (.nonterminal number :: path.drop production.body.length) next ∧
      grammar.MayFollow (.nonterminal number :: path.drop production.body.length) next
        ((ofGrammar grammar).remaining next) terminal := by
  -- The item that predicted the production is the one to move, and the lookahead was taken over
  -- either from what comes after the head there or from that item itself.
  obtain ⟨_, owner, before, rest, produces, validBefore, remains, follows⟩ :=
    predicted_of_complete augmented valid complete found other
  obtain rfl := HasProduction.unique produces reduced.produces
  refine ⟨before.next, validBefore.moved remains, ?_⟩
  rw [remaining_next remains]
  rcases follows with begins | ⟨vanishes, item⟩
  · exact .inl begins
  · exact .inr ⟨vanishes, item.moved remains⟩

theorem Sound.turn (mode : Mode) (vocabulary : Vocabulary) (augmented : grammar.Augmented root)
    (sound : Sound grammar path configuration) :
    Turn mode (canonical vocabulary grammar) configuration
      (Table.step mode (canonical vocabulary grammar) configuration) := by
  obtain ⟨states, trees, tokens, errors⟩ := configuration
  obtain ⟨state, below, rfl⟩ := nonempty_of_trail sound.trail
  cases tokens with
  | nil => exact .exhausted rfl rfl
  | cons token rest =>
      cases acts : (canonical vocabulary grammar).action? state token.kind with
      | none =>
          cases mode with
          | recover => exact turn_recover acts
          | probe =>
              simp only [Table.step, acts]
              exact .probed rfl acts
      | some action =>
          cases action with
          | shift target =>
              rw [step_shift mode below trees rest errors acts]
              exact .shift acts rfl
          | accept =>
              rw [step_accept acts]
              exact .accept acts
          | reduce index =>
              obtain ⟨core, production, rfl, found, other, complete, valid⟩ :=
                exists_item_of_reduce sound.trail acts
              obtain ⟨number, target, reduced⟩ :=
                exists_reduced augmented sound.trail valid complete found other
              have follows := reduced.follows augmented valid complete found other
              rw [step_reduce augmented found sound.length_eq reduced acts]
              refine .reduce acts rfl rfl
                ((isSome_action?_iff augmented reduced.trail).mpr follows) ?_
              intro other token rest left errors same
              cases same
              exact step_reduce augmented found sound.length_eq reduced acts

theorem Sound.reaches (augmented : grammar.Augmented root) (sound : Sound grammar path configuration)
    (reaches : Reaches mode (canonical vocabulary grammar) configuration later) :
    ∃ path, Sound grammar path later := by
  induction reaches with
  | refl => exact ⟨path, sound⟩
  | tail _ stepped ih =>
      obtain ⟨between, sound⟩ := ih
      exact (sound.step augmented stepped).2

section Built

variable {rule : Rule} {start : Nat} {tokens : List Token}

theorem Built.reached (built : Built vocabulary table rule start)
    (reaches : Reaches mode table (.start tokens) configuration) :
    ∃ path, Sound table.grammar path configuration ∧
      Turn mode table configuration (step mode table configuration) := by
  have augmented := built.augmented
  have canonical := built.canonical
  generalize table.grammar = grammar at augmented canonical
  subst canonical
  obtain ⟨path, sound⟩ := (sound_start tokens).reaches augmented reaches
  exact ⟨path, sound, sound.turn mode vocabulary augmented⟩

theorem Built.ended {steps : Nat} {last : Configuration} {reason : Halt}
    (built : Built vocabulary table rule start)
    (ran : run mode table steps (.start tokens) = some (last, reason)) :
    ∃ path, Sound table.grammar path last := by
  obtain ⟨before, reached, halts⟩ := exists_halt_of_run ran
  obtain ⟨path, sound, turn⟩ := built.reached reached
  rw [halts] at turn
  obtain ⟨states, trees⟩ := turn.halted
  refine ⟨path, ?_, ?_⟩
  · rw [states]
    exact sound.trail
  · rw [trees]
    exact sound.derives

end Built

end Table

end CanonicalLR
