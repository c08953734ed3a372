import CanonicalLR.Proofs.Parse.Turns
import Mathlib.Data.List.TakeWhile

namespace CanonicalLR

namespace Table

inductive Change (mode : Mode) (table : Table) (before : Configuration) : Step → Prop where
  | shift {target : Nat} {token : Token} {rest : List Token}
      (acts : table.nextAction? before = some (.shift target)) (split : before.rest = token :: rest) :
      Change mode table before (.next { before with
        states := target :: before.states
        trees := .leaf token :: before.trees
        rest })
  | reduce {index : Nat} {after : Configuration}
      (acts : table.nextAction? before = some (.reduce index))
      (reduces : table.reduce index before = .ok after) : Change mode table before (.next after)
  | accept (acts : table.nextAction? before = some .accept) :
      Change mode table before (.halt before .accepted)
  | exhausted (empty : before.rest = []) : Change mode table before (.halt before .exhausted)
  | bare (top : before.states = []) :
      Change mode table before (.halt before (.failed (.stackUnderflow 0)))
  | failed {index : Nat} {error : ParseError}
      (acts : table.nextAction? before = some (.reduce index))
      (fails : table.reduce index before = .error error) :
      Change mode table before (.halt before (.failed error))
  | probed (probes : mode = .probe) (acts : table.nextAction? before = none) :
      Change mode table before (.halt before .stuck)
  | lost {state : Nat} {below : List Nat} {token : Token} {rest : List Token}
      (recovers : mode = .recover) (top : before.states = state :: below)
      (split : before.rest = token :: rest) (idle : table.action? state token.kind = none)
      (final : token.isEof = true ∨ ∀ later ∈ rest, table.action? state later.kind = none) :
      Change mode table before (.halt { before with
        errors := before.errors ++ [.ofToken token (table.expected state)] } .stuck)
  | skip {state : Nat} {below : List Nat} {token next : Token} {skipped later : List Token}
      (recovers : mode = .recover) (top : before.states = state :: below)
      (split : before.rest = token :: skipped ++ next :: later)
      (idle : ∀ passed ∈ token :: skipped, table.action? state passed.kind = none)
      (inner : token.isEof = false) (again : (table.action? state next.kind).isSome) :
      Change mode table before (.next { before with
        rest := next :: later
        errors := before.errors ++ [.ofToken token (table.expected state)] })

variable {mode : Mode} {table : Table} {configuration after : Configuration} {tokens : List Token}

theorem change_recover {state : Nat} {below : List Nat} {trees : List Tree} {token : Token}
    {rest : List Token} {errors : List SyntaxError}
    (acts : table.action? state token.kind = none) :
    Change .recover table ⟨state :: below, trees, token :: rest, errors⟩
      (step .recover table ⟨state :: below, trees, token :: rest, errors⟩) := by
  let skips : Token → Bool := fun next => (table.action? state next.kind).isNone
  have split : rest.takeWhile skips ++ rest.dropWhile skips = rest := List.takeWhile_append_dropWhile
  have stops := List.head?_dropWhile_not skips rest
  have skipped : ∀ passed ∈ rest.takeWhile skips, table.action? state passed.kind = none :=
    fun passed member => Option.isNone_iff_eq_none.mp (List.mem_takeWhile_imp (p := skips) member)
  simp only [step, acts, recover]
  by_cases atEnd : token.isEof = true
  · rw [if_pos atEnd]
    exact .lost rfl rfl rfl acts (.inl atEnd)
  · rw [if_neg atEnd]
    cases resumed : rest.dropWhile skips with
    | nil =>
        rw [resumed, List.append_nil] at split
        exact .lost rfl rfl rfl acts (.inr (split ▸ skipped))
    | cons next later =>
        rw [resumed] at split stops
        refine .skip rfl rfl (congrArg (token :: ·) split.symm) ?_
          (Bool.eq_false_iff.mpr atEnd) (Option.isNone_eq_false_iff.mp stops)
        simpa [acts] using skipped

theorem change_step (mode : Mode) (table : Table) (configuration : Configuration) :
    Change mode table configuration (step mode table configuration) := by
  obtain ⟨states, trees, tokens, errors⟩ := configuration
  match states, tokens with
  | [], _ => exact .bare rfl
  | _ :: _, [] => exact .exhausted rfl
  | state :: below, token :: rest =>
      cases acts : table.action? state token.kind with
      | none =>
          cases mode with
          | recover => exact change_recover acts
          | probe =>
              simp only [step, acts]
              exact .probed rfl acts
      | some action =>
          cases action with
          | shift target =>
              rw [step_shift mode below trees rest errors acts]
              exact .shift acts rfl
          | accept =>
              rw [step_accept acts]
              exact .accept acts
          | reduce index =>
              cases reduces : table.reduce index ⟨state :: below, trees, token :: rest, errors⟩ with
              | error error =>
                  simp only [step, acts, reduces]
                  exact .failed acts reduces
              | ok after =>
                  simp only [step, acts, reduces]
                  exact .reduce acts reduces

theorem change_of_step {result : Step} (stepped : step mode table configuration = result) :
    Change mode table configuration result :=
  stepped ▸ change_step mode table configuration

theorem reduce_eq_ok {index : Nat} (reduces : table.reduce index configuration = .ok after) :
    ∃ production head uncovered below target, table.productions[index]? = some production ∧
      table.nonterminalIndex? production.head = some head ∧
      production.body.length ≤ configuration.trees.length ∧
      configuration.states.drop production.body.length = uncovered :: below ∧
      table.goto? uncovered head = some target ∧
      after = { configuration with
        states := target :: uncovered :: below
        trees := .node production.head (configuration.trees.take production.body.length).reverse ::
          configuration.trees.drop production.body.length } := by
  unfold Table.reduce at reduces
  split at reduces
  · cases reduces
  · rename_i production found
    split at reduces
    · cases reduces
    · rename_i head numbered
      simp only at reduces
      split at reduces
      · rename_i uncovered below left
        split at reduces
        · cases reduces
        · rename_i enough
          split at reduces
          · cases reduces
          · rename_i target leads
            cases reduces
            rw [List.length_take] at enough
            exact ⟨production, head, uncovered, below, target, found, numbered, by omega, left,
              leads, rfl⟩
      · cases reduces

theorem passes_reduce {index : Nat} (reduces : table.reduce index configuration = .ok after) :
    Passes configuration [] after := by
  obtain ⟨production, _, uncovered, below, target, _, _, _, _, _, rfl⟩ := reduce_eq_ok reduces
  exact passes_node production.head production.body.length

theorem Change.errors_cases {result : Step} (change : Change mode table configuration result) :
    result.configuration.errors = configuration.errors ∨ ∃ state error,
      Reports table configuration state error ∧
      result.configuration.errors = configuration.errors ++ [error] := by
  cases change with
  | reduce _ reduces =>
      obtain ⟨_, _, _, _, _, _, _, _, _, _, rfl⟩ := reduce_eq_ok reduces
      exact .inl rfl
  | lost _ top split idle _ => exact .inr ⟨_, _, ⟨_, _, _, top, split, idle, rfl⟩, rfl⟩
  | skip _ top split idle _ _ =>
      exact .inr ⟨_, _, ⟨_, _, _, top, split, idle _ List.mem_cons_self, rfl⟩, rfl⟩
  | _ => exact .inl rfl

end Table

end CanonicalLR
