import CanonicalLR.Proofs.Parse.Completeness
import CanonicalLR.Proofs.Parse.Turns

namespace CanonicalLR

namespace Table
open FlatGrammar ItemSystem

/-- The configurations that a run comes to, with the tokens that it has shifted on the way. -/
inductive Shifts (mode : Mode) (table : Table) (first : Configuration) :
    List Token → Configuration → Prop where
  | start : Shifts mode table first [] first
  | step {shifted : List Token} {before after : Configuration}
      (earlier : Shifts mode table first shifted before)
      (stepped : step mode table before = .next after) :
      Shifts mode table first (shifted ++ keptTokens (table.passed before)) after

variable {mode : Mode} {table : Table} {vocabulary : Vocabulary} {grammar : FlatGrammar}
  {root index target : Nat} {path : List Symbol} {first configuration after : Configuration}
  {tokens rest shifted : List Token} {token : Token}

theorem Shifts.reaches (shifts : Shifts mode table first shifted configuration) :
    Reaches mode table first configuration := by
  induction shifts with
  | start => exact .refl
  | step _ stepped ih => exact ih.tail stepped

theorem exists_shifts (reaches : Reaches mode table first configuration) :
    ∃ shifted, Shifts mode table first shifted configuration := by
  induction reaches with
  | refl => exact ⟨[], .start⟩
  | tail _ stepped ih =>
      obtain ⟨shifted, earlier⟩ := ih
      exact ⟨_, earlier.step stepped⟩

/-! ### What a step passes -/

theorem passed_of_shift (acts : table.nextAction? configuration = some (.shift target))
    (split : configuration.rest = token :: rest) :
    table.passed configuration = [(token, true)] := by
  obtain ⟨states, trees, tokens, errors⟩ := configuration
  cases split
  cases states with
  | nil => cases acts
  | cons state below =>
      rw [nextAction?_cons] at acts
      simp only [passed, acts]

theorem passed_of_reduce (acts : table.nextAction? configuration = some (.reduce index)) :
    table.passed configuration = [] := by
  obtain ⟨states, trees, tokens, errors⟩ := configuration
  match states, tokens with
  | [], _ => cases acts
  | _ :: _, [] => cases acts
  | state :: below, token :: rest =>
      rw [nextAction?_cons] at acts
      simp only [passed, acts]

theorem Shifts.leaves (augmented : grammar.Augmented root)
    (shifts : Shifts mode (canonical vocabulary grammar) (.start tokens) shifted configuration) :
    shifted = forestLeaves configuration.trees.reverse := by
  induction shifts with
  | start => rfl
  | step earlier stepped ih =>
      obtain ⟨path, sound⟩ := (sound_start tokens).reaches augmented earlier.reaches
      have passes := (sound.step augmented stepped).1
      rw [passes.leaves, ih]

theorem Shifts.append_rest (augmented : grammar.Augmented root)
    (shifts : Shifts .probe (canonical vocabulary grammar) (.start tokens) shifted configuration) :
    shifted ++ configuration.rest = tokens := by
  induction shifts with
  | start => rfl
  | @step shifted before after earlier stepped ih =>
      obtain ⟨path, sound⟩ := (sound_start tokens).reaches augmented earlier.reaches
      have turn := sound.turn .probe vocabulary augmented
      rw [stepped] at turn
      rw [← ih]
      cases turn with
      | shift acts split =>
          rw [passed_of_shift acts split, split, List.append_assoc]
          rfl
      | reduce acts same _ _ _ =>
          rw [passed_of_reduce acts, same, keptTokens]
          simp only [List.filter_nil, List.map_nil, List.append_nil]
      | skip recovers _ _ _ => cases recovers

theorem step_of_shift (mode : Mode)
    (acts : table.nextAction? configuration = some (.shift target))
    (split : configuration.rest = token :: rest) (left : List Token) (errors : List SyntaxError) :
    step mode table ⟨configuration.states, configuration.trees, token :: left, errors⟩ =
      .next ⟨target :: configuration.states, .leaf token :: configuration.trees, left, errors⟩ := by
  obtain ⟨states, trees, tokens, others⟩ := configuration
  cases split
  cases states with
  | nil => cases acts
  | cons state below => exact step_shift mode below trees left errors acts

end Table

end CanonicalLR
