import CanonicalLR.Proofs.Parse.Turns

namespace CanonicalLR

namespace Table
open FlatGrammar ItemSystem

variable {mode : Mode} {vocabulary : Vocabulary} {grammar : FlatGrammar} {root : Nat}
  {path : List Symbol} {configuration later : Configuration}

theorem Sound.keeps_action (augmented : grammar.Augmented root)
    (sound : Sound grammar path configuration)
    (acts : ((canonical vocabulary grammar).nextAction? configuration).isSome)
    (reaches : Reaches mode (canonical vocabulary grammar) configuration later) :
    later.rest.length < configuration.rest.length ∨ later.rest = configuration.rest ∧
      ((canonical vocabulary grammar).nextAction? later).isSome := by
  induction reaches with
  | refl => exact .inr ⟨rfl, acts⟩
  | @tail between later reached stepped ih =>
      obtain ⟨_, soundBetween⟩ := sound.reaches augmented reached
      have turn := soundBetween.turn mode vocabulary augmented
      rw [stepped] at turn
      have shorter : between.rest.length ≤ configuration.rest.length := by
        rcases ih with fewer | ⟨same, _⟩
        · exact fewer.le
        · rw [same]
      cases turn with
      | shift _ split =>
          left
          rw [split] at shorter
          exact shorter
      | reduce _ rest _ again _ =>
          rw [rest]
          rcases ih with fewer | ⟨same, _⟩
          · exact .inl fewer
          · exact .inr ⟨same, again⟩
      | skip _ reports split _ =>
          -- Only tokens without an action are skipped, so the first token is already behind.
          rcases ih with fewer | ⟨_, acts⟩
          · left
            rw [split, List.length_append] at fewer
            exact (Nat.le_add_left _ _).trans_lt fewer
          · rw [reports.nextAction?] at acts
            cases acts

theorem Sound.undecided (augmented : grammar.Augmented root)
    (sound : Sound grammar path configuration)
    (reaches : Reaches mode (canonical vocabulary grammar) configuration later)
    (none : (canonical vocabulary grammar).nextAction? later = none) :
    later = configuration ∨ ∃ earlier target,
      Reaches mode (canonical vocabulary grammar) configuration earlier ∧
      (canonical vocabulary grammar).nextAction? earlier = some (.shift target) ∧
      Table.step mode (canonical vocabulary grammar) earlier = .next later := by
  cases reaches with
  | refl => exact .inl rfl
  | @tail between _ reached stepped =>
      obtain ⟨_, soundBetween⟩ := sound.reaches augmented reached
      have turn := soundBetween.turn mode vocabulary augmented
      rw [stepped] at turn
      cases turn with
      | shift acts split => exact .inr ⟨between, _, reached, acts, stepped⟩
      | reduce _ _ _ again _ =>
          rw [none] at again
          cases again
      | skip _ _ _ again => cases (Option.isSome_iff_ne_none.mp again) none

/-- A reduction on a token leads to an action on it, so a token with an action is never reported,
and what is reported is found where the start or the last shift has left the stacks. -/
theorem detects_before_reducing {source : Grammar} {id : RuleId} {table : Table}
    {tokens : List Token} (constructed : source.Constructed)
    (ok : (build vocabulary source id).1 = .ok table)
    (reached : Reaches mode table (.start tokens) configuration) :
    (∀ index, table.nextAction? configuration = some (.reduce index) →
      ∃ after, step mode table configuration = .next after ∧ after.rest = configuration.rest ∧
        (table.nextAction? after).isSome) ∧
    ((table.nextAction? configuration).isSome → ∀ later, Reaches mode table configuration later →
      later.rest = configuration.rest →
        (table.nextAction? later).isSome ∧
        (step mode table later).configuration.errors = later.errors) ∧
    ((step mode table configuration).configuration.errors ≠ configuration.errors →
      table.nextAction? configuration = none ∧
      (step mode table configuration).configuration.states = configuration.states ∧
      (step mode table configuration).configuration.trees = configuration.trees) ∧
    (table.nextAction? configuration = none → configuration = .start tokens ∨
      ∃ earlier target, Reaches mode table (.start tokens) earlier ∧
        table.nextAction? earlier = some (.shift target) ∧
        step mode table earlier = .next configuration) := by
  obtain ⟨rule, start, _, built⟩ := built_of_build constructed ok
  have augmented := built.augmented
  have canonical := built.canonical
  generalize table.grammar = grammar at augmented canonical
  subst canonical
  obtain ⟨path, sound⟩ := (sound_start tokens).reaches augmented reached
  have turn := sound.turn mode vocabulary augmented
  refine ⟨fun index acts => turn.reduction acts, ?_, turn.reported,
    (sound_start tokens).undecided augmented reached⟩
  intro acts later further same
  obtain ⟨path, soundLater⟩ := sound.reaches augmented further
  have again : ((canonical vocabulary grammar).nextAction? later).isSome := by
    rcases sound.keeps_action augmented acts further with fewer | ⟨_, again⟩
    · rw [same] at fewer
      exact absurd fewer (Nat.lt_irrefl _)
    · exact again
  refine ⟨again, ?_⟩
  by_contra reports
  rw [((soundLater.turn mode vocabulary augmented).reported reports).1] at again
  cases again

theorem detects_before_reducing_itemList :
    ∃ configuration after, Reaches .recover itemListTable
        (.start [tokenOfKind 0, tokenOfKind Terminal.eof]) configuration ∧
      itemListTable.nextAction? configuration = some (.reduce 1) ∧
      step .recover itemListTable configuration = .next after ∧
      after.rest = [tokenOfKind Terminal.eof] ∧ (itemListTable.nextAction? after).isSome := by
  have shifts : step .recover itemListTable (.start [tokenOfKind 0, tokenOfKind Terminal.eof]) =
      .next ⟨[1, 0], [.leaf (tokenOfKind 0)], [tokenOfKind Terminal.eof], []⟩ := by decide +kernel
  have acts : itemListTable.nextAction?
      ⟨[1, 0], [.leaf (tokenOfKind 0)], [tokenOfKind Terminal.eof], []⟩ = some (.reduce 1) := by
    decide +kernel
  obtain ⟨reduces, _⟩ :=
    detects_before_reducing Grammar.constructed_itemList build_itemList (.single shifts)
  obtain ⟨after, stepped, rest, again⟩ := reduces 1 acts
  exact ⟨_, after, .single shifts, acts, stepped, rest, again⟩

end Table

end CanonicalLR
