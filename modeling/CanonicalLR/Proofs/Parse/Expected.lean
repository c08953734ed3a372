import CanonicalLR.Proofs.Flat.Sentences
import CanonicalLR.Proofs.Parse.Consistency
import CanonicalLR.Proofs.Parse.Replay
import CanonicalLR.Proofs.Parse.Viability
import CanonicalLR.Proofs.Table.Expected

namespace CanonicalLR

namespace Table
open FlatGrammar ItemSystem

section Flat

variable {mode : Mode} {vocabulary : Vocabulary} {grammar : FlatGrammar} {root state : Nat}
  {path : List Symbol} {below : List Nat} {terminal : Terminal} {configuration : Configuration}
  {holds : Symbol → Prop} {tokens : List Token}

theorem nextAction?_of_probe (augmented : grammar.Augmented root) (unused : grammar.StartUnused)
    (inner : ∀ token ∈ tokens, token.isEof = false) {shifted : List Token}
    (shifts : Shifts .probe (canonical vocabulary grammar) (.start tokens) shifted configuration)
    {last : Configuration} {reason : Halt}
    (halts : Table.step .probe (canonical vocabulary grammar) configuration = .halt last reason) :
    last = configuration ∧ (canonical vocabulary grammar).nextAction? configuration = none := by
  obtain ⟨path, sound⟩ := (sound_start tokens).reaches augmented shifts.reaches
  have turn := sound.turn .probe vocabulary augmented
  rw [halts] at turn
  cases turn with
  | exhausted none _ => exact ⟨rfl, none⟩
  | probed _ none => exact ⟨rfl, none⟩
  | lost recovers _ => cases recovers
  | accept _ =>
      obtain ⟨_, _, token, rest, _, _, _, _, split, isEof⟩ :=
        sound.accepted augmented unused halts
      have whole := shifts.append_rest augmented
      have member : token ∈ tokens := by
        rw [← whole, split]
        exact List.mem_append_right _ List.mem_cons_self
      rw [inner token member] at isEof
      cases isEof

end Flat

variable {mode : Mode} {vocabulary : Vocabulary} {source : Grammar} {id : RuleId} {table : Table}
  {body : List Op} {state : Nat} {below : List Nat} {tokens shifted : List Token}
  {configuration : Configuration}

theorem dropEof_eq_self (inner : ∀ token ∈ tokens, token.isEof = false) :
    dropEof tokens = tokens := by
  rw [dropEof, if_neg]
  intro atEnd
  obtain ⟨last, ends, isEof⟩ := (Option.any_eq_true _ _).mp atEnd
  rw [inner last (List.mem_of_getLast? ends)] at isEof
  cases isEof

theorem suggestion_of_run {steps : Nat} {suggestion : Suggestion}
    (inner : ∀ token ∈ tokens, token.isEof = false)
    (answers : table.suggest steps tokens = some (.ok suggestion)) :
    ∃ last reason, run .probe table steps (.start tokens) = some (last, reason) ∧
      suggestion = table.suggestionIn tokens.length last := by
  rw [suggest, dropEof_eq_self inner] at answers
  obtain ⟨⟨last, reason⟩, ran, answer⟩ := Option.map_eq_some_iff.mp answers
  refine ⟨last, reason, ran, ?_⟩
  cases reason with
  | failed error => cases answer
  | _ => exact (Except.ok.inj answer).symm

end Table

end CanonicalLR
