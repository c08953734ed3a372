import CanonicalLR.Grammar.Basic

namespace CanonicalLR

namespace Grammar

/-- The terminal strings that a sequence of operations matches. -/
inductive Matches (grammar : Grammar) : List Op → List Terminal → Prop where
  | nil : Matches grammar [] []
  | consume {rest : List Op} {word : List Terminal} (terminal : Terminal)
      (tail : Matches grammar rest word) :
      Matches grammar (.consume terminal :: rest) (terminal :: word)
  | optionNone {body rest : List Op} {word : List Terminal} (tail : Matches grammar rest word) :
      Matches grammar (.option body :: rest) word
  | optionSome {body rest : List Op} {first word : List Terminal}
      (inner : Matches grammar body first) (tail : Matches grammar rest word) :
      Matches grammar (.option body :: rest) (first ++ word)
  | manyEnd {body rest : List Op} {word : List Terminal} (tail : Matches grammar rest word) :
      Matches grammar (.many body :: rest) word
  | manyRound {body rest : List Op} {first word : List Terminal}
      (inner : Matches grammar body first) (tail : Matches grammar (.many body :: rest) word) :
      Matches grammar (.many body :: rest) (first ++ word)
  | choice {alternatives : List (List Op)} {alternative rest : List Op}
      {first word : List Terminal} (member : alternative ∈ alternatives)
      (inner : Matches grammar alternative first) (tail : Matches grammar rest word) :
      Matches grammar (.choice alternatives :: rest) (first ++ word)
  | subRule {rule : RuleId} {body rest : List Op} {first word : List Terminal}
      (defined : grammar.bodyOf? rule = some body) (inner : Matches grammar body first)
      (tail : Matches grammar rest word) :
      Matches grammar (.subRule rule :: rest) (first ++ word)
  | group {name : String} {members : List Terminal} {terminal : Terminal} {rest : List Op}
      {word : List Terminal} (member : terminal ∈ members) (tail : Matches grammar rest word) :
      Matches grammar (.group name members :: rest) (terminal :: word)

variable {grammar : Grammar} {front back : List Op} {first second : List Terminal}

theorem Matches.append (before : grammar.Matches front first)
    (after : grammar.Matches back second) :
    grammar.Matches (front ++ back) (first ++ second) := by
  induction before with
  | nil => exact after
  | consume terminal _ ih => exact .consume terminal ih
  | optionNone _ ih => exact .optionNone ih
  | optionSome inner _ _ ih =>
      rw [List.append_assoc]
      exact .optionSome inner ih
  | manyEnd _ ih => exact .manyEnd ih
  | manyRound inner _ _ ih =>
      rw [List.append_assoc]
      exact .manyRound inner ih
  | choice member inner _ _ ih =>
      rw [List.append_assoc]
      exact .choice member inner ih
  | subRule defined inner _ _ ih =>
      rw [List.append_assoc]
      exact .subRule defined inner ih
  | group member _ ih => exact .group member ih

theorem bodyOf?_eq_some_iff {id : RuleId} {body : List Op} :
    grammar.bodyOf? id = some body ↔
      ∃ rule, grammar.get? id = some rule ∧ rule.body = some body := by
  rw [bodyOf?]
  cases grammar.get? id <;> simp

end Grammar

end CanonicalLR
