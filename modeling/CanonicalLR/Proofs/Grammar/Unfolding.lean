import CanonicalLR.Proofs.Grammar.Matching
import CanonicalLR.Tree.Basic
import Mathlib.Logic.Relation

namespace CanonicalLR

inductive Constituent where
  | token (terminal : Terminal)
  | rule (id : RuleId)
deriving DecidableEq, Repr

/-- The rows of constituents that a sequence of operations can be unfolded to. -/
inductive Unfolds : List Op → List Constituent → Prop where
  | nil : Unfolds [] []
  | consume {rest : List Op} {row : List Constituent} (terminal : Terminal)
      (tail : Unfolds rest row) : Unfolds (.consume terminal :: rest) (.token terminal :: row)
  | optionNone {body rest : List Op} {row : List Constituent} (tail : Unfolds rest row) :
      Unfolds (.option body :: rest) row
  | optionSome {body rest : List Op} {first row : List Constituent} (inner : Unfolds body first)
      (tail : Unfolds rest row) : Unfolds (.option body :: rest) (first ++ row)
  | manyEnd {body rest : List Op} {row : List Constituent} (tail : Unfolds rest row) :
      Unfolds (.many body :: rest) row
  | manyRound {body rest : List Op} {first row : List Constituent} (inner : Unfolds body first)
      (tail : Unfolds (.many body :: rest) row) : Unfolds (.many body :: rest) (first ++ row)
  | choice {alternatives : List (List Op)} {alternative rest : List Op}
      {first row : List Constituent} (member : alternative ∈ alternatives)
      (inner : Unfolds alternative first) (tail : Unfolds rest row) :
      Unfolds (.choice alternatives :: rest) (first ++ row)
  | subRule {rest : List Op} {row : List Constituent} (id : RuleId) (tail : Unfolds rest row) :
      Unfolds (.subRule id :: rest) (.rule id :: row)
  | group {name : String} {members : List Terminal} {terminal : Terminal} {rest : List Op}
      {row : List Constituent} (member : terminal ∈ members) (tail : Unfolds rest row) :
      Unfolds (.group name members :: rest) (.token terminal :: row)

theorem Unfolds.append {front back : List Op} {first second : List Constituent}
    (before : Unfolds front first) (after : Unfolds back second) :
    Unfolds (front ++ back) (first ++ second) := by
  induction before with
  | nil => exact after
  | consume terminal _ ih => exact .consume terminal ih
  | optionNone _ ih => exact .optionNone ih
  | optionSome inner _ _ ih =>
      rw [List.append_assoc]
      exact .optionSome inner ih
  | manyEnd _ ih => exact .manyEnd ih
  | manyRound inner _ _ ih =>
      rw [List.append_assoc]
      exact .manyRound inner ih
  | choice member inner _ _ ih =>
      rw [List.append_assoc]
      exact .choice member inner ih
  | subRule id _ ih => exact .subRule id ih
  | group member _ ih => exact .group member ih

/-! ### Terminals, in the order in which they are written -/

mutual

def Op.terminals : Op → List Terminal
  | .consume terminal => [terminal]
  | .option body | .many body => bodyTerminals body
  | .choice alternatives => choiceTerminals alternatives
  | .subRule _ => []
  | .group _ members => members

def bodyTerminals : List Op → List Terminal
  | [] => []
  | op :: rest => op.terminals ++ bodyTerminals rest

def choiceTerminals : List (List Op) → List Terminal
  | [] => []
  | body :: rest => bodyTerminals body ++ choiceTerminals rest

end

/-! ### Trees as rows -/

namespace Grammar

variable {grammar : Grammar} {body front back : List Op} {trees first second : List Tree}

def constituent? (grammar : Grammar) : Tree → Option Constituent
  | .leaf token => some (.token token.kind)
  | .node name _ => (grammar.find? name).map .rule

/-- Whether trees are a row that a body can be unfolded to. -/
def Fits (grammar : Grammar) (body : List Op) (trees : List Tree) : Prop :=
  ∃ row, Unfolds body row ∧ trees.map grammar.constituent? = row.map some

theorem fits_nil : grammar.Fits [] [] :=
  ⟨[], .nil, rfl⟩

theorem Fits.append (before : grammar.Fits front first) (after : grammar.Fits back second) :
    grammar.Fits (front ++ back) (first ++ second) := by
  obtain ⟨row, unfolds, read⟩ := before
  obtain ⟨more, unfoldsMore, readMore⟩ := after
  refine ⟨row ++ more, unfolds.append unfoldsMore, ?_⟩
  rw [List.map_append, List.map_append, read, readMore]

theorem fits_consume (token : Token) : grammar.Fits [.consume token.kind] [.leaf token] :=
  ⟨_, .consume token.kind .nil, rfl⟩

theorem fits_group (name : String) {members : List Terminal} {token : Token}
    (member : token.kind ∈ members) : grammar.Fits [.group name members] [.leaf token] :=
  ⟨_, .group member .nil, rfl⟩

theorem fits_subRule {id : RuleId} {name : String} (found : grammar.find? name = some id)
    (children : List Tree) : grammar.Fits [.subRule id] [.node name children] := by
  refine ⟨_, .subRule id .nil, ?_⟩
  rw [List.map_singleton, constituent?, found]
  rfl

theorem fits_option_nil (body : List Op) : grammar.Fits [.option body] [] :=
  ⟨_, .optionNone .nil, rfl⟩

theorem Fits.option (inner : grammar.Fits body trees) : grammar.Fits [.option body] trees := by
  obtain ⟨row, unfolds, read⟩ := inner
  refine ⟨row ++ [], .optionSome unfolds .nil, ?_⟩
  rw [List.append_nil, read]

theorem fits_many_nil (body : List Op) : grammar.Fits [.many body] [] :=
  ⟨_, .manyEnd .nil, rfl⟩

theorem Fits.many (round : grammar.Fits body first) (rest : grammar.Fits [.many body] second) :
    grammar.Fits [.many body] (first ++ second) := by
  obtain ⟨row, unfolds, read⟩ := round
  obtain ⟨more, unfoldsMore, readMore⟩ := rest
  refine ⟨row ++ more, .manyRound unfolds unfoldsMore, ?_⟩
  rw [List.map_append, List.map_append, read, readMore]

theorem Fits.choice_head {more : List (List Op)} (inner : grammar.Fits body trees) :
    grammar.Fits [.choice (body :: more)] trees := by
  obtain ⟨row, unfolds, read⟩ := inner
  refine ⟨row ++ [], .choice List.mem_cons_self unfolds .nil, ?_⟩
  rw [List.append_nil, read]

theorem Fits.choice_tail {more : List (List Op)} (alternative : List Op)
    (later : grammar.Fits (.choice more :: back) trees) :
    grammar.Fits (.choice (alternative :: more) :: back) trees := by
  obtain ⟨row, unfolds, read⟩ := later
  cases unfolds with
  | choice member inner tail =>
      exact ⟨_, .choice (List.mem_cons_of_mem _ member) inner tail, read⟩

end Grammar

end CanonicalLR
