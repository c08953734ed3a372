import CanonicalLR.Grammar.Rule
import Mathlib.Data.List.Basic

namespace CanonicalLR

/-- The sequences of operations that stand directly inside an operation. -/
inductive Op.Encloses : Op → List Op → Prop where
  | option (body : List Op) : Encloses (.option body) body
  | many (body : List Op) : Encloses (.many body) body
  | choice {alternatives : List (List Op)} {body : List Op} (member : body ∈ alternatives) :
      Encloses (.choice alternatives) body

inductive Written (op : Op) : List Op → Prop where
  | here {body : List Op} (member : op ∈ body) : Written op body
  | inside {outer : Op} {body inner : List Op} (member : outer ∈ body)
      (encloses : outer.Encloses inner) (deeper : Written op inner) : Written op body

variable {op : Op} {body inner : List Op}

theorem Op.Encloses.sizeOf_lt (encloses : op.Encloses inner) : sizeOf inner < sizeOf op := by
  cases encloses with
  | option => simp
  | many => simp
  | choice member =>
      have less := List.sizeOf_lt_of_mem member
      rw [Op.choice.sizeOf_spec]
      omega

theorem Written.sizeOf_lt (written : Written op body) : sizeOf op < sizeOf body := by
  induction written with
  | here member => exact List.sizeOf_lt_of_mem member
  | inside member encloses _ ih =>
      have inner := encloses.sizeOf_lt
      have outer := List.sizeOf_lt_of_mem member
      omega

theorem Written.trans {outer : Op} (written : Written outer body) (encloses : outer.Encloses inner)
    (deeper : Written op inner) : Written op body := by
  induction written with
  | here member => exact .inside member encloses deeper
  | inside member around _ ih => exact .inside member around ih

theorem Written.mono {more : List Op} (written : Written op body) (subset : body ⊆ more) :
    Written op more := by
  cases written with
  | here member => exact .here (subset member)
  | inside member encloses deeper => exact .inside (subset member) encloses deeper

theorem Written.of_singleton {outer : Op} (written : Written op [outer]) :
    op = outer ∨ ∃ inner, outer.Encloses inner ∧ Written op inner := by
  cases written with
  | here member => exact .inl (List.mem_singleton.mp member)
  | inside member encloses deeper =>
      cases List.mem_singleton.mp member
      exact .inr ⟨_, encloses, deeper⟩

theorem Op.Encloses.written (encloses : op.Encloses inner) {other : Op}
    (deeper : Written other inner) : Written other [op] :=
  .inside List.mem_cons_self encloses deeper

section

variable {holds : List Op → Prop} {marked : Op → Prop}

theorem exists_written (step : ∀ body, holds body →
    ∃ op ∈ body, marked op ∨ ∃ inner, op.Encloses inner ∧ holds inner) (body : List Op)
    (found : holds body) : ∃ op, Written op body ∧ marked op := by
  obtain ⟨op, member, here | ⟨inner, encloses, deeper⟩⟩ := step body found
  · exact ⟨op, .here member, here⟩
  · obtain ⟨other, written, marks⟩ := exists_written step inner deeper
    exact ⟨other, .inside member encloses written, marks⟩
termination_by sizeOf body
decreasing_by exact Nat.lt_trans encloses.sizeOf_lt (List.sizeOf_lt_of_mem member)

variable (holds marked) in
theorem exists_written_iff (step : ∀ body, holds body ↔
    ∃ op ∈ body, marked op ∨ ∃ inner, op.Encloses inner ∧ holds inner) :
    holds body ↔ ∃ op, Written op body ∧ marked op := by
  refine ⟨exists_written (fun body => (step body).mp) body, ?_⟩
  rintro ⟨op, written, marks⟩
  induction written with
  | here member => exact (step _).mpr ⟨op, member, .inl marks⟩
  | inside member encloses _ ih => exact (step _).mpr ⟨_, member, .inr ⟨_, encloses, ih⟩⟩

end

/-! ### One step of each function -/

theorem encloses_option_iff : (Op.option body).Encloses inner ↔ inner = body :=
  ⟨fun encloses => by cases encloses; rfl, fun same => same ▸ .option body⟩

theorem encloses_many_iff : (Op.many body).Encloses inner ↔ inner = body :=
  ⟨fun encloses => by cases encloses; rfl, fun same => same ▸ .many body⟩

theorem encloses_choice_iff {alternatives : List (List Op)} :
    (Op.choice alternatives).Encloses inner ↔ inner ∈ alternatives :=
  ⟨fun encloses => by cases encloses; assumption, .choice⟩

theorem not_encloses_consume (terminal : Terminal) : ¬ (Op.consume terminal).Encloses inner := nofun

theorem not_encloses_subRule (id : RuleId) : ¬ (Op.subRule id).Encloses inner := nofun

theorem not_encloses_group (name : String) (members : List Terminal) :
    ¬ (Op.group name members).Encloses inner := nofun

attribute [local simp] encloses_option_iff encloses_many_iff encloses_choice_iff
  not_encloses_consume not_encloses_subRule not_encloses_group

/-! ### Repetitions, counted as written -/

mutual

def Op.repetitions : Op → Nat
  | .consume _ | .group _ _ | .subRule _ => 0
  | .option body => bodyRepetitions body
  | .many body => bodyRepetitions body + 1
  | .choice alternatives => choiceRepetitions alternatives

def bodyRepetitions : List Op → Nat
  | [] => 0
  | op :: rest => op.repetitions + bodyRepetitions rest

def choiceRepetitions : List (List Op) → Nat
  | [] => 0
  | body :: rest => bodyRepetitions body + choiceRepetitions rest

end

theorem bodyRepetitions_append (front back : List Op) :
    bodyRepetitions (front ++ back) = bodyRepetitions front + bodyRepetitions back := by
  induction front with
  | nil => rw [List.nil_append, bodyRepetitions, Nat.zero_add]
  | cons op rest ih => rw [List.cons_append, bodyRepetitions, bodyRepetitions, ih, Nat.add_assoc]

theorem bodyRepetitions_singleton (op : Op) : bodyRepetitions [op] = op.repetitions := by
  rw [bodyRepetitions, bodyRepetitions, Nat.add_zero]

section References

variable {id : RuleId}

theorem mem_bodyReferences : id ∈ bodyReferences body ↔ ∃ op ∈ body, id ∈ op.references := by
  induction body with
  | nil => simp [bodyReferences]
  | cons op rest ih => simp [bodyReferences, ih]

theorem mem_choiceReferences {alternatives : List (List Op)} :
    id ∈ choiceReferences alternatives ↔ ∃ body ∈ alternatives, id ∈ bodyReferences body := by
  induction alternatives with
  | nil => simp [choiceReferences]
  | cons body rest ih => simp [choiceReferences, ih]

theorem mem_references_op : id ∈ op.references ↔
    .subRule id = op ∨ ∃ inner, op.Encloses inner ∧ id ∈ bodyReferences inner := by
  cases op <;> simp [Op.references, mem_choiceReferences]

theorem mem_bodyReferences_iff : id ∈ bodyReferences body ↔ Written (.subRule id) body := by
  rw [exists_written_iff (id ∈ bodyReferences ·) (.subRule id = ·)]
  · simp
  · intro body
    rw [mem_bodyReferences]
    exact exists_congr fun op => and_congr_right fun _ => mem_references_op

end References

def Op.OffersNothing (op : Op) : Prop :=
  op = .choice [] ∨ ∃ name, op = .group name []

theorem bodyHasEmptyChoice_eq_any : bodyHasEmptyChoice body = body.any (·.hasEmptyChoice) := by
  induction body with
  | nil => rfl
  | cons op rest ih => simp [bodyHasEmptyChoice, ih]

theorem choiceHasEmptyChoice_eq_any {alternatives : List (List Op)} :
    choiceHasEmptyChoice alternatives = alternatives.any bodyHasEmptyChoice := by
  induction alternatives with
  | nil => rfl
  | cons body rest ih => simp [choiceHasEmptyChoice, ih]

theorem hasEmptyChoice_op : op.hasEmptyChoice = true ↔
    op.OffersNothing ∨ ∃ inner, op.Encloses inner ∧ bodyHasEmptyChoice inner = true := by
  cases op <;> simp [Op.hasEmptyChoice, Op.OffersNothing, choiceHasEmptyChoice_eq_any]

theorem bodyHasEmptyChoice_iff :
    bodyHasEmptyChoice body = true ↔ ∃ op, Written op body ∧ op.OffersNothing := by
  apply exists_written_iff (bodyHasEmptyChoice · = true) Op.OffersNothing
  intro body
  rw [bodyHasEmptyChoice_eq_any, List.any_eq_true]
  exact exists_congr fun op => and_congr_right fun _ => hasEmptyChoice_op

section Repetitions

variable {rules : RuleId → Bool}

theorem bodyRepeatsNothing_eq_any :
    bodyRepeatsNothing rules body = body.any (·.repeatsNothing rules) := by
  induction body with
  | nil => rfl
  | cons op rest ih => simp [bodyRepeatsNothing, ih]

theorem choiceRepeatsNothing_eq_any {alternatives : List (List Op)} :
    choiceRepeatsNothing rules alternatives = alternatives.any (bodyRepeatsNothing rules) := by
  induction alternatives with
  | nil => rfl
  | cons body rest ih => simp [choiceRepeatsNothing, ih]

theorem repeatsNothing_op : op.repeatsNothing rules = true ↔
    (∃ body, op = .many body ∧ bodyNullable rules body = true) ∨
      ∃ inner, op.Encloses inner ∧ bodyRepeatsNothing rules inner = true := by
  cases op <;> simp [Op.repeatsNothing, choiceRepeatsNothing_eq_any]

theorem bodyRepeatsNothing_iff : bodyRepeatsNothing rules body = true ↔
    ∃ inner, Written (.many inner) body ∧ bodyNullable rules inner = true := by
  rw [exists_written_iff (bodyRepeatsNothing rules · = true)
    fun op => ∃ inner, op = .many inner ∧ bodyNullable rules inner = true]
  · constructor
    · rintro ⟨_, written, inner, rfl, nullable⟩
      exact ⟨inner, written, nullable⟩
    · rintro ⟨inner, written, nullable⟩
      exact ⟨_, written, inner, rfl, nullable⟩
  · intro body
    rw [bodyRepeatsNothing_eq_any, List.any_eq_true]
    exact exists_congr fun op => and_congr_right fun _ => repeatsNothing_op

end Repetitions

end CanonicalLR
