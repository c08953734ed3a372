import CanonicalLR.Proofs.Fading
import CanonicalLR.Proofs.Grammar.Nullability
import CanonicalLR.Proofs.Grammar.Unfolding

namespace CanonicalLR

namespace Grammar

def Fades (grammar : Grammar) : Constituent → Prop
  | .token _ => False
  | .rule id => grammar.Nullable id

def Narrows (grammar : Grammar) (body : List Op) (id : RuleId) : Prop :=
  ∃ row, Unfolds body row ∧ OneStays grammar.Fades (· = .rule id) row

variable {grammar : Grammar} {id : RuleId} {op : Op} {body rest : List Op}
  {row first second : List Constituent}

/-! ### Rows that fade -/

theorem matches_of_unfolds (unfolds : Unfolds body row) (fades : ∀ part ∈ row, grammar.Fades part) :
    grammar.Matches body [] := by
  induction unfolds with
  | nil => exact .nil
  | consume | group => exact absurd (fades _ List.mem_cons_self) id
  | optionNone _ ih => exact .optionNone (ih fades)
  | manyEnd _ ih => exact .manyEnd (ih fades)
  | optionSome _ _ ihInner ihTail =>
      obtain ⟨inner, tail⟩ := List.forall_mem_append.mp fades
      exact .optionSome (ihInner inner) (ihTail tail)
  | manyRound _ _ ihInner ihTail =>
      obtain ⟨inner, tail⟩ := List.forall_mem_append.mp fades
      exact .manyRound (ihInner inner) (ihTail tail)
  | choice member _ _ ihInner ihTail =>
      obtain ⟨inner, tail⟩ := List.forall_mem_append.mp fades
      exact .choice member (ihInner inner) (ihTail tail)
  | subRule rule _ ih =>
      obtain ⟨⟨body, defined, nothing⟩, tail⟩ := List.forall_mem_cons.mp fades
      exact .subRule defined nothing (ih tail)

theorem exists_unfolds (nothing : grammar.Matches body []) :
    ∃ row, Unfolds body row ∧ ∀ part ∈ row, grammar.Fades part := by
  generalize empty : ([] : List Terminal) = word at nothing
  induction nothing with
  | nil => exact ⟨[], .nil, nofun⟩
  | consume => cases empty
  | group => cases empty
  | optionNone _ ih =>
      obtain ⟨row, unfolds, fades⟩ := ih empty
      exact ⟨row, .optionNone unfolds, fades⟩
  | manyEnd _ ih =>
      obtain ⟨row, unfolds, fades⟩ := ih empty
      exact ⟨row, .manyEnd unfolds, fades⟩
  | optionSome _ _ ihInner ihTail =>
      obtain ⟨rfl, rfl⟩ := List.append_eq_nil_iff.mp empty.symm
      obtain ⟨_, inner, fades⟩ := ihInner rfl
      obtain ⟨_, tail, fadesTail⟩ := ihTail rfl
      exact ⟨_, .optionSome inner tail, List.forall_mem_append.mpr ⟨fades, fadesTail⟩⟩
  | manyRound _ _ ihInner ihTail =>
      obtain ⟨rfl, rfl⟩ := List.append_eq_nil_iff.mp empty.symm
      obtain ⟨_, inner, fades⟩ := ihInner rfl
      obtain ⟨_, tail, fadesTail⟩ := ihTail rfl
      exact ⟨_, .manyRound inner tail, List.forall_mem_append.mpr ⟨fades, fadesTail⟩⟩
  | choice member _ _ ihInner ihTail =>
      obtain ⟨rfl, rfl⟩ := List.append_eq_nil_iff.mp empty.symm
      obtain ⟨_, inner, fades⟩ := ihInner rfl
      obtain ⟨_, tail, fadesTail⟩ := ihTail rfl
      exact ⟨_, .choice member inner tail, List.forall_mem_append.mpr ⟨fades, fadesTail⟩⟩
  | subRule defined inner _ _ ihTail =>
      obtain ⟨rfl, rfl⟩ := List.append_eq_nil_iff.mp empty.symm
      obtain ⟨row, unfolds, fades⟩ := ihTail rfl
      exact ⟨_, .subRule _ unfolds, List.forall_mem_cons.mpr ⟨⟨_, defined, inner⟩, fades⟩⟩

theorem unfolds_fades_iff :
    (∃ row, Unfolds body row ∧ ∀ part ∈ row, grammar.Fades part) ↔ grammar.Matches body [] :=
  ⟨fun ⟨_, unfolds, fades⟩ => matches_of_unfolds unfolds fades, exists_unfolds⟩

/-! ### Bodies that narrow -/

theorem unfolds_cons_iff : Unfolds (op :: rest) row ↔
    ∃ first second, row = first ++ second ∧ Unfolds [op] first ∧ Unfolds rest second := by
  constructor
  · intro unfolds
    generalize whole : op :: rest = body at unfolds
    induction unfolds with
    | nil => cases whole
    | consume terminal tail =>
        cases whole
        exact ⟨[_], _, rfl, .consume terminal .nil, tail⟩
    | optionNone tail =>
        cases whole
        exact ⟨[], _, rfl, .optionNone .nil, tail⟩
    | optionSome inner tail =>
        cases whole
        exact ⟨_ ++ [], _, by rw [List.append_nil], .optionSome inner .nil, tail⟩
    | manyEnd tail =>
        cases whole
        exact ⟨[], _, rfl, .manyEnd .nil, tail⟩
    | manyRound inner _ _ ih =>
        cases whole
        obtain ⟨rounds, second, rfl, more, tail⟩ := ih rfl
        exact ⟨_ ++ rounds, second, (List.append_assoc _ _ _).symm, .manyRound inner more, tail⟩
    | choice member inner tail =>
        cases whole
        exact ⟨_ ++ [], _, by rw [List.append_nil], .choice member inner .nil, tail⟩
    | subRule rule tail =>
        cases whole
        exact ⟨[_], _, rfl, .subRule rule .nil, tail⟩
    | group member tail =>
        cases whole
        exact ⟨[_], _, rfl, .group member .nil, tail⟩
  · rintro ⟨first, second, rfl, unfolds, tail⟩
    exact unfolds.append tail

theorem not_narrows_nil : ¬ grammar.Narrows [] id := by
  rintro ⟨_, unfolds, single⟩
  cases unfolds
  exact not_oneStays_nil single

theorem narrows_cons : grammar.Narrows (op :: rest) id ↔
    grammar.Narrows [op] id ∧ grammar.Matches rest [] ∨
      grammar.Matches [op] [] ∧ grammar.Narrows rest id := by
  simp only [← unfolds_fades_iff]
  constructor
  · rintro ⟨_, unfolds, single⟩
    obtain ⟨first, second, rfl, here, tail⟩ := unfolds_cons_iff.mp unfolds
    rcases oneStays_append.mp single with ⟨inFirst, fades⟩ | ⟨fades, inSecond⟩
    · exact .inl ⟨⟨first, here, inFirst⟩, second, tail, fades⟩
    · exact .inr ⟨⟨first, here, fades⟩, second, tail, inSecond⟩
  · rintro (⟨⟨first, here, single⟩, second, tail, fades⟩ |
      ⟨⟨first, here, fades⟩, second, tail, single⟩)
    · exact ⟨first ++ second, here.append tail, single.append_left fades⟩
    · exact ⟨first ++ second, here.append tail, single.append_right fades⟩

theorem not_narrows_consume (terminal : Terminal) : ¬ grammar.Narrows [.consume terminal] id := by
  rintro ⟨_, unfolds, single⟩
  cases unfolds with
  | consume _ tail =>
      cases tail
      cases oneStays_singleton.mp single

theorem not_narrows_group (name : String) (members : List Terminal) :
    ¬ grammar.Narrows [.group name members] id := by
  rintro ⟨_, unfolds, single⟩
  cases unfolds with
  | group _ tail =>
      cases tail
      cases oneStays_singleton.mp single

theorem narrows_subRule {other : RuleId} : grammar.Narrows [.subRule other] id ↔ other = id := by
  constructor
  · rintro ⟨_, unfolds, single⟩
    cases unfolds with
    | subRule _ tail =>
        cases tail
        cases oneStays_singleton.mp single
        rfl
  · rintro rfl
    exact ⟨_, .subRule other .nil, oneStays_singleton.mpr rfl⟩

theorem narrows_option : grammar.Narrows [.option body] id ↔ grammar.Narrows body id := by
  constructor
  · rintro ⟨_, unfolds, single⟩
    cases unfolds with
    | optionNone tail => exact absurd ⟨_, tail, single⟩ not_narrows_nil
    | optionSome inner tail =>
        cases tail
        rw [List.append_nil] at single
        exact ⟨_, inner, single⟩
  · rintro ⟨row, inner, single⟩
    exact ⟨row ++ [], .optionSome inner .nil, by rwa [List.append_nil]⟩

theorem narrows_many : grammar.Narrows [.many body] id ↔ grammar.Narrows body id := by
  constructor
  · rintro ⟨row, unfolds, single⟩
    generalize whole : [Op.many body] = ops at unfolds
    induction unfolds with
    | manyEnd tail =>
        cases whole
        exact absurd ⟨_, tail, single⟩ not_narrows_nil
    | manyRound inner _ _ ih =>
        cases whole
        rcases oneStays_append.mp single with ⟨here, _⟩ | ⟨_, later⟩
        · exact ⟨_, inner, here⟩
        · exact ih later rfl
    | _ => cases whole
  · rintro ⟨row, inner, single⟩
    exact ⟨row ++ [], .manyRound inner (.manyEnd .nil), by rwa [List.append_nil]⟩

theorem narrows_choice {alternatives : List (List Op)} :
    grammar.Narrows [.choice alternatives] id ↔
      ∃ alternative ∈ alternatives, grammar.Narrows alternative id := by
  constructor
  · rintro ⟨_, unfolds, single⟩
    cases unfolds with
    | choice member inner tail =>
        cases tail
        rw [List.append_nil] at single
        exact ⟨_, member, _, inner, single⟩
  · rintro ⟨alternative, member, row, inner, single⟩
    exact ⟨row ++ [], .choice member inner .nil, by rwa [List.append_nil]⟩

/-! ### The search -/

theorem bodyUnitTargets_false (rules : RuleId → Bool) (body : List Op) :
    bodyUnitTargets rules false body = [] := by
  induction body with
  | nil => rfl
  | cons op rest ih => simp [bodyUnitTargets, ih]

variable {rules : RuleId → Bool} {ids : OrderedSet RuleId}

mutual

theorem mem_opUnitTargets_iff (judges : grammar.Judges rules ids) :
    (op : Op) → (∀ other ∈ op.references, other ∈ ids) →
      (id ∈ op.unitTargets rules ↔ grammar.Narrows [op] id)
  | .consume terminal, _ => iff_of_false List.not_mem_nil (not_narrows_consume terminal)
  | .group name members, _ => iff_of_false List.not_mem_nil (not_narrows_group name members)
  | .subRule other, _ => by
      rw [narrows_subRule, eq_comm]
      exact List.mem_singleton
  | .option body, within => (mem_bodyUnitTargets_iff judges body within).trans narrows_option.symm
  | .many body, within => (mem_bodyUnitTargets_iff judges body within).trans narrows_many.symm
  | .choice alternatives, within =>
      (mem_choiceUnitTargets_iff judges alternatives within).trans narrows_choice.symm

theorem mem_bodyUnitTargets_iff (judges : grammar.Judges rules ids) :
    (body : List Op) → (∀ other ∈ bodyReferences body, other ∈ ids) →
      (id ∈ bodyUnitTargets rules true body ↔ grammar.Narrows body id)
  | [], _ => iff_of_false List.not_mem_nil not_narrows_nil
  | op :: rest, within => by
      obtain ⟨inOp, inRest⟩ := List.forall_mem_append.mp within
      have alone : ∀ other ∈ bodyReferences [op], other ∈ ids := by
        simpa [bodyReferences] using inOp
      have nullableOp : op.nullable rules = true ↔ grammar.Matches [op] [] := by
        rw [← judges [op] alone, bodyNullable, bodyNullable, Bool.and_true]
      rw [narrows_cons, ← judges rest inRest, ← nullableOp, ← mem_opUnitTargets_iff judges op inOp,
        ← mem_bodyUnitTargets_iff judges rest inRest, bodyUnitTargets, List.mem_append]
      cases op.nullable rules <;> cases bodyNullable rules rest <;>
        simp [bodyUnitTargets_false]

theorem mem_choiceUnitTargets_iff (judges : grammar.Judges rules ids) :
    (alternatives : List (List Op)) → (∀ other ∈ choiceReferences alternatives, other ∈ ids) →
      (id ∈ choiceUnitTargets rules alternatives ↔
        ∃ alternative ∈ alternatives, grammar.Narrows alternative id)
  | [], _ => by simp [choiceUnitTargets]
  | body :: rest, within => by
      obtain ⟨inBody, inRest⟩ := List.forall_mem_append.mp within
      rw [choiceUnitTargets, List.mem_append, mem_bodyUnitTargets_iff judges body inBody,
        mem_choiceUnitTargets_iff judges rest inRest, List.exists_mem_cons_iff]

end

end Grammar

end CanonicalLR
