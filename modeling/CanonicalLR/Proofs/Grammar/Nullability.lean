import CanonicalLR.Grammar.Validation
import CanonicalLR.Proofs.Grammar.Written
import CanonicalLR.Proofs.Grammar.Matching
import CanonicalLR.Proofs.Growth

namespace CanonicalLR

namespace Grammar

def Nullable (grammar : Grammar) (id : RuleId) : Prop :=
  ∃ body, grammar.bodyOf? id = some body ∧ grammar.Matches body []

def Judges (grammar : Grammar) (rules : RuleId → Bool) (ids : OrderedSet RuleId) : Prop :=
  ∀ body, (∀ id ∈ bodyReferences body, id ∈ ids) →
    (bodyNullable rules body = true ↔ grammar.Matches body [])

variable {grammar : Grammar} {body : List Op} {rules : RuleId → Bool}

/-! ### Judging a body by what is known of rules -/

mutual

theorem matches_of_opNullable (sound : ∀ id, rules id = true → grammar.Nullable id) :
    (op : Op) → op.nullable rules = true → grammar.Matches [op] []
  | .consume _, nullable | .group _ _, nullable => by cases nullable
  | .option _, _ => .optionNone .nil
  | .many _, _ => .manyEnd .nil
  | .subRule id, nullable => by
      obtain ⟨body, defined, nothing⟩ := sound id nullable
      exact .subRule defined nothing .nil
  | .choice alternatives, nullable => by
      obtain ⟨alternative, member, nothing⟩ := exists_of_choiceNullable sound alternatives nullable
      exact .choice member nothing .nil

theorem matches_of_bodyNullable (sound : ∀ id, rules id = true → grammar.Nullable id) :
    (body : List Op) → bodyNullable rules body = true → grammar.Matches body []
  | [], _ => .nil
  | op :: rest, nullable => by
      rw [bodyNullable, Bool.and_eq_true] at nullable
      exact (matches_of_opNullable sound op nullable.1).append
        (matches_of_bodyNullable sound rest nullable.2)

theorem exists_of_choiceNullable (sound : ∀ id, rules id = true → grammar.Nullable id) :
    (alternatives : List (List Op)) → choiceNullable rules alternatives = true →
      ∃ alternative ∈ alternatives, grammar.Matches alternative []
  | [], nullable => by cases nullable
  | body :: rest, nullable => by
      rw [choiceNullable, Bool.or_eq_true] at nullable
      rcases nullable with here | there
      · exact ⟨body, List.mem_cons_self, matches_of_bodyNullable sound body here⟩
      · obtain ⟨alternative, member, nothing⟩ := exists_of_choiceNullable sound rest there
        exact ⟨alternative, List.mem_cons_of_mem _ member, nothing⟩

end

theorem choiceNullable_of_mem {alternatives : List (List Op)} {alternative : List Op}
    (member : alternative ∈ alternatives) (nullable : bodyNullable rules alternative = true) :
    choiceNullable rules alternatives = true := by
  induction alternatives with
  | nil => cases member
  | cons head rest ih =>
      rw [choiceNullable, Bool.or_eq_true]
      rcases List.mem_cons.mp member with rfl | later
      · exact .inl nullable
      · exact .inr (ih later)

theorem bodyNullable_of_matches {ids : OrderedSet RuleId}
    (closed : ∀ id ∈ ids, ∀ other ∈ grammar.references id, other ∈ ids)
    (complete : ∀ id ∈ ids, ∀ body, grammar.bodyOf? id = some body →
      bodyNullable rules body = true → rules id = true)
    (nothing : grammar.Matches body []) (within : ∀ id ∈ bodyReferences body, id ∈ ids) :
    bodyNullable rules body = true := by
  generalize empty : ([] : List Terminal) = word at nothing
  induction nothing with
  | nil => rfl
  | consume => cases empty
  | group => cases empty
  | optionNone _ ih | manyEnd _ ih =>
      exact ih (fun id refers => within id (List.mem_append_right _ refers)) empty
  | optionSome _ _ _ ih =>
      obtain ⟨_, rest⟩ := List.append_eq_nil_iff.mp empty.symm
      exact ih (fun id refers => within id (List.mem_append_right _ refers)) rest.symm
  | manyRound _ _ _ ih =>
      obtain ⟨_, rest⟩ := List.append_eq_nil_iff.mp empty.symm
      exact ih within rest.symm
  | choice member _ _ ihInner ihTail =>
      obtain ⟨first, rest⟩ := List.append_eq_nil_iff.mp empty.symm
      have inside : ∀ id ∈ bodyReferences _, id ∈ ids := fun id refers => within id
        (List.mem_append_left _ (mem_choiceReferences.mpr ⟨_, member, refers⟩))
      rw [bodyNullable, Bool.and_eq_true]
      exact ⟨choiceNullable_of_mem member (ihInner inside first.symm),
        ihTail (fun id refers => within id (List.mem_append_right _ refers)) rest.symm⟩
  | @subRule id body _ _ _ defined _ _ ihInner ihTail =>
      obtain ⟨first, rest⟩ := List.append_eq_nil_iff.mp empty.symm
      have listed : id ∈ ids := within id List.mem_cons_self
      have inside : ∀ other ∈ bodyReferences body, other ∈ ids := by
        intro other refers
        apply closed id listed
        rw [references, defined]
        exact refers
      rw [bodyNullable, Bool.and_eq_true]
      exact ⟨complete id listed body defined (ihInner inside first.symm),
        ihTail (fun other refers => within other (List.mem_cons_of_mem _ refers)) rest.symm⟩

/-! ### The search -/

section Search

variable {ids known : OrderedSet RuleId} {id : RuleId}

def noteNullable (grammar : Grammar) (known : OrderedSet RuleId) (id : RuleId) :
    OrderedSet RuleId :=
  match grammar.bodyOf? id with
  | some body => if bodyNullable (· ∈ known) body then known.insert id else known
  | none => known

theorem nullableRules_eq (grammar : Grammar) (ids : OrderedSet RuleId) :
    grammar.nullableRules ids =
      settle (fun known => ids.members.foldl grammar.noteNullable known) (ids.size + 1) .empty :=
  rfl

theorem mem_noteNullable {other : RuleId} : other ∈ grammar.noteNullable known id ↔
    other ∈ known ∨ other = id ∧ ∃ body, grammar.bodyOf? id = some body ∧
      bodyNullable (· ∈ known) body = true := by
  unfold noteNullable
  cases grammar.bodyOf? id with
  | none => simp
  | some body =>
      by_cases nullable : bodyNullable (· ∈ known) body <;> simp [nullable, or_comm]

theorem subset_noteNullable (known : OrderedSet RuleId) (id : RuleId) :
    {other | other ∈ known} ⊆ {other | other ∈ grammar.noteNullable known id} :=
  fun _ old => mem_noteNullable.mpr (.inl old)

theorem nullable_of_mem_noteNullable (sound : ∀ other ∈ known, grammar.Nullable other)
    {other : RuleId} (member : other ∈ grammar.noteNullable known id) : grammar.Nullable other := by
  rcases mem_noteNullable.mp member with old | ⟨rfl, body, defined, nullable⟩
  · exact sound other old
  · exact ⟨body, defined, matches_of_bodyNullable (by simpa using sound) body nullable⟩

theorem mem_round {other : RuleId} {rules : List RuleId}
    (member : other ∈ rules.foldl grammar.noteNullable known) : other ∈ known ∨ other ∈ rules := by
  induction rules generalizing known with
  | nil => exact .inl member
  | cons id rest ih =>
      rcases ih member with earlier | later
      · rcases mem_noteNullable.mp earlier with old | ⟨rfl, _⟩
        · exact .inl old
        · exact .inr List.mem_cons_self
      · exact .inr (List.mem_cons_of_mem _ later)

theorem nullable_of_mem_round (sound : ∀ other ∈ known, grammar.Nullable other)
    {rules : List RuleId} :
    ∀ other ∈ rules.foldl grammar.noteNullable known, grammar.Nullable other := by
  induction rules generalizing known with
  | nil => exact sound
  | cons id rest ih => exact ih fun other => nullable_of_mem_noteNullable sound

theorem round_nullableRules (grammar : Grammar) (ids : OrderedSet RuleId) :
    ids.members.foldl grammar.noteNullable (grammar.nullableRules ids) =
      grammar.nullableRules ids := by
  rw [nullableRules_eq]
  have start : {other | other ∈ (.empty : OrderedSet RuleId)} ⊆
      (ids.members.toFinset : Set RuleId) :=
    fun other member => absurd member (OrderedSet.not_mem_empty other)
  apply grow_settle_of_facts OrderedSet.mem_injective
    (fun known => subset_foldl subset_noteNullable ids.members known) ids.members.toFinset _ start
    Set.subset_union_right
  · exact Nat.lt_succ_of_le (List.toFinset_card_le _)
  · intro known within other member
    rcases mem_round member with old | new
    · exact within old
    · exact List.mem_toFinset.mpr new

theorem noteNullable_nullableRules (listed : id ∈ ids) :
    grammar.noteNullable (grammar.nullableRules ids) id = grammar.nullableRules ids :=
  eq_self_of_foldl_eq_self OrderedSet.mem_injective subset_noteNullable
    (round_nullableRules grammar ids) id listed

theorem nullable_of_mem_nullableRules (member : id ∈ grammar.nullableRules ids) :
    id ∈ ids ∧ grammar.Nullable id := by
  revert id
  rw [nullableRules_eq]
  apply settle_induction (motive := fun known =>
    ∀ {id}, id ∈ known → id ∈ ids ∧ grammar.Nullable id)
  · intro known sound id member
    refine ⟨?_, nullable_of_mem_round (fun other old => (sound old).2) id member⟩
    rcases mem_round member with old | new
    · exact (sound old).1
    · exact new
  · intro id member
    exact absurd member (OrderedSet.not_mem_empty id)

variable (closed : ∀ id ∈ ids, ∀ other ∈ grammar.references id, other ∈ ids)
include closed

theorem judges_nullableRules : grammar.Judges (· ∈ grammar.nullableRules ids) ids := by
  intro body within
  constructor
  · apply matches_of_bodyNullable
    intro id member
    exact (nullable_of_mem_nullableRules (of_decide_eq_true member)).2
  · intro nothing
    apply bodyNullable_of_matches closed _ nothing within
    intro id listed body defined nullable
    rw [decide_eq_true_eq, ← noteNullable_nullableRules listed]
    exact mem_noteNullable.mpr (.inr ⟨rfl, body, defined, nullable⟩)

theorem mem_nullableRules : id ∈ grammar.nullableRules ids ↔ id ∈ ids ∧ grammar.Nullable id := by
  refine ⟨nullable_of_mem_nullableRules, ?_⟩
  rintro ⟨listed, body, defined, nothing⟩
  have within : ∀ other ∈ bodyReferences body, other ∈ ids := by
    intro other refers
    apply closed id listed
    rw [references, defined]
    exact refers
  rw [← noteNullable_nullableRules listed]
  exact mem_noteNullable.mpr
    (.inr ⟨rfl, body, defined, (judges_nullableRules closed body within).mpr nothing⟩)

end Search

end Grammar

end CanonicalLR
