import CanonicalLR.Proofs.Grammar.Narrowing
import Mathlib.Data.Nat.Find

namespace CanonicalLR

theorem reflTransGen_congr {α : Type} {first second : α → α → Prop} (holds : α → Prop)
    (keeps : ∀ a, holds a → ∀ b, first a b → holds b)
    (same : ∀ a, holds a → ∀ b, first a b ↔ second a b) {a b : α} (start : holds a) :
    Relation.ReflTransGen first a b ↔ Relation.ReflTransGen second a b := by
  constructor
  · intro path
    have both : holds b ∧ Relation.ReflTransGen second a b := by
      induction path with
      | refl => exact ⟨start, .refl⟩
      | tail _ next ih => exact ⟨keeps _ ih.1 _ next, ih.2.tail ((same _ ih.1 _).mp next)⟩
    exact both.2
  · intro path
    have both : holds b ∧ Relation.ReflTransGen first a b := by
      induction path with
      | refl => exact ⟨start, .refl⟩
      | tail _ next ih =>
          have back := (same _ ih.1 _).mpr next
          exact ⟨keeps _ ih.1 _ back, ih.2.tail back⟩
    exact both.2

theorem OrderedSet.findSome?_eq_some_iff {κ β : Type} [LT κ] [DecidableLT κ] [Key κ]
    {keys : OrderedSet κ} {look : κ → Option β} {shows : κ → Prop} {report : κ → β}
    (each : ∀ key ∈ keys, ∀ b, look key = some b ↔ shows key ∧ b = report key) {b : β} :
    keys.members.findSome? look = some b ↔
      ∃ key ∈ keys, shows key ∧ (∀ other ∈ keys, shows other → ¬ other < key) ∧ b = report key := by
  rw [List.findSome?_eq_some_iff]
  constructor
  · rintro ⟨before, key, after, split, found, none⟩
    have order := keys.increasing
    rw [split, List.pairwise_append, List.pairwise_cons] at order
    have listed : key ∈ keys := by
      rw [← mem_members, split]
      simp
    obtain ⟨here, same⟩ := (each key listed b).mp found
    refine ⟨key, listed, here, fun other present there less => ?_, same⟩
    rw [← mem_members, split, List.mem_append, List.mem_cons] at present
    rcases present with early | rfl | late
    · have found := (each other (mem_members.mp (by simp [split, early])) _).mpr ⟨there, rfl⟩
      rw [none other early] at found
      cases found
    · exact Key.irrefl _ less
    · exact Key.not_lt_of_lt less (order.2.1.1 other late)
  · rintro ⟨key, listed, here, least, same⟩
    obtain ⟨before, after, split⟩ := List.append_of_mem (mem_members.mpr listed)
    have order := keys.increasing
    rw [split, List.pairwise_append] at order
    refine ⟨before, key, after, split, (each key listed b).mpr ⟨here, same⟩, ?_⟩
    intro other early
    have present : other ∈ keys := mem_members.mp (by simp [split, early])
    cases found : look other with
    | none => rfl
    | some c =>
        have less := order.2.2 other early key List.mem_cons_self
        exact absurd less (least other present ((each other present c).mp found).1)

namespace Grammar

/-! ### Defects of rules -/

def Cites (grammar : Grammar) (id other : RuleId) : Prop :=
  ∃ body, grammar.bodyOf? id = some body ∧ Written (.subRule other) body

def Reaches (grammar : Grammar) : RuleId → RuleId → Prop :=
  Relation.ReflTransGen grammar.Cites

def Becomes (grammar : Grammar) (id other : RuleId) : Prop :=
  ∃ body, grammar.bodyOf? id = some body ∧ grammar.Narrows body other

/-- What can be wrong with a rule, in the order in which it is looked for. -/
inductive Defect where
  | undefined
  | emptyChoice
  | idleRepetition
  | unitCycle
deriving DecidableEq, Repr

def Defect.rank : Defect → Nat
  | .undefined => 0
  | .emptyChoice => 1
  | .idleRepetition => 2
  | .unitCycle => 3

def Defect.error (name : String) : Defect → ValidationError
  | .undefined => .undefined name
  | .emptyChoice => .emptyAlternation name
  | .idleRepetition => .nullableRepetition name
  | .unitCycle => .unitCycle name

def Shows (grammar : Grammar) (id : RuleId) : Defect → Prop
  | .undefined => grammar.bodyOf? id = none
  | .emptyChoice => ∃ body, grammar.bodyOf? id = some body ∧
      ∃ op, Written op body ∧ op.OffersNothing
  | .idleRepetition => ∃ body, grammar.bodyOf? id = some body ∧
      ∃ inner, Written (.many inner) body ∧ grammar.Matches inner []
  | .unitCycle => Relation.TransGen grammar.Becomes id id

/-- What is reported about a rule with a defect. -/
def complaint (grammar : Grammar) (id : RuleId) (defect : Defect) : ValidationError :=
  match grammar.get? id with
  | none => .unknownRule id
  | some rule => defect.error rule.name

/-- The first rule with a defect among those that the root reaches. -/
structure FirstShowing (grammar : Grammar) (root : RuleId) (defect : Defect) (id : RuleId) :
    Prop where
  reached : grammar.Reaches root id
  shows : grammar.Shows id defect
  least : ∀ other, grammar.Reaches root other → grammar.Shows other defect → id ≤ other

variable {grammar : Grammar} {root id other : RuleId} {body : List Op}

theorem mem_references_iff : other ∈ grammar.references id ↔ grammar.Cites id other := by
  rw [references, Cites]
  cases grammar.bodyOf? id <;> simp [mem_bodyReferences_iff]

theorem Cites.known (cites : grammar.Cites id other) : id < grammar.rules.size := by
  obtain ⟨_, defined, _⟩ := cites
  obtain ⟨_, found, _⟩ := bodyOf?_eq_some_iff.mp defined
  exact (Array.getElem?_eq_some_iff.mp found).1

theorem written_of_unfolds {row : List Constituent} (unfolds : Unfolds body row)
    (member : .rule id ∈ row) : Written (.subRule id) body := by
  rw [← mem_bodyReferences_iff]
  induction unfolds with
  | nil => cases member
  | consume _ _ ih | group _ _ ih =>
      rcases List.mem_cons.mp member with same | later
      · cases same
      · exact List.mem_append_right _ (ih later)
  | optionNone _ ih | manyEnd _ ih => exact List.mem_append_right _ (ih member)
  | optionSome _ _ ihInner ihTail =>
      rcases List.mem_append.mp member with inside | later
      · exact List.mem_append_left _ (ihInner inside)
      · exact List.mem_append_right _ (ihTail later)
  | manyRound _ _ ihInner ihTail =>
      rcases List.mem_append.mp member with inside | later
      · exact List.mem_append_left _ (ihInner inside)
      · exact ihTail later
  | choice listed _ _ ihInner ihTail =>
      rcases List.mem_append.mp member with inside | later
      · exact List.mem_append_left _ (mem_choiceReferences.mpr ⟨_, listed, ihInner inside⟩)
      · exact List.mem_append_right _ (ihTail later)
  | subRule _ _ ih =>
      rcases List.mem_cons.mp member with same | later
      · cases same
        exact List.mem_cons_self
      · exact List.mem_cons_of_mem _ (ih later)

theorem Becomes.cites (becomes : grammar.Becomes id other) : grammar.Cites id other := by
  obtain ⟨body, defined, row, unfolds, single⟩ := becomes
  obtain ⟨_, member, rfl⟩ := single.exists_mem
  exact ⟨body, defined, written_of_unfolds unfolds member⟩

/-! ### The searches -/

theorem mem_reachable : id ∈ grammar.reachable root ↔ grammar.Reaches root id := by
  let cited := (List.range grammar.rules.size).flatMap grammar.references
  have listed {key other : RuleId} (refers : other ∈ grammar.references key) : other ∈ cited :=
    List.mem_flatMap.mpr ⟨key, List.mem_range.mpr (mem_references_iff.mp refers).known, refers⟩
  rw [reachable, mem_settle_insertAll (insert root cited.toFinset) cited.toFinset]
  · simp only [List.mem_singleton, exists_eq_left, Reaches, mem_references_iff]
  · simp
  · intro key _ other refers
    exact Finset.mem_insert_of_mem (List.mem_toFinset.mpr (listed refers))
  · intro key member
    exact (Finset.mem_insert.mp member).imp_left List.mem_singleton.mpr
  · exact Nat.lt_succ_of_le (List.toFinset_card_le _)

theorem Reaches.of_mem_references (reached : grammar.Reaches root id)
    (defined : grammar.bodyOf? id = some body) :
    ∀ other ∈ bodyReferences body, grammar.Reaches root other :=
  fun _ refers => reached.tail ⟨body, defined, mem_bodyReferences_iff.mp refers⟩

theorem closed_reachable : ∀ id ∈ grammar.reachable root, ∀ other ∈ grammar.references id,
    other ∈ grammar.reachable root := by
  intro id member other refers
  rw [mem_reachable] at member ⊢
  exact member.tail (mem_references_iff.mp refers)

theorem bodyReferences_subset (reached : id ∈ grammar.reachable root)
    (defined : grammar.bodyOf? id = some body) :
    ∀ other ∈ bodyReferences body, other ∈ grammar.reachable root := by
  intro other refers
  apply closed_reachable id reached
  rw [references, defined]
  exact refers

theorem mem_unitTargets_iff (reached : id ∈ grammar.reachable root) :
    other ∈ grammar.unitTargets (grammar.nullableRules (grammar.reachable root)) id ↔
      grammar.Becomes id other := by
  rw [unitTargets, Becomes]
  cases defined : grammar.bodyOf? id with
  | none => simp
  | some body =>
      simp only [Option.some.injEq, exists_eq_left']
      exact mem_bodyUnitTargets_iff (judges_nullableRules closed_reachable) body
        (bodyReferences_subset reached defined)

theorem closed_unitTargets : ∀ key ∈ grammar.reachable root, ∀ other,
    other ∈ grammar.unitTargets (grammar.nullableRules (grammar.reachable root)) key →
      other ∈ grammar.reachable root := by
  intro key member other target
  have becomes := (mem_unitTargets_iff member).mp target
  exact closed_reachable key member other (mem_references_iff.mpr becomes.cites)

theorem derivesItself_iff_exists_path (reached : id ∈ grammar.reachable root) :
    grammar.derivesItself (grammar.reachable root)
        (grammar.nullableRules (grammar.reachable root)) id = true ↔
      ∃ first ∈ grammar.unitTargets (grammar.nullableRules (grammar.reachable root)) id,
        Relation.ReflTransGen (fun key other => other ∈
          grammar.unitTargets (grammar.nullableRules (grammar.reachable root)) key) first id := by
  rw [derivesItself, decide_eq_true_eq,
    mem_settle_insertAll (grammar.reachable root).members.toFinset
      (grammar.reachable root).members.toFinset]
  · exact fun key target => List.mem_toFinset.mpr (closed_unitTargets id reached key target)
  · intro key member other target
    exact List.mem_toFinset.mpr
      (closed_unitTargets key (List.mem_toFinset.mp member) other target)
  · exact fun key member => .inr member
  · exact Nat.lt_succ_of_le (List.toFinset_card_le _)

theorem derivesItself_iff (reached : id ∈ grammar.reachable root) :
    grammar.derivesItself (grammar.reachable root)
        (grammar.nullableRules (grammar.reachable root)) id = true ↔
      grammar.Shows id .unitCycle := by
  rw [derivesItself_iff_exists_path reached, Shows, Relation.TransGen.head'_iff]
  refine exists_congr fun first => ?_
  rw [mem_unitTargets_iff reached]
  refine and_congr_right fun becomes => ?_
  -- Targets are what a rule becomes only where nullability was looked for, and no path leaves it.
  exact reflTransGen_congr (· ∈ grammar.reachable root) closed_unitTargets
    (fun key member other => mem_unitTargets_iff member)
    (closed_reachable id reached first (mem_references_iff.mpr becomes.cites))

def search (grammar : Grammar) (root : RuleId) : Defect → Option ValidationError
  | .undefined => grammar.firstUndefined? (grammar.reachable root)
  | .emptyChoice => (grammar.firstWith? (grammar.reachable root) fun _ body =>
      bodyHasEmptyChoice body).map .emptyAlternation
  | .idleRepetition => (grammar.firstWith? (grammar.reachable root) fun _ body =>
      bodyRepeatsNothing (· ∈ grammar.nullableRules (grammar.reachable root)) body).map
        .nullableRepetition
  | .unitCycle => (grammar.firstWith? (grammar.reachable root) fun id _ =>
      grammar.derivesItself (grammar.reachable root)
        (grammar.nullableRules (grammar.reachable root)) id).map .unitCycle

theorem firstShowing_iff {defect : Defect} {error : ValidationError} :
    (∃ id ∈ grammar.reachable root, grammar.Shows id defect ∧
      (∀ other ∈ grammar.reachable root, grammar.Shows other defect → ¬ other < id) ∧
        error = grammar.complaint id defect) ↔
      ∃ id, grammar.FirstShowing root defect id ∧ error = grammar.complaint id defect := by
  simp only [mem_reachable, Nat.not_lt]
  constructor
  · rintro ⟨id, reached, shows, least, same⟩
    exact ⟨id, ⟨reached, shows, least⟩, same⟩
  · rintro ⟨id, first, same⟩
    exact ⟨id, first.reached, first.shows, first.least, same⟩

theorem firstUndefined?_eq_some_iff {error : ValidationError} :
    grammar.firstUndefined? (grammar.reachable root) = some error ↔
      ∃ id, grammar.FirstShowing root .undefined id ∧ error = grammar.complaint id .undefined := by
  rw [← firstShowing_iff, firstUndefined?]
  apply OrderedSet.findSome?_eq_some_iff
  intro id _ error
  rw [Shows, complaint, bodyOf?]
  cases grammar.get? id with
  | none => simp [eq_comm]
  | some rule => cases defined : rule.body <;> simp [Rule.isDefined, defined, Defect.error, eq_comm]

theorem firstWith?_eq_some_iff (defect : Defect) {holds : RuleId → List Op → Bool}
    (defined : ∀ id, grammar.Shows id defect → ∃ body, grammar.bodyOf? id = some body)
    (judges : ∀ id ∈ grammar.reachable root, ∀ body, grammar.bodyOf? id = some body →
      (holds id body = true ↔ grammar.Shows id defect))
    {error : ValidationError} :
    (grammar.firstWith? (grammar.reachable root) holds).map defect.error = some error ↔
      ∃ id, grammar.FirstShowing root defect id ∧ error = grammar.complaint id defect := by
  rw [← firstShowing_iff, firstWith?, List.map_findSome?]
  apply OrderedSet.findSome?_eq_some_iff
  intro id reached error
  cases hasBody : grammar.bodyOf? id with
  | none =>
      have absent : ¬ grammar.Shows id defect := fun shows => by
        obtain ⟨body, known⟩ := defined id shows
        rw [hasBody] at known
        cases known
      rw [bodyOf?] at hasBody
      cases found : grammar.get? id with
      | none => simp [found, absent]
      | some rule =>
          rw [found] at hasBody
          simp [found, show rule.body = none from hasBody, absent]
  | some body =>
      obtain ⟨rule, found, written⟩ := bodyOf?_eq_some_iff.mp hasBody
      rw [← judges id reached body hasBody, complaint, @eq_comm _ error]
      simp [found, written]

theorem search_eq_some_iff {defect : Defect} {error : ValidationError} :
    grammar.search root defect = some error ↔
      ∃ id, grammar.FirstShowing root defect id ∧ error = grammar.complaint id defect := by
  cases defect with
  | undefined => exact firstUndefined?_eq_some_iff
  | emptyChoice =>
      apply firstWith?_eq_some_iff .emptyChoice
      · exact fun id ⟨body, defined, _⟩ => ⟨body, defined⟩
      · intro id _ body defined
        simp only [Shows, defined, Option.some.injEq, exists_eq_left', bodyHasEmptyChoice_iff]
  | idleRepetition =>
      apply firstWith?_eq_some_iff .idleRepetition
      · exact fun id ⟨body, defined, _⟩ => ⟨body, defined⟩
      · intro id reached body defined
        simp only [Shows, defined, Option.some.injEq, exists_eq_left', bodyRepeatsNothing_iff]
        refine exists_congr fun inner => and_congr_right fun written => ?_
        apply judges_nullableRules closed_reachable
        intro other refers
        apply bodyReferences_subset reached defined
        rw [mem_bodyReferences_iff] at refers ⊢
        exact written.trans (.many inner) refers
  | unitCycle =>
      apply firstWith?_eq_some_iff .unitCycle
      · intro id cycle
        obtain ⟨_, ⟨body, defined, _⟩, _⟩ := Relation.TransGen.head'_iff.mp cycle
        exact ⟨body, defined⟩
      · exact fun id reached _ _ => derivesItself_iff reached

theorem search_eq_none_iff {defect : Defect} :
    grammar.search root defect = none ↔
      ∀ id, grammar.Reaches root id → ¬ grammar.Shows id defect := by
  constructor
  · intro none id reached shows
    classical
    have some : ∃ id, grammar.Reaches root id ∧ grammar.Shows id defect := ⟨id, reached, shows⟩
    have first : grammar.FirstShowing root defect (Nat.find some) :=
      ⟨(Nat.find_spec some).1, (Nat.find_spec some).2,
        fun other reached shows => Nat.find_min' some ⟨reached, shows⟩⟩
    have found := search_eq_some_iff.mpr ⟨Nat.find some, first, rfl⟩
    rw [none] at found
    cases found
  · intro absent
    cases found : grammar.search root defect with
    | none => rfl
    | some error =>
        obtain ⟨id, first, _⟩ := search_eq_some_iff.mp found
        exact absurd first.shows (absent id first.reached)

/-! ### Validation -/

theorem search_unknown (unknown : grammar.get? root = none) :
    grammar.search root .undefined = some (.unknownRule root) := by
  have undefined : grammar.bodyOf? root = none := by rw [bodyOf?, unknown]; rfl
  refine search_eq_some_iff.mpr ⟨root, ⟨.refl, undefined, fun other reached _ => ?_⟩, ?_⟩
  · rcases Relation.ReflTransGen.cases_head reached with rfl | ⟨_, ⟨_, defined, _⟩, _⟩
    · exact Nat.le_refl _
    · rw [undefined] at defined
      cases defined
  · rw [complaint, unknown]

theorem firstFault?_eq : grammar.firstFault? (grammar.reachable root) =
    (grammar.search root .emptyChoice).or
      ((grammar.search root .idleRepetition).or (grammar.search root .unitCycle)) := by
  simp only [firstFault?, Option.orElse_eq_orElse, Option.orElse_eq_or]
  rfl

def Defect.first? {ε : Type} (found : Defect → Option ε) : Option ε :=
  (found .undefined).or ((found .emptyChoice).or
    ((found .idleRepetition).or (found .unitCycle)))

theorem Defect.first?_eq_none_iff {ε : Type} {found : Defect → Option ε} :
    first? found = none ↔ ∀ defect, found defect = none := by
  constructor
  · intro none
    simp only [first?, Option.or_eq_none_iff] at none
    rintro (_ | _ | _ | _) <;> simp only [none]
  · intro none
    simp [first?, none]

theorem Defect.first?_eq_some_iff {ε : Type} {found : Defect → Option ε} {error : ε} :
    first? found = some error ↔
      ∃ defect, (∀ earlier : Defect, earlier.rank < defect.rank → found earlier = none) ∧
        found defect = some error := by
  simp only [first?, Option.or_eq_some_iff]
  constructor
  · rintro (here | ⟨none, here | ⟨none', here | ⟨none'', here⟩⟩⟩)
    · exact ⟨_, fun earlier less => absurd less (Nat.not_lt_zero _), here⟩
    · exact ⟨_, fun earlier less => by cases earlier <;> simp_all [rank], here⟩
    · exact ⟨_, fun earlier less => by cases earlier <;> simp_all [rank], here⟩
    · exact ⟨_, fun earlier less => by cases earlier <;> simp_all [rank], here⟩
  · rintro ⟨defect, none, here⟩
    cases defect with
    | undefined => exact .inl here
    | emptyChoice => exact .inr ⟨none .undefined (by decide), .inl here⟩
    | idleRepetition =>
        exact .inr ⟨none .undefined (by decide), .inr ⟨none .emptyChoice (by decide), .inl here⟩⟩
    | unitCycle =>
        exact .inr ⟨none .undefined (by decide), .inr ⟨none .emptyChoice (by decide),
          .inr ⟨none .idleRepetition (by decide), here⟩⟩⟩

theorem validate_fst (grammar : Grammar) (root : RuleId) :
    (grammar.validate root).1 =
      match Defect.first? (grammar.search root) with
      | some error => .error error
      | none => .ok () := by
  rw [validate, Defect.first?, ← firstFault?_eq]
  cases known : grammar.get? root with
  | none => simp [search_unknown known]
  | some rule =>
      rw [search]
      cases undefined : grammar.firstUndefined? (grammar.reachable root) with
      | some error => simp [undefined]
      | none =>
          cases fault : grammar.firstFault? (grammar.reachable root) <;> simp [undefined, fault]

theorem validate_ok_iff : (grammar.validate root).1 = .ok () ↔
    ∀ id, grammar.Reaches root id → ∀ defect, ¬ grammar.Shows id defect := by
  have passes : (grammar.validate root).1 = .ok () ↔
      ∀ defect, grammar.search root defect = none := by
    rw [validate_fst, ← Defect.first?_eq_none_iff]
    cases Defect.first? (grammar.search root) <;> simp
  simp only [passes, search_eq_none_iff]
  exact ⟨fun none id reached defect => none defect id reached,
    fun none defect id reached => none id reached defect⟩

theorem validate_error_iff {error : ValidationError} : (grammar.validate root).1 = .error error ↔
    ∃ defect, (∀ earlier : Defect, earlier.rank < defect.rank →
      ∀ id, grammar.Reaches root id → ¬ grammar.Shows id earlier) ∧
        ∃ id, grammar.FirstShowing root defect id ∧ error = grammar.complaint id defect := by
  have reports : (grammar.validate root).1 = .error error ↔
      Defect.first? (grammar.search root) = some error := by
    rw [validate_fst]
    cases Defect.first? (grammar.search root) <;> simp
  simp only [reports, Defect.first?_eq_some_iff, search_eq_none_iff, search_eq_some_iff]

theorem get?_isSome_of_validate (passed : (grammar.validate root).1 = .ok ()) :
    (grammar.get? root).isSome := by
  have defined := validate_ok_iff.mp passed root .refl .undefined
  cases found : grammar.get? root with
  | some rule => rfl
  | none =>
      refine absurd ?_ defined
      rw [Shows, bodyOf?, found]
      rfl

/-- A grammar passes from a root if the root is one of its rules and no rule that it reaches has a
defect. Otherwise the report is about the first of the defects that such a rule has, and about the
first rule that has it. -/
theorem validate_exact (grammar : Grammar) (root : RuleId) :
    ((grammar.validate root).1 = .ok () ↔ (grammar.get? root).isSome ∧
      ∀ id, grammar.Reaches root id → ∀ defect, ¬ grammar.Shows id defect) ∧
    ∀ error, (grammar.validate root).1 = .error error ↔
      ∃ defect, (∀ earlier : Defect, earlier.rank < defect.rank →
        ∀ id, grammar.Reaches root id → ¬ grammar.Shows id earlier) ∧
          ∃ id, grammar.FirstShowing root defect id ∧ error = grammar.complaint id defect := by
  refine ⟨⟨fun passed => ?_, fun ⟨_, sound⟩ => validate_ok_iff.mpr sound⟩,
    fun error => validate_error_iff⟩
  exact ⟨get?_isSome_of_validate passed, validate_ok_iff.mp passed⟩

end Grammar

end CanonicalLR
