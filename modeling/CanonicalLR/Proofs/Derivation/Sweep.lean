import CanonicalLR.Item.Loop
import CanonicalLR.Proofs.Derivation.First

namespace CanonicalLR

namespace FirstSets

variable {grammar : FlatGrammar} {sets more : FirstSets} {head : Nat} {body : List Symbol}
  {productions : List Production}

theorem exists_gained (gains : sets.gains head body = true) :
    ∃ fact ∈ facts (sets.add head body), fact ∉ facts sets := by
  rw [FirstSets.gains, Bool.or_eq_true, Bool.and_eq_true, Bool.not_eq_true', decide_eq_false_iff_not,
    decide_eq_true_eq] at gains
  rcases gains with ⟨absent, nullable⟩ | larger
  · exact ⟨(head, some none), mem_nullables_add.mpr (.inr ⟨rfl, nullable⟩), absent⟩
  · by_contra none
    push Not at none
    have same : (sets.add head body).first (.nonterminal head) = sets.first (.nonterminal head) := by
      apply OrderedSet.ext
      exact fun terminal => ⟨fun found => none (head, some (some terminal)) found,
        fun found => mem_first_add.mpr (.inl found)⟩
    rw [same] at larger
    exact Nat.lt_irrefl _ larger

def Agree (sets more : FirstSets) : Prop :=
  sets.nullables = more.nullables ∧
    ∀ head, sets.first (.nonterminal head) = more.first (.nonterminal head)

theorem Agree.symm (agree : Agree sets more) : Agree more sets :=
  ⟨agree.1.symm, fun head => (agree.2 head).symm⟩

theorem Agree.trans {most : FirstSets} (first : Agree sets more) (second : Agree more most) :
    Agree sets most :=
  ⟨first.1.trans second.1, fun head => (first.2 head).trans (second.2 head)⟩

theorem Agree.isNullable (agree : Agree sets more) (symbol : Symbol) :
    sets.isNullable symbol = more.isNullable symbol := by
  cases symbol with
  | terminal _ => rfl
  | nonterminal head => rw [Bool.eq_iff_iff, isNullable_nonterminal, isNullable_nonterminal, agree.1]

theorem Agree.sequenceNullable (agree : Agree sets more) (sequence : List Symbol) :
    sets.sequenceNullable sequence = more.sequenceNullable sequence := by
  simp only [FirstSets.sequenceNullable, funext agree.isNullable]

theorem Agree.firstOfSequence (agree : Agree sets more) (sequence : List Symbol) :
    sets.firstOfSequence sequence = more.firstOfSequence sequence := by
  induction sequence with
  | nil => rfl
  | cons symbol rest ih =>
      have first : sets.first symbol = more.first symbol := by
        cases symbol with
        | terminal _ => rfl
        | nonterminal head => exact agree.2 head
      simp only [FirstSets.firstOfSequence, ih, first, agree.isNullable]

theorem Agree.add (agree : Agree sets more) (head : Nat) (body : List Symbol) :
    Agree (sets.add head body) (more.add head body) := by
  have nullables : (sets.add head body).nullables = (more.add head body).nullables := by
    apply OrderedSet.ext
    intro other
    rw [mem_nullables_add, mem_nullables_add, agree.1, agree.sequenceNullable]
  have between : Agree (sets.withNullable head body) (more.withNullable head body) :=
    ⟨nullables, agree.2⟩
  refine ⟨nullables, fun other => OrderedSet.ext fun terminal => ?_⟩
  rw [mem_first_add, mem_first_add, agree.2, between.firstOfSequence]

theorem agree_add (still : sets.gains head body = false) : Agree (sets.add head body) sets := by
  rw [FirstSets.gains, Bool.or_eq_false_iff, Bool.and_eq_false_iff, Bool.not_eq_false',
    decide_eq_true_eq, decide_eq_false_iff_not] at still
  obtain ⟨known, noLarger⟩ := still
  refine ⟨OrderedSet.ext fun other => ?_, fun other => ?_⟩
  · rw [mem_nullables_add]
    apply or_iff_left_of_imp
    rintro ⟨rfl, nullable⟩
    rcases known with present | never
    · exact present
    · rw [nullable] at never
      cases never
  · by_cases same : other = head
    · subst same
      symm
      apply OrderedSet.eq_of_subset_of_size_le
      · exact fun terminal found => mem_first_add.mpr (.inl found)
      · exact Nat.le_of_not_lt noLarger
    · exact OrderedSet.ext fun terminal => by simp [mem_first_add, same]

theorem add_eq_self (agree : Agree (sets.add head body) sets)
    (entry : (sets.firsts.get? head).isSome = true) : sets.add head body = sets := by
  apply facts_injective
  ext ⟨other, _ | _ | terminal⟩
  · change ((sets.add head body).firsts.get? other).isSome = true ↔
      (sets.firsts.get? other).isSome = true
    by_cases same : other = head
    · subst same
      rw [get?_add_self]
      exact iff_of_true rfl entry
    · rw [get?_add_of_ne same]
  · change other ∈ (sets.add head body).nullables ↔ other ∈ sets.nullables
    rw [agree.1]
  · change terminal ∈ (sets.add head body).first (.nonterminal other) ↔
      terminal ∈ sets.first (.nonterminal other)
    rw [agree.2]

theorem sweep_fst (productions : List Production) (sets : FirstSets) :
    (sweep grammar productions sets).1 = productions.foldl (addProduction grammar) sets := by
  induction productions generalizing sets with
  | nil => rfl
  | cons production rest ih =>
      rw [List.foldl_cons, ← ih]
      simp only [sweep, addProduction]
      split <;> simp [*]

theorem exists_swept (changed : (sweep grammar productions sets).2 = true) :
    ∃ fact ∈ facts (sweep grammar productions sets).1, fact ∉ facts sets := by
  have grows (sets : FirstSets) (productions : List Production) :
      facts sets ⊆ facts (sweep grammar productions sets).1 := by
    rw [sweep_fst]
    exact subset_foldl facts_addProduction _ _
  induction productions generalizing sets with
  | nil => cases changed
  | cons production rest ih =>
      simp only [sweep] at changed ⊢
      split at changed
      · exact ih changed
      · rename_i head _
        rcases (Bool.or_eq_true _ _).mp changed with gains | later
        · obtain ⟨fact, found, new⟩ := exists_gained gains
          exact ⟨fact, grows _ rest found, new⟩
        · obtain ⟨fact, found, new⟩ := ih later
          exact ⟨fact, found, fun old => new (facts_add _ _ old)⟩

theorem add_sweep (still : (sweep grammar productions sets).2 = false) :
    Agree (sweep grammar productions sets).1 sets ∧ ∀ production ∈ productions, ∀ head,
      grammar.headIndex? production.head = some head →
        Agree (sets.add head production.body) sets ∧
          ((sweep grammar productions sets).1.firsts.get? head).isSome = true := by
  induction productions generalizing sets with
  | nil => exact ⟨⟨rfl, fun _ => rfl⟩, nofun⟩
  | cons production rest ih =>
      simp only [sweep] at still ⊢
      split at still
      · rename_i unknown
        obtain ⟨agree, later⟩ := ih still
        refine ⟨agree, fun other member head owner => ?_⟩
        rcases List.mem_cons.mp member with rfl | within
        · rw [unknown] at owner
          cases owner
        · exact later other within head owner
      · rename_i head known
        obtain ⟨noGain, stillLater⟩ := (Bool.or_eq_false_iff).mp still
        have agreeHere := agree_add noGain
        obtain ⟨agree, later⟩ := ih stillLater
        refine ⟨agree.trans agreeHere, fun other member owner found => ?_⟩
        rcases List.mem_cons.mp member with rfl | within
        · rw [known] at found
          cases found
          refine ⟨agreeHere, ?_⟩
          have entry : (head, none) ∈ facts (sets.add head other.body) := by
            change ((sets.add head other.body).firsts.get? head).isSome = true
            rw [get?_add_self, Option.isSome_some]
          rw [sweep_fst]
          exact subset_foldl facts_addProduction rest _ entry
        · obtain ⟨agreeOther, entry⟩ := later other within owner found
          exact ⟨((agreeHere.symm.add _ _).trans agreeOther).trans agreeHere, entry⟩

theorem addAll_sweep (still : (sweep grammar grammar.productions.toList sets).2 = false) :
    addAll grammar (addAll grammar sets) = addAll grammar sets := by
  obtain ⟨agree, each⟩ := add_sweep still
  rw [sweep_fst, ← addAll_eq] at agree each
  rw [addAll_eq]
  apply List.foldlRecOn (motive := (· = addAll grammar sets)) _ _ rfl
  rintro _ rfl production member
  unfold addProduction
  split
  · rename_i head owner
    obtain ⟨agreeAdded, entry⟩ := each production member head owner
    exact add_eq_self (((agree.add _ _).trans agreeAdded).trans agree.symm) entry
  · rfl

theorem exists_repeatWhile_sweep (grammar : FlatGrammar) :
    ∃ rounds, repeatWhile (sweep grammar grammar.productions.toList) rounds {} =
      some (compute grammar) := by
  classical
  have swept (sets : FirstSets) :
      (sweep grammar grammar.productions.toList sets).1 = addAll grammar sets := by
    rw [sweep_fst, ← addAll_eq]
  obtain ⟨rounds, before, ended, ⟨_, count, rfl⟩, still⟩ :=
    exists_repeatWhile (sweep grammar grammar.productions.toList)
      (fun sets => facts sets ⊆ allFacts grammar ∧ ∃ count, sets = (addAll grammar)^[count] {})
      (fun sets => ((allFacts grammar).filter (· ∉ facts sets)).card)
      (by
        rintro _ ⟨within, count, rfl⟩
        rw [swept]
        exact ⟨facts_addAll_subset within, count + 1, by rw [Function.iterate_succ_apply']⟩)
      (by
        rintro sets ⟨within, _⟩ changed
        obtain ⟨fact, found, new⟩ := exists_swept changed
        rw [swept] at found ⊢
        exact card_missing_lt (facts_addAll sets) (facts_addAll_subset within found) found new)
      ⟨facts_empty_subset, 0, rfl⟩
  refine ⟨rounds, ended.trans (congrArg some ?_)⟩
  rw [swept]
  -- The loop stops after `count + 1` rounds, `compute` after a number that is given: both are iterates
  -- of `addAll` at rest, so they are the same.
  have restHere := addAll_sweep still
  obtain ⟨total, computed⟩ := exists_settle_eq_iterate (addAll grammar)
    (grammar.productions.size * (bodySymbols grammar + 2) + 1) {}
  have restThere : addAll grammar (compute grammar) = compute grammar := addAll_compute
  rw [compute_eq_settle, computed] at restThere ⊢
  rw [← Function.iterate_succ_apply' (addAll grammar) count] at restHere ⊢
  exact iterate_eq_of_rest restHere restThere

end FirstSets

end CanonicalLR
