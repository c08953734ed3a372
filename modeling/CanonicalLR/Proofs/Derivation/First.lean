import CanonicalLR.Proofs.Derivation.Basic
import CanonicalLR.Proofs.Derivation.FirstTable
import CanonicalLR.Proofs.Growth
import Mathlib.Data.Finset.Prod
import Mathlib.Data.Finset.Option

namespace CanonicalLR

namespace FlatGrammar

def Vanishes (grammar : FlatGrammar) (symbols : List Symbol) : Prop :=
  ∃ trees, grammar.Derives symbols trees ∧ forestLeaves trees = []

/-- The terminals that symbols can begin with once nonterminals at the front have been expanded.
What stands behind the terminal need not derive anything. -/
inductive Begins (grammar : FlatGrammar) : List Symbol → Terminal → Prop where
  | terminal (terminal : Terminal) (rest : List Symbol) :
      Begins grammar (.terminal terminal :: rest) terminal
  | nonterminal {head : Nat} {production : Production} {rest : List Symbol} {terminal : Terminal}
      (produces : grammar.HasProduction head production)
      (inner : Begins grammar production.body terminal) :
      Begins grammar (.nonterminal head :: rest) terminal
  | skip {head : Nat} {rest : List Symbol} {terminal : Terminal}
      (vanishes : grammar.Vanishes [.nonterminal head]) (tail : Begins grammar rest terminal) :
      Begins grammar (.nonterminal head :: rest) terminal

variable {grammar : FlatGrammar}

theorem vanishes_nil : grammar.Vanishes [] :=
  ⟨[], .nil, rfl⟩

theorem Vanishes.append {front rest : List Symbol} (first : grammar.Vanishes front)
    (second : grammar.Vanishes rest) : grammar.Vanishes (front ++ rest) := by
  obtain ⟨trees, derives, leaves⟩ := first
  obtain ⟨more, derivesRest, leavesRest⟩ := second
  refine ⟨trees ++ more, derives.append derivesRest, ?_⟩
  rw [forestLeaves_append, leaves, leavesRest, List.append_nil]

theorem Vanishes.of_production {head : Nat} {production : Production}
    (produces : grammar.HasProduction head production)
    (inner : grammar.Vanishes production.body) : grammar.Vanishes [.nonterminal head] := by
  obtain ⟨trees, derives, leaves⟩ := inner
  refine ⟨[.node production.head trees], .nonterminal produces derives .nil, ?_⟩
  rw [forestLeaves_singleton, Tree.leaves, leaves]

theorem Derives.begins {symbols : List Symbol} {trees : List Tree} {token : Token}
    {more : List Token} (derives : grammar.Derives symbols trees)
    (leaves : forestLeaves trees = token :: more) : grammar.Begins symbols token.kind := by
  induction derives generalizing more with
  | nil => simp [forestLeaves] at leaves
  | terminal found _ _ =>
      simp only [forestLeaves, Tree.leaves, List.cons_append, List.cons.injEq] at leaves
      rw [← leaves.1]
      exact .terminal _ _
  | @nonterminal head production children rest trees produces inner _ ihInner ihTail =>
      rw [forestLeaves, Tree.leaves] at leaves
      cases within : forestLeaves children with
      | nil =>
          rw [within, List.nil_append] at leaves
          exact .skip (.of_production produces ⟨children, inner, within⟩) (ihTail leaves)
      | cons first others =>
          rw [within, List.cons_append, List.cons.injEq] at leaves
          rw [leaves.1] at within
          exact .nonterminal produces (ihInner within)

end FlatGrammar

namespace FirstSets
open FlatGrammar

variable {grammar : FlatGrammar} {sets : FirstSets}

theorem mem_firstOfSequence_cons {symbol : Symbol} {rest : List Symbol} {terminal : Terminal} :
    terminal ∈ sets.firstOfSequence (symbol :: rest) ↔
      terminal ∈ sets.first symbol ∨
        sets.isNullable symbol = true ∧ terminal ∈ sets.firstOfSequence rest := by
  simp only [firstOfSequence]
  split <;> simp_all

theorem mem_first_terminal {terminal other : Terminal} :
    other ∈ sets.first (.terminal terminal) ↔ other = terminal := by
  simp [first]

theorem isNullable_nonterminal {head : Nat} :
    sets.isNullable (.nonterminal head) = true ↔ head ∈ sets.nullables := by
  simp [isNullable]

/-! ### What one production adds -/

theorem mem_nullables_add {head other : Nat} {body : List Symbol} :
    other ∈ (sets.add head body).nullables ↔
      other ∈ sets.nullables ∨ other = head ∧ sets.sequenceNullable body = true := by
  simp only [add]
  split
  · rename_i nullable
    simp [nullable, or_comm]
  · rename_i nullable
    simp [nullable]

def withNullable (sets : FirstSets) (head : Nat) (body : List Symbol) : FirstSets :=
  { sets with nullables := (sets.add head body).nullables }

theorem get?_add_self {head : Nat} {body : List Symbol} :
    (sets.add head body).firsts.get? head =
      some (((sets.firsts.get? head).getD .empty).union
        ((sets.withNullable head body).firstOfSequence body)) := by
  simp only [add, withNullable, OrderedMap.get?_alter_self]

theorem get?_add_of_ne {head other : Nat} (differ : other ≠ head) (body : List Symbol) :
    (sets.add head body).firsts.get? other = sets.firsts.get? other := by
  simp only [add]
  exact OrderedMap.get?_alter_of_ne _ differ _

theorem mem_first_add {head other : Nat} {body : List Symbol} {terminal : Terminal} :
    terminal ∈ (sets.add head body).first (.nonterminal other) ↔
      terminal ∈ sets.first (.nonterminal other) ∨
        other = head ∧ terminal ∈ (sets.withNullable head body).firstOfSequence body := by
  simp only [first]
  by_cases same : other = head
  · subst same
    rw [get?_add_self]
    simp
  · rw [get?_add_of_ne same]
    simp [same]

/-! ### Growth -/

def facts (sets : FirstSets) : Set (Nat × Option (Option Terminal)) :=
  {fact | match fact.2 with
    | none => (sets.firsts.get? fact.1).isSome = true
    | some none => fact.1 ∈ sets.nullables
    | some (some terminal) => terminal ∈ sets.first (.nonterminal fact.1)}

theorem facts_injective : Function.Injective facts := by
  intro a b same
  have agree (fact : Nat × Option (Option Terminal)) : fact ∈ facts a ↔ fact ∈ facts b := by
    rw [same]
  obtain ⟨nullablesA, firstsA⟩ := a
  obtain ⟨nullablesB, firstsB⟩ := b
  congr 1
  · exact OrderedSet.ext fun head => agree (head, some none)
  · apply OrderedMap.ext_get?
    intro head
    have present := agree (head, none)
    have members (terminal : Terminal) := agree (head, some (some terminal))
    simp only [facts, first, Set.mem_ofPred_eq] at present members
    cases foundA : firstsA.get? head with
    | none => cases foundB : firstsB.get? head <;> simp_all
    | some setA =>
        cases foundB : firstsB.get? head with
        | none => simp_all
        | some setB =>
            simp only [foundA, foundB, Option.getD_some] at members
            exact congrArg some (OrderedSet.ext members)

theorem facts_add (head : Nat) (body : List Symbol) : facts sets ⊆ facts (sets.add head body) := by
  rintro ⟨other, _ | _ | terminal⟩ present
  · change (sets.firsts.get? other).isSome = true at present
    change ((sets.add head body).firsts.get? other).isSome = true
    by_cases same : other = head
    · subst same
      rw [get?_add_self, Option.isSome_some]
    · rwa [get?_add_of_ne same]
  · exact mem_nullables_add.mpr (.inl present)
  · exact mem_first_add.mpr (.inl present)

def addProduction (grammar : FlatGrammar) (sets : FirstSets) (production : Production) :
    FirstSets :=
  match grammar.headIndex? production.head with
  | some head => sets.add head production.body
  | none => sets

theorem addAll_eq : addAll grammar sets =
    grammar.productions.toList.foldl (addProduction grammar) sets := rfl

theorem facts_addProduction (sets : FirstSets) (production : Production) :
    facts sets ⊆ facts (addProduction grammar sets production) := by
  unfold addProduction
  split
  · exact facts_add _ _
  · exact subset_rfl

theorem addProduction_induction {motive : FirstSets → Prop}
    (step : ∀ sets head production, grammar.HasProduction head production → motive sets →
      motive (sets.add head production.body))
    (start : motive sets) : motive (addAll grammar sets) := by
  rw [addAll_eq]
  apply List.foldlRecOn _ _ start
  intro sets holds production member
  unfold addProduction
  split
  · rename_i head found
    exact step sets head production ⟨by simpa using member, found⟩ holds
  · exact holds

/-! ### The rounds are enough -/

def mark : Symbol → Option (Option Terminal)
  | .terminal terminal => some (some terminal)
  | .nonterminal _ => some none

def allFacts (grammar : FlatGrammar) : Finset (Nat × Option (Option Terminal)) :=
  (grammar.productions.toList.filterMap fun production =>
      grammar.headIndex? production.head).toFinset ×ˢ
    insert none (insert (some none)
      ((grammar.productions.toList.flatMap (·.body)).toFinset.image mark))

theorem card_allFacts :
    (allFacts grammar).card ≤ grammar.productions.size * (bodySymbols grammar + 2) := by
  rw [allFacts, Finset.card_product]
  apply Nat.mul_le_mul
  · calc
      _ ≤ _ := List.toFinset_card_le _
      _ ≤ grammar.productions.toList.length := List.length_filterMap_le _ _
      _ = _ := Array.length_toList
  · have symbols : ((grammar.productions.toList.flatMap (·.body)).toFinset.image mark).card ≤
        bodySymbols grammar := Finset.card_image_le.trans (List.toFinset_card_le _)
    have first := Finset.card_insert_le none (insert (some none)
      ((grammar.productions.toList.flatMap (·.body)).toFinset.image mark))
    have second := Finset.card_insert_le (some none)
      ((grammar.productions.toList.flatMap (·.body)).toFinset.image mark)
    omega

theorem head_mem {head : Nat} {production : Production}
    (produces : grammar.HasProduction head production) :
    head ∈ (grammar.productions.toList.filterMap fun production =>
      grammar.headIndex? production.head).toFinset := by
  simp only [List.mem_toFinset, List.mem_filterMap]
  exact ⟨production, by simpa using produces.1, produces.2⟩

theorem mem_firstOfSequence_cases {symbols : List Symbol} {terminal : Terminal}
    (member : terminal ∈ sets.firstOfSequence symbols) :
    .terminal terminal ∈ symbols ∨
      ∃ head, .nonterminal head ∈ symbols ∧ terminal ∈ sets.first (.nonterminal head) := by
  induction symbols with
  | nil => simp [firstOfSequence] at member
  | cons symbol rest ih =>
      rcases mem_firstOfSequence_cons.mp member with here | ⟨_, later⟩
      · cases symbol with
        | terminal other =>
            rw [mem_first_terminal] at here
            exact .inl (by simp [here])
        | nonterminal head => exact .inr ⟨head, by simp, here⟩
      · rcases ih later with within | ⟨head, within, found⟩
        · exact .inl (List.mem_cons_of_mem _ within)
        · exact .inr ⟨head, List.mem_cons_of_mem _ within, found⟩

theorem facts_addAll_subset {sets : FirstSets} (within : facts sets ⊆ allFacts grammar) :
    facts (addAll grammar sets) ⊆ allFacts grammar := by
  apply addProduction_induction (motive := fun sets => facts sets ⊆ allFacts grammar) _ within
  rintro sets head production produces within ⟨other, kind⟩ present
  have heads := head_mem produces
  have listed {kind : Option (Option Terminal)} (same : other = head)
      (candidate : kind ∈ insert none (insert (some none)
        ((grammar.productions.toList.flatMap (·.body)).toFinset.image mark))) :
      (other, kind) ∈ (allFacts grammar : Set _) := by
    rw [Finset.mem_coe, allFacts, Finset.mem_product]
    exact ⟨same ▸ heads, candidate⟩
  rcases kind with _ | _ | terminal
  · by_cases same : other = head
    · exact listed same (by simp)
    · apply within
      change (sets.firsts.get? other).isSome = true
      rw [← get?_add_of_ne same production.body]
      exact present
  · rcases mem_nullables_add.mp present with old | ⟨same, _⟩
    · exact within old
    · exact listed same (by simp)
  · rcases mem_first_add.mp present with old | ⟨same, found⟩
    · exact within old
    · apply listed same
      rcases mem_firstOfSequence_cases found with occurs | ⟨inner, _, old⟩
      · simp only [Finset.mem_insert, Finset.mem_image, List.mem_toFinset, List.mem_flatMap]
        exact .inr (.inr ⟨.terminal terminal, ⟨production, by simpa using produces.1, occurs⟩, rfl⟩)
      · have earlier := within (show (inner, some (some terminal)) ∈ facts sets from old)
        rw [Finset.mem_coe, allFacts, Finset.mem_product] at earlier
        exact earlier.2

theorem facts_empty_subset : facts {} ⊆ allFacts grammar := by
  rintro ⟨head, _ | _ | terminal⟩ present
  · exact absurd (show (none : Option (OrderedSet Terminal)).isSome = true from present) nofun
  · exact absurd present (OrderedSet.not_mem_empty head)
  · exact absurd present (OrderedSet.not_mem_empty terminal)

theorem facts_addAll (sets : FirstSets) : facts sets ⊆ facts (addAll grammar sets) := by
  rw [addAll_eq]
  exact subset_foldl facts_addProduction _ _

theorem addAll_compute : addAll grammar (compute grammar) = compute grammar := by
  rw [compute_eq_settle]
  exact grow_settle_of_facts facts_injective facts_addAll _ (fun _ => facts_addAll_subset)
    facts_empty_subset Set.subset_union_right (Nat.lt_succ_of_le card_allFacts)

theorem add_compute {head : Nat} {production : Production}
    (produces : grammar.HasProduction head production) :
    (compute grammar).add head production.body = compute grammar := by
  have rest : addAll grammar (compute grammar) = compute grammar := addAll_compute
  rw [addAll_eq] at rest
  have still := eq_self_of_foldl_eq_self facts_injective facts_addProduction rest production
    (by simpa using produces.1)
  simpa only [addProduction, produces.2] using still

/-! ### Exactness -/

structure Sound (grammar : FlatGrammar) (sets : FirstSets) : Prop where
  nullables : ∀ head ∈ sets.nullables, grammar.Vanishes [.nonterminal head]
  firsts : ∀ head, ∀ terminal ∈ sets.first (.nonterminal head),
    grammar.Begins [.nonterminal head] terminal

theorem Sound.vanishes (sound : Sound grammar sets) {symbols : List Symbol}
    (nullable : sets.sequenceNullable symbols = true) : grammar.Vanishes symbols := by
  induction symbols with
  | nil => exact vanishes_nil
  | cons symbol rest ih =>
      simp only [sequenceNullable, List.all_cons, Bool.and_eq_true] at nullable
      cases symbol with
      | terminal terminal => simp [isNullable] at nullable
      | nonterminal head =>
          have first := sound.nullables head (isNullable_nonterminal.mp nullable.1)
          exact first.append (ih nullable.2)

theorem Sound.begins (sound : Sound grammar sets) {symbols : List Symbol} {terminal : Terminal}
    (member : terminal ∈ sets.firstOfSequence symbols) : grammar.Begins symbols terminal := by
  induction symbols with
  | nil => exact absurd member (OrderedSet.not_mem_empty terminal)
  | cons symbol rest ih =>
      rcases mem_firstOfSequence_cons.mp member with here | ⟨nullable, later⟩
      · cases symbol with
        | terminal other =>
            rw [mem_first_terminal] at here
            rw [here]
            exact .terminal _ _
        | nonterminal head =>
            cases sound.firsts head terminal here with
            | nonterminal produces inner => exact .nonterminal produces inner
            | skip _ tail => cases tail
      · cases symbol with
        | terminal other => simp [isNullable] at nullable
        | nonterminal head =>
            exact .skip (sound.nullables head (isNullable_nonterminal.mp nullable)) (ih later)

theorem sound_add {head : Nat} {production : Production} (sound : Sound grammar sets)
    (produces : grammar.HasProduction head production) :
    Sound grammar (sets.add head production.body) := by
  have nullables : ∀ other ∈ (sets.add head production.body).nullables,
      grammar.Vanishes [.nonterminal other] := by
    intro other member
    rcases mem_nullables_add.mp member with old | ⟨rfl, nullable⟩
    · exact sound.nullables other old
    · exact .of_production produces (sound.vanishes nullable)
  have between : Sound grammar (sets.withNullable head production.body) :=
    ⟨nullables, sound.firsts⟩
  refine ⟨nullables, fun other terminal member => ?_⟩
  rcases mem_first_add.mp member with old | ⟨rfl, found⟩
  · exact sound.firsts other terminal old
  · exact .nonterminal produces (between.begins found)

theorem sound_compute : Sound grammar (compute grammar) := by
  rw [compute_eq_settle]
  apply settle_induction (motive := Sound grammar)
  · intro sets sound
    exact addProduction_induction (fun _ _ _ produces sound => sound_add sound produces) sound
  · exact ⟨fun head member => absurd member (OrderedSet.not_mem_empty head),
      fun _ terminal member => absurd member (OrderedSet.not_mem_empty terminal)⟩

theorem nullable_of_production {head : Nat} {production : Production}
    (produces : grammar.HasProduction head production)
    (nullable : (compute grammar).sequenceNullable production.body = true) :
    head ∈ (compute grammar).nullables := by
  rw [← add_compute produces]
  exact mem_nullables_add.mpr (.inr ⟨rfl, nullable⟩)

theorem first_of_production {head : Nat} {production : Production} {terminal : Terminal}
    (produces : grammar.HasProduction head production)
    (member : terminal ∈ (compute grammar).firstOfSequence production.body) :
    terminal ∈ (compute grammar).first (.nonterminal head) := by
  have same : (compute grammar).withNullable head production.body = compute grammar := by
    rw [withNullable, add_compute produces]
  rw [← add_compute produces]
  exact mem_first_add.mpr (.inr ⟨rfl, by rwa [same]⟩)

theorem sequenceNullable_of_derives {symbols : List Symbol} {trees : List Tree}
    (derives : grammar.Derives symbols trees) (leaves : forestLeaves trees = []) :
    (compute grammar).sequenceNullable symbols = true := by
  induction derives with
  | nil => rfl
  | terminal token _ _ => simp [forestLeaves, Tree.leaves] at leaves
  | nonterminal produces _ _ ihInner ihTail =>
      simp only [forestLeaves, Tree.leaves, List.append_eq_nil_iff] at leaves
      simp only [sequenceNullable, List.all_cons, Bool.and_eq_true]
      constructor
      · exact isNullable_nonterminal.mpr (nullable_of_production produces (ihInner leaves.1))
      · exact ihTail leaves.2

theorem sequenceNullable_iff {symbols : List Symbol} :
    (compute grammar).sequenceNullable symbols = true ↔ grammar.Vanishes symbols :=
  ⟨sound_compute.vanishes, fun ⟨_, derives, leaves⟩ => sequenceNullable_of_derives derives leaves⟩

theorem mem_firstOfSequence_iff {symbols : List Symbol} {terminal : Terminal} :
    terminal ∈ (compute grammar).firstOfSequence symbols ↔ grammar.Begins symbols terminal := by
  constructor
  · exact sound_compute.begins
  · intro begins
    induction begins with
    | terminal terminal rest =>
        exact mem_firstOfSequence_cons.mpr (.inl (mem_first_terminal.mpr rfl))
    | nonterminal produces _ ih =>
        exact mem_firstOfSequence_cons.mpr (.inl (first_of_production produces ih))
    | skip vanishes _ ih =>
        have nullable := sequenceNullable_iff.mpr vanishes
        simp only [sequenceNullable, List.all_cons, List.all_nil, Bool.and_true] at nullable
        exact mem_firstOfSequence_cons.mpr (.inr ⟨nullable, ih⟩)

end FirstSets

end CanonicalLR
