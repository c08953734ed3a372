import CanonicalLR.Fixpoint
import CanonicalLR.Ordered.Set
import Mathlib.Data.Finset.Card
import Mathlib.Data.List.Perm.Subperm
import Mathlib.Data.Set.Basic
import Mathlib.Logic.Function.Iterate
import Mathlib.Logic.Relation

/-!
Values that grow by collecting facts. A value is known by its facts, growing only adds facts, and
the facts that can be added are among finitely many. `grow_settle_of_facts` says that the value then
comes to rest, `eq_self_of_foldl_eq_self` that no part of a growth adds anything to a value at rest.
-/

namespace CanonicalLR

variable {α β φ : Type}

theorem subset_foldl {facts : α → Set φ} {step : α → β → α}
    (adds : ∀ a b, facts a ⊆ facts (step a b)) (bs : List β) (a : α) :
    facts a ⊆ facts (bs.foldl step a) := by
  induction bs generalizing a with
  | nil => exact subset_rfl
  | cons b bs ih => exact (adds a b).trans (ih (step a b))

theorem mem_foldl_iff {facts : α → Set φ} {step : α → β → α} (adds : β → φ → Prop)
    (each : ∀ a b fact, fact ∈ facts (step a b) ↔ fact ∈ facts a ∨ adds b fact) {bs : List β}
    {a : α} {fact : φ} :
    fact ∈ facts (bs.foldl step a) ↔ fact ∈ facts a ∨ ∃ b ∈ bs, adds b fact := by
  induction bs generalizing a with
  | nil => simp
  | cons b bs ih => rw [List.foldl_cons, ih, each, List.exists_mem_cons_iff, or_assoc]

theorem eq_self_of_foldl_eq_self {facts : α → Set φ} (known : Function.Injective facts)
    {step : α → β → α} (adds : ∀ a b, facts a ⊆ facts (step a b)) {bs : List β} {a : α}
    (rest : bs.foldl step a = a) : ∀ b ∈ bs, step a b = a := by
  induction bs with
  | nil => simp
  | cons b bs ih =>
      have still : step a b = a := by
        apply known
        apply Set.Subset.antisymm _ (adds a b)
        have later := subset_foldl adds bs (step a b)
        rw [List.foldl_cons] at rest
        rwa [rest] at later
      have restLater : bs.foldl step a = a := by
        rw [List.foldl_cons, still] at rest
        exact rest
      intro other member
      rcases List.mem_cons.mp member with rfl | later
      · exact still
      · exact ih restLater other later

theorem card_missing_lt {bound : Finset φ} {old more : Set φ} [DecidablePred (· ∉ old)]
    [DecidablePred (· ∉ more)] (grows : old ⊆ more) {fact : φ} (listed : fact ∈ bound)
    (found : fact ∈ more) (new : fact ∉ old) :
    (bound.filter (· ∉ more)).card < (bound.filter (· ∉ old)).card := by
  apply Finset.card_lt_card
  apply (Finset.ssubset_iff_of_subset _).mpr
  · refine ⟨fact, Finset.mem_filter.mpr ⟨listed, new⟩, fun missing => ?_⟩
    exact (Finset.mem_filter.mp missing).2 found
  · intro other missing
    obtain ⟨known, absent⟩ := Finset.mem_filter.mp missing
    exact Finset.mem_filter.mpr ⟨known, fun present => absent (grows present)⟩

theorem grow_settle_of_facts [DecidableEq α] {facts : α → Set φ}
    (known : Function.Injective facts) {grow : α → α} (adds : ∀ a, facts a ⊆ facts (grow a))
    {bound : Finset φ} (lacking : Finset φ)
    (within : ∀ a, facts a ⊆ bound → facts (grow a) ⊆ bound)
    {rounds : Nat} {a : α} (start : facts a ⊆ bound) (rest : (bound : Set φ) ⊆ facts a ∪ lacking)
    (enough : lacking.card < rounds) :
    grow (settle grow rounds a) = settle grow rounds a := by
  classical
  have few : (bound.filter (· ∉ facts a)).card < rounds := by
    apply (Finset.card_le_card _).trans_lt enough
    intro fact missing
    obtain ⟨listed, new⟩ := Finset.mem_filter.mp missing
    exact (rest listed).resolve_left new
  apply grow_settle (fun a => (bound.filter (· ∉ facts a)).card) within _ rounds start few
  intro a inside changed
  obtain ⟨fact, added, new⟩ : ∃ fact ∈ facts (grow a), fact ∉ facts a := by
    by_contra none
    push Not at none
    exact changed (known (Set.Subset.antisymm none (adds a)))
  exact card_missing_lt (adds a) (within a inside added) added new

theorem exists_settle_eq_iterate [DecidableEq α] (grow : α → α) (rounds : Nat) (a : α) :
    ∃ count, settle grow rounds a = grow^[count] a := by
  induction rounds generalizing a with
  | zero => exact ⟨0, rfl⟩
  | succ rounds ih =>
      simp only [settle]
      split
      · exact ⟨0, rfl⟩
      · obtain ⟨count, same⟩ := ih (grow a)
        exact ⟨count + 1, same⟩

theorem iterate_eq_of_rest {grow : α → α} {first second : Nat} {a : α}
    (restFirst : grow (grow^[first] a) = grow^[first] a)
    (restSecond : grow (grow^[second] a) = grow^[second] a) :
    grow^[first] a = grow^[second] a := by
  wlog order : first ≤ second generalizing first second
  · exact (this restSecond restFirst (Nat.le_of_not_le order)).symm
  · obtain ⟨more, rfl⟩ := Nat.exists_eq_add_of_le order
    rw [Nat.add_comm, Function.iterate_add_apply, Function.iterate_fixed restFirst]

theorem OrderedSet.eq_of_subset_of_size_le {κ : Type} [LT κ] [DecidableLT κ] [Key κ]
    {a b : OrderedSet κ} (subset : ∀ key ∈ a, key ∈ b) (le : b.size ≤ a.size) : a = b := by
  have distinct : a.members.Nodup := a.increasing.imp fun less => Key.ne_of_lt less
  have perm := (distinct.subperm subset).perm_of_length_le le
  exact OrderedSet.ext fun key => perm.mem_iff

/-! ### Keys that lead to others -/

section Gathering

variable {κ : Type} [LT κ] [DecidableLT κ] [Key κ] {next : κ → List κ} {start : List κ}
  {rounds : Nat} {key : κ}

theorem OrderedSet.mem_injective :
    Function.Injective fun found : OrderedSet κ => {key | key ∈ found} :=
  fun _ _ same => OrderedSet.ext fun key => Set.ext_iff.mp same key

def gather (next : κ → List κ) (found : OrderedSet κ) : OrderedSet κ :=
  found.insertAll (found.members.flatMap next)

theorem mem_gather {found : OrderedSet κ} :
    key ∈ gather next found ↔ (∃ other ∈ found, key ∈ next other) ∨ key ∈ found := by
  simp only [gather, OrderedSet.mem_insertAll, List.mem_flatMap, OrderedSet.mem_members]

variable [DecidableEq κ]

theorem exists_path_of_mem_settle (member : key ∈ settle (gather next) rounds (.ofList start)) :
    ∃ first ∈ start, Relation.ReflTransGen (fun key other => other ∈ next key) first key := by
  revert key
  apply settle_induction (motive := fun found => ∀ {key}, key ∈ found →
    ∃ first ∈ start, Relation.ReflTransGen (fun key other => other ∈ next key) first key)
  · intro found sound key member
    rcases mem_gather.mp member with ⟨other, old, leads⟩ | old
    · obtain ⟨first, begun, path⟩ := sound old
      exact ⟨first, begun, path.tail leads⟩
    · exact sound old
  · intro key member
    exact ⟨key, OrderedSet.mem_ofList.mp member, .refl⟩

theorem gather_settle (bound lacking : Finset κ) (begins : ∀ key ∈ start, key ∈ bound)
    (within : ∀ key ∈ bound, ∀ other ∈ next key, other ∈ bound)
    (rest : ∀ key ∈ bound, key ∈ start ∨ key ∈ lacking) (enough : lacking.card < rounds) :
    gather next (settle (gather next) rounds (.ofList start)) =
      settle (gather next) rounds (.ofList start) := by
  have inside : {key | key ∈ OrderedSet.ofList start} ⊆ (bound : Set κ) := fun key member =>
    begins key (OrderedSet.mem_ofList.mp member)
  apply grow_settle_of_facts OrderedSet.mem_injective
    (fun found key old => mem_gather.mpr (.inr old)) lacking _ inside
  · exact fun key member => (rest key member).imp_left OrderedSet.mem_ofList.mpr
  · exact enough
  · intro found inside key member
    rcases mem_gather.mp member with ⟨other, old, leads⟩ | old
    · exact within other (inside old) key leads
    · exact inside old

theorem mem_settle_insertAll (bound lacking : Finset κ) (begins : ∀ key ∈ start, key ∈ bound)
    (within : ∀ key ∈ bound, ∀ other ∈ next key, other ∈ bound)
    (rest : ∀ key ∈ bound, key ∈ start ∨ key ∈ lacking) (enough : lacking.card < rounds) :
    key ∈ settle (fun found : OrderedSet κ => found.insertAll (found.members.flatMap next)) rounds
        (.ofList start) ↔
      ∃ first ∈ start, Relation.ReflTransGen (fun key other => other ∈ next key) first key := by
  change key ∈ settle (gather next) rounds (.ofList start) ↔ _
  refine ⟨exists_path_of_mem_settle, ?_⟩
  rintro ⟨first, begun, path⟩
  induction path with
  | refl =>
      apply settle_induction (motive := (first ∈ ·))
      · exact fun found old => mem_gather.mpr (.inr old)
      · exact OrderedSet.mem_ofList.mpr begun
  | tail _ leads ih =>
      rw [← gather_settle bound lacking begins within rest enough]
      exact mem_gather.mpr (.inl ⟨_, ih, leads⟩)

end Gathering

end CanonicalLR
