import CanonicalLR.Ordered.Key

/-!
Finite sets as strictly increasing lists. Sets with the same members are equal (`OrderedSet.ext`).
-/

namespace CanonicalLR

structure OrderedSet (κ : Type) [LT κ] where
  members : List κ
  increasing : members.Pairwise (· < ·)

namespace OrderedSet

variable {κ : Type} [LT κ]

def empty : OrderedSet κ :=
  ⟨[], List.Pairwise.nil⟩

instance : Inhabited (OrderedSet κ) :=
  ⟨empty⟩

instance : Membership κ (OrderedSet κ) :=
  ⟨fun set key => key ∈ set.members⟩

theorem mem_members {set : OrderedSet κ} {key : κ} : key ∈ set.members ↔ key ∈ set := Iff.rfl

@[simp] theorem not_mem_empty (key : κ) : ¬ key ∈ (empty : OrderedSet κ) :=
  List.not_mem_nil

variable [DecidableLT κ]

instance [DecidableEq κ] : DecidableEq (OrderedSet κ) :=
  fun a b => decidable_of_iff (a.members = b.members) <| by
    cases a; cases b; simp

/-- Adds a key to an increasing list of keys. -/
def add (key : κ) : List κ → List κ
  | [] => [key]
  | k :: rest =>
      if k < key then k :: add key rest else if key < k then key :: k :: rest else k :: rest

/-- Whether an increasing list holds a key. -/
def holds (key : κ) : List κ → Bool
  | [] => false
  | k :: rest => if k < key then holds key rest else !decide (key < k)

variable [Key κ]

theorem mem_add {key k : κ} {members : List κ} : k ∈ add key members ↔ k = key ∨ k ∈ members := by
  induction members with
  | nil => simp [add]
  | cons head rest ih =>
      simp only [add]
      split
      · simp only [List.mem_cons, ih]
        grind
      · split
        · simp
        · rename_i notLess notGreater
          obtain rfl : head = key := Key.connected notLess notGreater
          simp

theorem pairwise_add (key : κ) {members : List κ} (increasing : members.Pairwise (· < ·)) :
    (add key members).Pairwise (· < ·) := by
  induction members with
  | nil => simp [add]
  | cons head rest ih =>
      obtain ⟨below, tail⟩ := List.pairwise_cons.mp increasing
      simp only [add]
      split
      · rename_i less
        refine List.pairwise_cons.mpr ⟨fun k member => ?_, ih tail⟩
        rcases mem_add.mp member with rfl | later
        · exact less
        · exact below k later
      · split
        · rename_i _ less
          refine List.pairwise_cons.mpr ⟨fun k member => ?_, increasing⟩
          rcases List.mem_cons.mp member with rfl | later
          · exact less
          · exact Key.trans less (below k later)
        · exact increasing

theorem holds_iff {key : κ} {members : List κ} (increasing : members.Pairwise (· < ·)) :
    holds key members = true ↔ key ∈ members := by
  induction members with
  | nil => simp [holds]
  | cons head rest ih =>
      obtain ⟨below, tail⟩ := List.pairwise_cons.mp increasing
      simp only [holds, List.mem_cons]
      by_cases less : head < key
      · simp [less, ih tail, (Key.ne_of_lt less).symm]
      · have notLater : ¬ key ∈ rest := fun later => less (below _ later)
        by_cases greater : key < head
        · simp [less, greater, notLater, Key.ne_of_lt greater]
        · obtain rfl : head = key := Key.connected less greater
          simp [less]

instance (key : κ) (set : OrderedSet κ) : Decidable (key ∈ set) :=
  decidable_of_iff (holds key set.members = true) (holds_iff set.increasing)

def insert (set : OrderedSet κ) (key : κ) : OrderedSet κ :=
  ⟨add key set.members, pairwise_add key set.increasing⟩

def insertAll (set : OrderedSet κ) (keys : List κ) : OrderedSet κ :=
  keys.foldl insert set

def ofList (keys : List κ) : OrderedSet κ :=
  empty.insertAll keys

def union (a b : OrderedSet κ) : OrderedSet κ :=
  a.insertAll b.members

def size (set : OrderedSet κ) : Nat :=
  set.members.length

@[simp] theorem mem_insert {set : OrderedSet κ} {key k : κ} :
    k ∈ set.insert key ↔ k = key ∨ k ∈ set :=
  mem_add

@[simp] theorem mem_insertAll {set : OrderedSet κ} {keys : List κ} {k : κ} :
    k ∈ set.insertAll keys ↔ k ∈ keys ∨ k ∈ set := by
  induction keys generalizing set with
  | nil => simp [insertAll]
  | cons head rest ih =>
      have step : set.insertAll (head :: rest) = (set.insert head).insertAll rest := rfl
      rw [step, ih, mem_insert, List.mem_cons]
      grind

@[simp] theorem mem_ofList {keys : List κ} {k : κ} : k ∈ ofList keys ↔ k ∈ keys := by
  simp [ofList]

@[simp] theorem mem_union {a b : OrderedSet κ} {k : κ} : k ∈ a.union b ↔ k ∈ a ∨ k ∈ b := by
  simp only [union, mem_insertAll, mem_members]
  exact Or.comm

theorem members_eq_of_mem_iff {a b : List κ} (increasingA : a.Pairwise (· < ·))
    (increasingB : b.Pairwise (· < ·)) (same : ∀ key, key ∈ a ↔ key ∈ b) : a = b := by
  induction a generalizing b with
  | nil =>
      cases b with
      | nil => rfl
      | cons head rest => exact absurd ((same head).mpr List.mem_cons_self) List.not_mem_nil
  | cons head rest ih =>
      obtain ⟨belowA, tailA⟩ := List.pairwise_cons.mp increasingA
      cases b with
      | nil => exact absurd ((same head).mp List.mem_cons_self) List.not_mem_nil
      | cons other rest' =>
          obtain ⟨belowB, tailB⟩ := List.pairwise_cons.mp increasingB
          have heads : head = other := by
            rcases List.mem_cons.mp ((same head).mp List.mem_cons_self) with equal | later
            · exact equal
            · rcases List.mem_cons.mp ((same other).mpr List.mem_cons_self) with equal | later'
              · exact equal.symm
              · exact absurd (belowB _ later) (Key.not_lt_of_lt (belowA _ later'))
          subst heads
          congr 1
          apply ih tailA tailB
          intro key
          have here := same key
          simp only [List.mem_cons] at here
          constructor
          · intro member
            rcases here.mp (Or.inr member) with equal | found
            · exact absurd (equal ▸ belowA _ member) (Key.irrefl _)
            · exact found
          · intro member
            rcases here.mpr (Or.inr member) with equal | found
            · exact absurd (equal ▸ belowB _ member) (Key.irrefl _)
            · exact found

theorem ext {a b : OrderedSet κ} (same : ∀ key, key ∈ a ↔ key ∈ b) : a = b := by
  obtain ⟨membersA, increasingA⟩ := a
  obtain ⟨membersB, increasingB⟩ := b
  congr
  exact members_eq_of_mem_iff increasingA increasingB same

end OrderedSet

end CanonicalLR
