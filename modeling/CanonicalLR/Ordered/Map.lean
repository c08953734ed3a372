import CanonicalLR.Ordered.Key

/-!
Finite maps as lists of entries in strictly increasing order of their keys. A map is determined by
its look-ups (`OrderedMap.ext_get?`), so maps that hold the same entries are equal however they
were built.
-/

namespace CanonicalLR

structure OrderedMap (κ α : Type) [LT κ] where
  entries : List (κ × α)
  increasing : entries.Pairwise (·.1 < ·.1)

namespace OrderedMap

variable {κ α : Type} [LT κ] [DecidableLT κ]

instance [DecidableEq κ] [DecidableEq α] : DecidableEq (OrderedMap κ α) :=
  fun a b => decidable_of_iff (a.entries = b.entries) <| by
    cases a; cases b; simp

/-- The value at a key of an increasing list of entries. -/
def lookup (key : κ) : List (κ × α) → Option α
  | [] => none
  | (k, a) :: rest =>
      if k < key then lookup key rest else if key < k then none else some a

/-- Replaces the value at a key by a function of the old value, adding an entry if need be. -/
def put (key : κ) (value : Option α → α) : List (κ × α) → List (κ × α)
  | [] => [(key, value none)]
  | (k, a) :: rest =>
      if k < key then (k, a) :: put key value rest
      else if key < k then (key, value none) :: (k, a) :: rest
      else (k, value (some a)) :: rest

def empty : OrderedMap κ α :=
  ⟨[], List.Pairwise.nil⟩

instance : Inhabited (OrderedMap κ α) :=
  ⟨empty⟩

def get? (map : OrderedMap κ α) (key : κ) : Option α :=
  lookup key map.entries

@[simp] theorem get?_empty (key : κ) : (empty : OrderedMap κ α).get? key = none := rfl

theorem mem_put_key {key : κ} {value : Option α → α} {entries : List (κ × α)} {entry : κ × α}
    (member : entry ∈ put key value entries) :
    entry.1 = key ∨ ∃ old ∈ entries, old.1 = entry.1 := by
  induction entries with
  | nil => simp only [put, List.mem_singleton] at member; exact Or.inl (by rw [member])
  | cons head rest ih =>
      obtain ⟨k, a⟩ := head
      simp only [put] at member
      split at member
      · rcases List.mem_cons.mp member with rfl | later
        · exact Or.inr ⟨_, List.mem_cons_self, rfl⟩
        · rcases ih later with same | ⟨old, within, same⟩
          · exact Or.inl same
          · exact Or.inr ⟨old, List.mem_cons_of_mem _ within, same⟩
      · split at member
        · rcases List.mem_cons.mp member with rfl | later
          · exact Or.inl rfl
          · exact Or.inr ⟨entry, later, rfl⟩
        · rcases List.mem_cons.mp member with rfl | later
          · exact Or.inr ⟨_, List.mem_cons_self, rfl⟩
          · exact Or.inr ⟨entry, List.mem_cons_of_mem _ later, rfl⟩

theorem put_of_above {key : κ} {value : Option α → α} {entries : List (κ × α)}
    (above : ∀ entry ∈ entries, entry.1 < key) :
    put key value entries = entries ++ [(key, value none)] := by
  induction entries with
  | nil => rfl
  | cons head rest ih =>
      obtain ⟨less, later⟩ := List.forall_mem_cons.mp above
      rw [put, if_pos less, ih later, List.cons_append]

variable [Key κ]

theorem pairwise_put (key : κ) (value : Option α → α) {entries : List (κ × α)}
    (increasing : entries.Pairwise (·.1 < ·.1)) :
    (put key value entries).Pairwise (·.1 < ·.1) := by
  induction entries with
  | nil => simp [put]
  | cons head rest ih =>
      obtain ⟨k, a⟩ := head
      obtain ⟨below, tail⟩ := List.pairwise_cons.mp increasing
      simp only [put]
      split
      · rename_i less
        refine List.pairwise_cons.mpr ⟨fun entry member => ?_, ih tail⟩
        rcases mem_put_key member with same | ⟨old, within, same⟩
        · exact same ▸ less
        · exact same ▸ below old within
      · split
        · rename_i _ less
          refine List.pairwise_cons.mpr ⟨fun entry member => ?_, increasing⟩
          rcases List.mem_cons.mp member with rfl | later
          · exact less
          · exact Key.trans less (below entry later)
        · exact List.pairwise_cons.mpr ⟨below, tail⟩

def alter (map : OrderedMap κ α) (key : κ) (value : Option α → α) : OrderedMap κ α :=
  ⟨put key value map.entries, pairwise_put key value map.increasing⟩

def insert (map : OrderedMap κ α) (key : κ) (value : α) : OrderedMap κ α :=
  map.alter key fun _ => value

/-- Adds an entry unless the key has one. -/
def insertNew (map : OrderedMap κ α) (key : κ) (value : α) : OrderedMap κ α :=
  map.alter key fun old => old.getD value

/-- Keeps the entries that satisfy a condition. -/
def filter (map : OrderedMap κ α) (keep : κ → α → Bool) : OrderedMap κ α :=
  ⟨map.entries.filter fun entry => keep entry.1 entry.2, map.increasing.filter _⟩

def keys (map : OrderedMap κ α) : List κ :=
  map.entries.map (·.1)

def values (map : OrderedMap κ α) : List α :=
  map.entries.map (·.2)

theorem lookup_put_self (key : κ) (value : Option α → α) {entries : List (κ × α)} :
    lookup key (put key value entries) = some (value (lookup key entries)) := by
  induction entries with
  | nil => simp [put, lookup, Key.irrefl]
  | cons head rest ih =>
      obtain ⟨k, a⟩ := head
      simp only [put, lookup]
      split
      · rename_i less; simp [lookup, less, ih]
      · split
        · simp [lookup, Key.irrefl]
        · rename_i notLess notGreater; simp [lookup, notLess, notGreater]

theorem lookup_put_of_ne {key other : κ} (differ : other ≠ key) (value : Option α → α)
    {entries : List (κ × α)} (increasing : entries.Pairwise (·.1 < ·.1)) :
    lookup other (put key value entries) = lookup other entries := by
  induction entries with
  | nil =>
      simp only [put, lookup]
      by_cases less : key < other
      · simp [less]
      · have greater : other < key := Classical.byContradiction fun notGreater =>
          differ (Key.connected notGreater less)
        simp [less, greater]
  | cons head rest ih =>
      obtain ⟨k, a⟩ := head
      obtain ⟨below, tail⟩ := List.pairwise_cons.mp increasing
      simp only [put]
      split
      · simp only [lookup]; rw [ih tail]
      · split
        · rename_i _ keyLess
          by_cases less : key < other
          · rw [lookup, if_pos less]
          · have greater : other < key := Classical.byContradiction fun notGreater =>
              differ (Key.connected notGreater less)
            have belowHead : other < k := Key.trans greater keyLess
            simp [lookup, less, greater, belowHead, Key.not_lt_of_lt belowHead]
        · rename_i notLess notGreater
          obtain rfl : k = key := Key.connected notLess notGreater
          simp only [lookup]
          by_cases less : k < other
          · simp [less]
          · have greater : other < k := Classical.byContradiction fun notGreater =>
              differ (Key.connected notGreater less)
            simp [less, greater]

theorem lookup_eq_some_iff {key : κ} {a : α} {entries : List (κ × α)}
    (increasing : entries.Pairwise (·.1 < ·.1)) :
    lookup key entries = some a ↔ (key, a) ∈ entries := by
  induction entries with
  | nil => simp [lookup]
  | cons head rest ih =>
      obtain ⟨k, b⟩ := head
      obtain ⟨below, tail⟩ := List.pairwise_cons.mp increasing
      simp only [lookup, List.mem_cons, Prod.mk.injEq]
      by_cases less : k < key
      · simp [less, ih tail, (Key.ne_of_lt less).symm]
      · have notLater : ¬ (key, a) ∈ rest := fun later => less (below _ later)
        by_cases greater : key < k
        · simp [less, greater, notLater, Key.ne_of_lt greater]
        · obtain rfl : k = key := Key.connected less greater
          simp [less, notLater, eq_comm]

@[simp] theorem get?_alter_self (map : OrderedMap κ α) (key : κ) (value : Option α → α) :
    (map.alter key value).get? key = some (value (map.get? key)) :=
  lookup_put_self key value

theorem get?_alter_of_ne (map : OrderedMap κ α) {key other : κ} (differ : other ≠ key)
    (value : Option α → α) : (map.alter key value).get? other = map.get? other :=
  lookup_put_of_ne differ value map.increasing

theorem get?_eq_some_iff (map : OrderedMap κ α) {key : κ} {a : α} :
    map.get? key = some a ↔ (key, a) ∈ map.entries :=
  lookup_eq_some_iff map.increasing

theorem get?_filter (map : OrderedMap κ α) (keep : κ → α → Bool) (key : κ) :
    (map.filter keep).get? key = (map.get? key).filter (keep key) := by
  ext a
  rw [get?_eq_some_iff, Option.filter_eq_some_iff, get?_eq_some_iff]
  simp [filter]

theorem get?_insert [DecidableEq κ] (map : OrderedMap κ α) (key other : κ) (value : α) :
    (map.insert key value).get? other = if other = key then some value else map.get? other := by
  split
  · rename_i same
    rw [same, insert, get?_alter_self]
  · rename_i differ
    rw [insert, get?_alter_of_ne _ differ]

theorem get?_insertNew [DecidableEq κ] (map : OrderedMap κ α) (key other : κ) (value : α) :
    (map.insertNew key value).get? other =
      (map.get? other).or (if other = key then some value else none) := by
  split
  · rename_i same
    rw [same, insertNew, get?_alter_self]
    cases map.get? key <;> rfl
  · rename_i differ
    rw [insertNew, get?_alter_of_ne _ differ, Option.or_none]

theorem mem_values {map : OrderedMap κ α} {a : α} :
    a ∈ map.values ↔ ∃ key, map.get? key = some a := by
  simp [values, get?_eq_some_iff]

/-- A key above all others comes last. -/
theorem values_insert_of_above {map : OrderedMap κ α} {key : κ} (value : α)
    (above : ∀ other a, map.get? other = some a → other < key) :
    (map.insert key value).values = map.values ++ [value] := by
  have entries : put key (fun _ => value) map.entries = map.entries ++ [(key, value)] :=
    put_of_above fun entry member => above entry.1 entry.2 ((get?_eq_some_iff map).mpr member)
  simp only [values, insert, alter, entries, List.map_append, List.map_singleton]

theorem entries_eq_of_lookup_eq {a b : List (κ × α)} (increasingA : a.Pairwise (·.1 < ·.1))
    (increasingB : b.Pairwise (·.1 < ·.1)) (same : ∀ key, lookup key a = lookup key b) : a = b := by
  induction a generalizing b with
  | nil =>
      cases b with
      | nil => rfl
      | cons head rest =>
          have found := same head.1
          simp [lookup, Key.irrefl] at found
  | cons head rest ih =>
      obtain ⟨belowA, tailA⟩ := List.pairwise_cons.mp increasingA
      cases b with
      | nil =>
          have found := same head.1
          simp [lookup, Key.irrefl] at found
      | cons other rest' =>
          obtain ⟨belowB, tailB⟩ := List.pairwise_cons.mp increasingB
          have headIn : head ∈ other :: rest' := by
            rw [← lookup_eq_some_iff increasingB, ← same]
            simp [lookup, Key.irrefl]
          have otherIn : other ∈ head :: rest := by
            rw [← lookup_eq_some_iff increasingA, same]
            simp [lookup, Key.irrefl]
          have heads : head = other := by
            rcases List.mem_cons.mp headIn with equal | later
            · exact equal
            · rcases List.mem_cons.mp otherIn with equal | later'
              · exact equal.symm
              · exact absurd (belowB _ later) (Key.not_lt_of_lt (belowA _ later'))
          subst heads
          congr 1
          apply ih tailA tailB
          intro key
          have here := same key
          simp only [lookup] at here
          by_cases less : head.1 < key
          · simpa [less] using here
          · have absent : ∀ {rest : List (κ × α)}, (∀ entry ∈ rest, head.1 < entry.1) →
                rest.Pairwise (·.1 < ·.1) → lookup key rest = none := by
              intro rest below tail
              rw [Option.eq_none_iff_forall_not_mem]
              intro value member
              exact less (below _ ((lookup_eq_some_iff tail).mp member))
            rw [absent belowA tailA, absent belowB tailB]

theorem ext_get? {a b : OrderedMap κ α} (same : ∀ key, a.get? key = b.get? key) : a = b := by
  obtain ⟨entriesA, increasingA⟩ := a
  obtain ⟨entriesB, increasingB⟩ := b
  congr
  exact entries_eq_of_lookup_eq increasingA increasingB same

end OrderedMap

end CanonicalLR
