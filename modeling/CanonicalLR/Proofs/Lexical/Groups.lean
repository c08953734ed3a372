import CanonicalLR.Proofs.Lexical.Vocabulary
import Mathlib.Data.List.Nodup

namespace CanonicalLR

namespace GroupTable

variable {table : GroupTable} {group : TokenGroup} {terminal : Terminal} {slot : Nat}

/-! ### Owners after a definition -/

theorem get?_claim (owners : OrderedMap Terminal Nat) (group : TokenGroup) (terminal : Terminal) :
    (claim owners group).get? terminal =
      if terminal ∈ group.members then some group.slot else owners.get? terminal := by
  unfold claim
  generalize group.members = members
  induction members generalizing owners with
  | nil => rw [if_neg List.not_mem_nil, List.foldl_nil]
  | cons member rest ih =>
      rw [List.foldl_cons, ih, OrderedMap.get?_insert]
      simp only [List.mem_cons]
      split <;> simp_all

theorem get?_claimFree (owners : OrderedMap Terminal Nat) (group : TokenGroup)
    (terminal : Terminal) : (claimFree owners group).get? terminal =
      (owners.get? terminal).or (if terminal ∈ group.members then some group.slot else none) := by
  unfold claimFree
  generalize group.members = members
  induction members generalizing owners with
  | nil => rw [if_neg List.not_mem_nil, List.foldl_nil, Option.or_none]
  | cons member rest ih =>
      rw [List.foldl_cons, ih, OrderedMap.get?_insertNew, Option.or_assoc]
      simp only [List.mem_cons]
      split <;> split <;> simp_all

theorem get?_foldl_claimFree (groups : List TokenGroup) (owners : OrderedMap Terminal Nat)
    (terminal : Terminal) : (groups.foldl claimFree owners).get? terminal =
      (owners.get? terminal).or ((groups.find? (terminal ∈ ·.members)).map (·.slot)) := by
  induction groups generalizing owners with
  | nil => rw [List.foldl_nil, List.find?_nil, Option.map_none, Option.or_none]
  | cons group rest ih =>
      rw [List.foldl_cons, ih, get?_claimFree, Option.or_assoc]
      by_cases lists : terminal ∈ group.members
      · rw [if_pos lists, List.find?_cons_of_pos (by simpa using lists)]
        rfl
      · rw [if_neg lists, List.find?_cons_of_neg (by simpa using lists), Option.none_or]

theorem get?_owners_define (table : GroupTable) (group : TokenGroup) (terminal : Terminal) :
    (table.define group).owners.get? terminal =
      if terminal ∈ group.members then some group.slot
      else ((table.owners.get? terminal).filter (· != group.slot)).or
        (((table.define group).toList.reverse.find? (terminal ∈ ·.members)).map (·.slot)) := by
  rw [define, toList, get?_foldl_claimFree, get?_claim, OrderedMap.get?_filter]
  split <;> rfl

theorem get?_groups_define (table : GroupTable) (group : TokenGroup) (slot : Nat) :
    (table.define group).groups.get? slot =
      if slot = group.slot then some group else table.groups.get? slot :=
  OrderedMap.get?_insert _ _ _ _

/-! ### Consistent tables -/

/-- Groups know their slots, which are below the next one, and the owner of a token is a group that
lists it, if there is one. -/
structure Consistent (table : GroupTable) : Prop where
  slots : ∀ slot group, table.groups.get? slot = some group →
    group.slot = slot ∧ slot < table.nextSlot
  lists : ∀ terminal slot, table.owners.get? terminal = some slot →
    ∃ group, table.groups.get? slot = some group ∧ terminal ∈ group.members
  owned : ∀ terminal slot group, table.groups.get? slot = some group → terminal ∈ group.members →
    (table.owners.get? terminal).isSome

theorem consistent_empty : ({} : GroupTable).Consistent :=
  ⟨nofun, nofun, nofun⟩

theorem Consistent.mem_toList (consistent : table.Consistent) :
    group ∈ table.toList ↔ table.groups.get? group.slot = some group := by
  rw [toList, OrderedMap.mem_values]
  refine ⟨fun ⟨slot, found⟩ => ?_, fun found => ⟨_, found⟩⟩
  rw [(consistent.slots slot group found).1]
  exact found

theorem Consistent.increasing (consistent : table.Consistent) :
    table.toList.Pairwise (·.slot < ·.slot) := by
  rw [toList, OrderedMap.values, List.pairwise_map]
  apply table.groups.increasing.imp_of_mem
  intro first second inFirst inSecond less
  have slotOf {entry : Nat × TokenGroup} (member : entry ∈ table.groups.entries) :
      entry.2.slot = entry.1 :=
    (consistent.slots _ _ ((OrderedMap.get?_eq_some_iff _).mpr member)).1
  rwa [slotOf inFirst, slotOf inSecond]

theorem Consistent.groupOf?_eq_some_iff (consistent : table.Consistent) :
    table.groupOf? terminal = some group ↔
      table.owners.get? terminal = some group.slot ∧ group ∈ table.toList := by
  rw [consistent.mem_toList]
  unfold groupOf?
  rw [Option.bind_eq_bind, Option.bind_eq_some_iff]
  constructor
  · rintro ⟨slot, owns, found⟩
    rw [(consistent.slots slot group found).1]
    exact ⟨owns, found⟩
  · rintro ⟨owns, found⟩
    exact ⟨group.slot, owns, found⟩

theorem Consistent.map_groupOf? (consistent : table.Consistent) (terminal : Terminal) :
    (table.groupOf? terminal).map (·.slot) = table.owners.get? terminal := by
  unfold groupOf?
  cases owns : table.owners.get? terminal with
  | none => rfl
  | some slot =>
      obtain ⟨group, found, _⟩ := consistent.lists terminal slot owns
      rw [Option.bind_eq_bind, Option.bind_some, found, Option.map_some,
        (consistent.slots slot group found).1]

theorem Consistent.lists_of_groupOf? (consistent : table.Consistent)
    (found : table.groupOf? terminal = some group) :
    table.groups.get? group.slot = some group ∧ terminal ∈ group.members := by
  obtain ⟨owns, listed⟩ := consistent.groupOf?_eq_some_iff.mp found
  have there := consistent.mem_toList.mp listed
  obtain ⟨other, alsoThere, lists⟩ := consistent.lists terminal group.slot owns
  rw [there] at alsoThere
  cases alsoThere
  exact ⟨there, lists⟩

theorem Consistent.isSome_groupOf?_iff (consistent : table.Consistent) :
    (table.groupOf? terminal).isSome ↔ ∃ group ∈ table.toList, terminal ∈ group.members := by
  constructor
  · intro some
    obtain ⟨group, found⟩ := Option.isSome_iff_exists.mp some
    exact ⟨group, (consistent.groupOf?_eq_some_iff.mp found).2,
      (consistent.lists_of_groupOf? found).2⟩
  · rintro ⟨group, listed, lists⟩
    have owned := consistent.owned terminal _ group (consistent.mem_toList.mp listed) lists
    rw [← consistent.map_groupOf?, Option.isSome_map] at owned
    exact owned

theorem Consistent.slots_define (consistent : table.Consistent) (group : TokenGroup) :
    ∀ slot other, (table.define group).groups.get? slot = some other →
      other.slot = slot ∧ slot < (table.define group).nextSlot := by
  intro slot other found
  rw [get?_groups_define] at found
  change other.slot = slot ∧ slot < max table.nextSlot (group.slot + 1)
  split at found
  · cases found
    omega
  · have old := consistent.slots slot other found
    omega

theorem Consistent.define (consistent : table.Consistent) (group : TokenGroup) :
    (table.define group).Consistent := by
  have slots := consistent.slots_define group
  have kept {terminal : Terminal} {slot : Nat}
      (owns : (table.owners.get? terminal).filter (· != group.slot) = some slot) :
      table.owners.get? terminal = some slot ∧ slot ≠ group.slot := by
    rw [Option.filter_eq_some_iff] at owns
    exact ⟨owns.1, by simpa using owns.2⟩
  refine ⟨slots, ?_, ?_⟩
  · intro terminal slot owns
    rw [get?_owners_define] at owns
    split at owns
    · rename_i lists
      cases owns
      exact ⟨group, by rw [get?_groups_define, if_pos rfl], lists⟩
    · rcases Option.or_eq_some_iff.mp owns with old | ⟨_, falls⟩
      · -- The owner of before stays where its slot is not the one that is defined.
        obtain ⟨owned, differ⟩ := kept old
        obtain ⟨other, found, lists⟩ := consistent.lists terminal slot owned
        exact ⟨other, by rw [get?_groups_define, if_neg differ, found], lists⟩
      · obtain ⟨other, found, rfl⟩ := Option.map_eq_some_iff.mp falls
        have listed := List.mem_reverse.mp (List.mem_of_find?_eq_some found)
        rw [toList, OrderedMap.mem_values] at listed
        obtain ⟨slot, there⟩ := listed
        refine ⟨other, ?_, by simpa using List.find?_some found⟩
        rw [(slots slot other there).1]
        exact there
  · intro terminal slot other there lists
    rw [get?_owners_define]
    split
    · rfl
    · rw [Option.isSome_or, Bool.or_eq_true, Option.isSome_map, List.find?_isSome]
      refine .inr ⟨other, List.mem_reverse.mpr ?_, by simpa using lists⟩
      rw [toList, OrderedMap.mem_values]
      exact ⟨slot, there⟩

/-! ### The owner of one token -/

/-- The group in the highest slot, one slot aside, that lists a token. -/
structure Inherits (table : GroupTable) (slot : Nat) (terminal : Terminal) (group : TokenGroup) :
    Prop where
  listed : group ∈ table.toList
  elsewhere : group.slot ≠ slot
  lists : terminal ∈ group.members
  highest : ∀ other ∈ table.toList, other.slot ≠ slot → terminal ∈ other.members →
    other.slot ≤ group.slot

theorem Consistent.mem_toList_define (consistent : table.Consistent) {other : TokenGroup} :
    other ∈ (table.define group).toList ↔
      other = group ∨ other ∈ table.toList ∧ other.slot ≠ group.slot := by
  rw [(consistent.define group).mem_toList, consistent.mem_toList, get?_groups_define]
  by_cases same : other.slot = group.slot
  · simp [same, eq_comm]
  · have differ : other ≠ group := fun equal => same (congrArg TokenGroup.slot equal)
    simp [same, differ]

theorem Consistent.groupOf?_define_member (consistent : table.Consistent)
    (lists : terminal ∈ group.members) : (table.define group).groupOf? terminal = some group := by
  rw [(consistent.define group).groupOf?_eq_some_iff, get?_owners_define, if_pos lists]
  exact ⟨rfl, consistent.mem_toList_define.mpr (.inl rfl)⟩

theorem Consistent.groupOf?_define_other (consistent : table.Consistent)
    (outside : terminal ∉ group.members) (differ : table.owners.get? terminal ≠ some group.slot) :
    (table.define group).groupOf? terminal = table.groupOf? terminal := by
  have owner : (table.define group).owners.get? terminal = table.owners.get? terminal := by
    rw [get?_owners_define, if_neg outside]
    cases owns : table.owners.get? terminal with
    | some slot =>
        rw [owns, ne_eq, Option.some.injEq] at differ
        rw [Option.filter_some_pos (by simpa using differ), Option.some_or]
    | none =>
        rw [Option.filter_none, Option.none_or, Option.map_eq_none_iff, List.find?_eq_none]
        intro other member
        rw [decide_eq_true_eq]
        intro lists
        rcases consistent.mem_toList_define.mp (List.mem_reverse.mp member) with rfl | ⟨old, _⟩
        · exact outside lists
        · have owned := consistent.owned terminal _ other (consistent.mem_toList.mp old) lists
          rw [owns] at owned
          cases owned
  ext other
  rw [(consistent.define group).groupOf?_eq_some_iff, consistent.groupOf?_eq_some_iff, owner,
    consistent.mem_toList_define]
  refine and_congr_right fun owns => ?_
  have elsewhere : other.slot ≠ group.slot := fun same => differ (same ▸ owns)
  have unlike : other ≠ group := fun same => elsewhere (congrArg TokenGroup.slot same)
  simp [elsewhere, unlike]

section Search

variable {groups : List TokenGroup} (increasing : groups.Pairwise (·.slot < ·.slot))
  {holds : TokenGroup → Bool}
include increasing

theorem slot_injective {other : TokenGroup} (member : group ∈ groups) (also : other ∈ groups)
    (same : group.slot = other.slot) : group = other := by
  have nodup : (groups.map (·.slot)).Nodup := by
    rw [List.Nodup, List.pairwise_map]
    exact increasing.imp Nat.ne_of_lt
  exact List.inj_on_of_nodup_map nodup member also same

theorem le_of_find?_reverse (found : groups.reverse.find? holds = some group) :
    ∀ other ∈ groups, holds other = true → other.slot ≤ group.slot := by
  obtain ⟨_, front, back, split, before⟩ := List.find?_eq_some_iff_append.mp found
  have falling := List.pairwise_reverse.mpr increasing
  rw [split, List.pairwise_append, List.pairwise_cons] at falling
  intro other member marked
  rw [← List.mem_reverse, split, List.mem_append, List.mem_cons] at member
  rcases member with inFront | rfl | inBack
  · simpa [marked] using before other inFront
  · exact Nat.le_refl _
  · exact Nat.le_of_lt (falling.2.1.1 other inBack)

theorem find?_reverse_eq_some_iff : groups.reverse.find? holds = some group ↔
    group ∈ groups ∧ holds group = true ∧
      ∀ other ∈ groups, holds other = true → other.slot ≤ group.slot := by
  constructor
  · intro found
    exact ⟨List.mem_reverse.mp (List.mem_of_find?_eq_some found), List.find?_some found,
      le_of_find?_reverse increasing found⟩
  · rintro ⟨member, marked, highest⟩
    obtain ⟨other, found⟩ := Option.isSome_iff_exists.mp
      (List.find?_isSome.mpr ⟨group, List.mem_reverse.mpr member, marked⟩)
    have present := List.mem_reverse.mp (List.mem_of_find?_eq_some found)
    have same : other.slot = group.slot := Nat.le_antisymm
      (highest other present (List.find?_some found))
      (le_of_find?_reverse increasing found group member marked)
    rw [found, slot_injective increasing present member same]

end Search

theorem Consistent.groupOf?_define_dropped (consistent : table.Consistent)
    (outside : terminal ∉ group.members) (owned : table.owners.get? terminal = some group.slot)
    {heir : TokenGroup} : (table.define group).groupOf? terminal = some heir ↔
      table.Inherits group.slot terminal heir := by
  have after := consistent.define group
  have searched : (table.define group).groupOf? terminal = some heir ↔
      (table.define group).toList.reverse.find? (terminal ∈ ·.members) = some heir := by
    rw [after.groupOf?_eq_some_iff, get?_owners_define, if_neg outside, owned,
      Option.filter_some_neg (by simp), Option.none_or]
    constructor
    · rintro ⟨slot, listed⟩
      obtain ⟨other, found, same⟩ := Option.map_eq_some_iff.mp slot
      have present := List.mem_reverse.mp (List.mem_of_find?_eq_some found)
      rw [found, slot_injective after.increasing present listed same]
    · intro found
      rw [found]
      exact ⟨rfl, List.mem_reverse.mp (List.mem_of_find?_eq_some found)⟩
  have listed {other : TokenGroup} (lists : terminal ∈ other.members) :
      other ∈ (table.define group).toList ↔ other ∈ table.toList ∧ other.slot ≠ group.slot := by
    rw [consistent.mem_toList_define]
    exact or_iff_right fun same => outside (same ▸ lists)
  rw [searched, find?_reverse_eq_some_iff after.increasing]
  simp only [decide_eq_true_eq]
  constructor
  · rintro ⟨member, lists, highest⟩
    obtain ⟨old, elsewhere⟩ := (listed lists).mp member
    exact ⟨old, elsewhere, lists, fun other present apart listsAlso =>
      highest other ((listed listsAlso).mpr ⟨present, apart⟩) listsAlso⟩
  · rintro ⟨old, elsewhere, lists, highest⟩
    refine ⟨(listed lists).mpr ⟨old, elsewhere⟩, lists, fun other present listsAlso => ?_⟩
    obtain ⟨before, apart⟩ := (listed listsAlso).mp present
    exact highest other before apart listsAlso

end GroupTable

namespace Vocabulary
open GroupTable

variable {vocabulary : Vocabulary}

theorem Constructed.consistent_groupTable (constructed : vocabulary.Constructed) :
    vocabulary.groupTable.Consistent := by
  induction constructed with
  | empty => exact consistent_empty
  | token _ created ih =>
      obtain ⟨_, rfl⟩ := token_eq_ok created
      exact ih
  | group slot name members _ ih => exact ih.define _

theorem Constructed.groups_group (constructed : vocabulary.Constructed) (name : String)
    (members : List TokenKind) : (vocabulary.group name members).2.groups =
      vocabulary.groups ++ [(vocabulary.group name members).1] :=
  OrderedMap.values_insert_of_above _ fun slot group found =>
    (constructed.consistent_groupTable.slots slot group found).2

/-- After any calls a token has a group just when some group lists it, and that group is the one in its
slot. A definition gives its members to the slot, leaves other tokens with what they had, and hands on
those that the slot drops; a new group comes behind all others. -/
theorem ownership (constructed : vocabulary.Constructed) :
    (∀ terminal, (vocabulary.groupOf? terminal).isSome ↔
      ∃ group ∈ vocabulary.groups, terminal ∈ group.members) ∧
    (∀ terminal group, vocabulary.groupOf? terminal = some group →
      vocabulary.groupTable.groups.get? group.slot = some group ∧ terminal ∈ group.members) ∧
    (∀ slot name members, ∃ group next, vocabulary.redefineGroup slot name members = (group, next) ∧
      group = ⟨name, slot, members.map (·.index)⟩ ∧
      (∀ other, other ∈ next.groups ↔
        other = group ∨ other ∈ vocabulary.groups ∧ other.slot ≠ slot) ∧
      (∀ terminal ∈ group.members, next.groupOf? terminal = some group) ∧
      ∀ terminal ∉ group.members,
        ((vocabulary.groupOf? terminal).map (·.slot) ≠ some slot →
          next.groupOf? terminal = vocabulary.groupOf? terminal) ∧
        ((vocabulary.groupOf? terminal).map (·.slot) = some slot → ∀ heir,
          next.groupOf? terminal = some heir ↔
            vocabulary.groupTable.Inherits slot terminal heir)) ∧
    ∀ name members, ∃ group next, vocabulary.group name members = (group, next) ∧
      (∀ other ∈ vocabulary.groups, other.slot < group.slot) ∧
      next.groups = vocabulary.groups ++ [group] := by
  have consistent := constructed.consistent_groupTable
  have owner (terminal : Terminal) : (vocabulary.groupOf? terminal).map (·.slot) =
      vocabulary.groupTable.owners.get? terminal := consistent.map_groupOf? terminal
  refine ⟨fun terminal => consistent.isSome_groupOf?_iff,
    fun terminal group => consistent.lists_of_groupOf?, ?_, ?_⟩
  · intro slot name members
    refine ⟨_, _, rfl, rfl, fun _ => consistent.mem_toList_define,
      fun _ => consistent.groupOf?_define_member, fun terminal outside => ?_⟩
    rw [owner]
    exact ⟨consistent.groupOf?_define_other outside,
      fun owned _ => consistent.groupOf?_define_dropped outside owned⟩
  · intro name members
    refine ⟨_, _, rfl, fun other member => ?_, constructed.groups_group name members⟩
    exact (consistent.slots _ _ (consistent.mem_toList.mp member)).2

/-! ### Groups that overlap -/

def letter (index : Terminal) (c : Char) : TokenKind where
  name := String.singleton c
  source := String.singleton c
  index := index
  pattern := .fixed [c]

def overlapping : Vocabulary :=
  ((({} : Vocabulary).redefineGroup 4 "far" [letter 0 'a', letter 1 'b']).2.group "near"
    [letter 0 'a']).2

theorem constructed_overlapping : overlapping.Constructed :=
  .group _ _ _ (.group _ _ _ .empty)

theorem ownership_overlapping : overlapping.Constructed ∧
    overlapping.groupOf? 0 = some ⟨"near", 5, [0]⟩ ∧
    ∃ group next, overlapping.redefineGroup 5 "near" [letter 1 'b'] = (group, next) ∧
      next.groupOf? 0 = some ⟨"far", 4, [0, 1]⟩ ∧ next.groupOf? 1 = some group := by
  have owned : overlapping.groupOf? 0 = some ⟨"near", 5, [0]⟩ := by decide +kernel
  obtain ⟨_, _, redefined, _⟩ := ownership constructed_overlapping
  obtain ⟨group, next, called, rfl, _, members, others⟩ := redefined 5 "near" [letter 1 'b']
  have dropped := (others 0 (by decide)).2 (by rw [owned]; rfl)
  refine ⟨constructed_overlapping, owned, _, next, called, (dropped _).mpr ?_, members 1 (by decide)⟩
  refine ⟨by decide +kernel, by decide, by decide, ?_⟩
  intro other listed elsewhere _
  have groups : overlapping.groups = [⟨"far", 4, [0, 1]⟩, ⟨"near", 5, [0]⟩] := by decide +kernel
  change other ∈ overlapping.groups at listed
  rw [groups] at listed
  simp only [List.mem_cons, List.not_mem_nil, or_false] at listed
  rcases listed with rfl | rfl
  · exact Nat.le_refl _
  · exact absurd rfl elsewhere

end Vocabulary

end CanonicalLR
