import Std.Data.String.ToInt
import CanonicalLR.Proofs.Item.Least
import CanonicalLR.Proofs.Json.Reader
import Mathlib.Logic.Function.Basic

namespace CanonicalLR

/-! ### Texts joined by separators -/

theorem intercalate_eq_nil_iff (separator : Char) {pieces : List (List Char)}
    (solid : ∀ piece ∈ pieces, piece ≠ [] ∧ separator ∉ piece) :
    [separator].intercalate pieces = [] ↔ pieces = [] := by
  cases pieces with
  | nil => simp
  | cons piece later =>
      have first := (solid piece List.mem_cons_self).1
      cases later with
      | nil => simpa using first
      | cons next later => simp [List.intercalate_cons_cons, first]

theorem eq_of_intercalate_eq {separator : Char} {pieces others : List (List Char)}
    (solid : ∀ piece ∈ pieces, piece ≠ [] ∧ separator ∉ piece)
    (solid' : ∀ piece ∈ others, piece ≠ [] ∧ separator ∉ piece)
    (same : [separator].intercalate pieces = [separator].intercalate others) : pieces = others := by
  have empty := intercalate_eq_nil_iff separator solid
  have empty' := intercalate_eq_nil_iff separator solid'
  by_cases none : pieces = []
  · rw [none]
    exact (empty'.mp (same ▸ empty.mpr none)).symm
  · have some : others ≠ [] := fun none' => none (empty.mp (same.trans (empty'.mpr none')))
    have absent piece (member : piece ∈ pieces) := (solid piece member).2
    have absent' piece (member : piece ∈ others) := (solid' piece member).2
    rw [← List.splitOn_intercalate separator absent none, same,
      List.splitOn_intercalate separator absent' some]

theorem not_mem_intercalate {c separator : Char} {pieces : List (List Char)} (other : c ≠ separator)
    (absent : ∀ piece ∈ pieces, c ∉ piece) : c ∉ [separator].intercalate pieces := by
  induction pieces with
  | nil => simp
  | cons piece later ih =>
      obtain ⟨here, behind⟩ := List.forall_mem_cons.mp absent
      cases later with
      | nil => simpa using here
      | cons next later => simpa [List.intercalate_cons_cons, here, other] using ih behind

namespace ItemSet

/-! ### Numbers -/

def isNumeral (c : Char) : Bool :=
  c == '-' || c.isDigit

theorem not_mem_ofNat {c : Char} (plain : isNumeral c = false) (number : Nat) :
    c ∉ (toString number).toList := by
  intro member
  have digit := JsonValue.isDigit_toDigits number c (Nat.toList_repr ▸ member)
  simp [isNumeral, digit] at plain

theorem not_mem_ofInt {c : Char} (plain : isNumeral c = false) (value : Int) :
    c ∉ (toString value).toList := by
  cases value with
  | ofNat number => exact not_mem_ofNat plain number
  | negSucc number =>
      rw [JsonValue.toList_toString_negSucc, ← Nat.toList_repr]
      refine List.not_mem_cons_of_ne_of_not_mem ?_ (not_mem_ofNat plain (number + 1))
      rintro rfl
      cases plain

theorem toString_ne_nil (value : Int) : (toString value).toList ≠ [] := by
  obtain ⟨c, more, shape, _⟩ := JsonValue.exists_toString_eq_cons value
  rw [shape]
  exact List.cons_ne_nil c more

/-! ### Keys -/

variable {core other : Core} {terminals others : OrderedSet Terminal}

/-- The texts of terminals, with a comma between them. -/
def listed (terminals : OrderedSet Terminal) : List Char :=
  [','].intercalate (terminals.members.map fun terminal => (toString terminal).toList)

theorem not_mem_listed {c : Char} (plain : isNumeral c = false) (noComma : c ≠ ',') :
    c ∉ listed terminals := by
  refine not_mem_intercalate noComma fun piece member => ?_
  obtain ⟨terminal, _, rfl⟩ := List.mem_map.mp member
  exact not_mem_ofInt plain terminal

theorem listed_injective : Function.Injective listed := by
  intro terminals others same
  have solid (terminals : OrderedSet Terminal) :
      ∀ piece ∈ terminals.members.map fun terminal => (toString terminal).toList,
        piece ≠ [] ∧ ',' ∉ piece := by
    intro piece member
    obtain ⟨terminal, _, rfl⟩ := List.mem_map.mp member
    exact ⟨toString_ne_nil terminal, not_mem_ofInt rfl terminal⟩
  have texts := eq_of_intercalate_eq (solid terminals) (solid others) same
  have members : terminals.members = others.members :=
    List.map_injective_iff.mpr (fun a b same => Int.repr_inj.mp (String.toList_inj.mp same)) texts
  exact OrderedSet.ext fun terminal => by rw [← OrderedSet.mem_members, members]; rfl

def itemParts (core : Core) (terminals : OrderedSet Terminal) : List (List Char) :=
  [(toString core.production).toList, (toString core.dot).toList, listed terminals]

theorem not_mem_itemParts {c : Char} (plain : isNumeral c = false) (noComma : c ≠ ',') :
    ∀ piece ∈ itemParts core terminals, c ∉ piece := by
  intro piece member
  simp only [itemParts, List.mem_cons, List.not_mem_nil, or_false] at member
  obtain rfl | rfl | rfl := member
  · exact not_mem_ofNat plain _
  · exact not_mem_ofNat plain _
  · exact not_mem_listed plain noComma

theorem toList_itemKey (core : Core) (terminals : OrderedSet Terminal) :
    (itemKey core terminals).toList = ['.'].intercalate (itemParts core terminals) := by
  have dot : (toString ".").toList = ['.'] := rfl
  simp [itemKey, itemParts, listed, dot, String.toList_intercalate, List.intercalate_cons_cons,
    Function.comp_def]

theorem splitOn_itemKey (core : Core) (terminals : OrderedSet Terminal) :
    (itemKey core terminals).toList.splitOn '.' = itemParts core terminals := by
  rw [toList_itemKey]
  exact List.splitOn_intercalate '.' (not_mem_itemParts rfl (by decide)) (List.cons_ne_nil _ _)

theorem itemKey_injective (same : itemKey core terminals = itemKey other others) :
    core = other ∧ terminals = others := by
  have parts := congrArg (fun key : String => key.toList.splitOn '.') same
  simp only [splitOn_itemKey, itemParts, List.cons.injEq, and_true] at parts
  obtain ⟨production, dot, terminals⟩ := parts
  have production := Nat.repr_inj.mp (String.toList_inj.mp production)
  have dot := Nat.repr_inj.mp (String.toList_inj.mp dot)
  obtain ⟨production', dot'⟩ := core
  cases other
  exact ⟨by simp_all, listed_injective terminals⟩

theorem itemKey_solid :
    (itemKey core terminals).toList ≠ [] ∧ '|' ∉ (itemKey core terminals).toList := by
  rw [toList_itemKey]
  refine ⟨?_, not_mem_intercalate (by decide) (not_mem_itemParts rfl (by decide))⟩
  simp [itemParts, List.intercalate_cons_cons]

theorem toList_canonicalKey (items : ItemSet) :
    items.canonicalKey.toList = ['|'].intercalate
      (items.entries.map fun (core, terminals) => (itemKey core terminals).toList) := by
  simp [canonicalKey, String.toList_intercalate, Function.comp_def]

theorem canonicalKey_injective : Function.Injective canonicalKey := by
  intro items more same
  have solid (items : ItemSet) :
      ∀ piece ∈ items.entries.map fun (core, terminals) => (itemKey core terminals).toList,
        piece ≠ [] ∧ '|' ∉ piece := by
    intro piece member
    obtain ⟨_, _, rfl⟩ := List.mem_map.mp member
    exact itemKey_solid
  have texts := congrArg String.toList same
  rw [toList_canonicalKey, toList_canonicalKey] at texts
  have entries : items.entries = more.entries := by
    refine List.map_injective_iff.mpr ?_ (eq_of_intercalate_eq (solid items) (solid more) texts)
    rintro ⟨core, terminals⟩ ⟨other, others⟩ same
    obtain ⟨rfl, rfl⟩ := itemKey_injective (String.toList_inj.mp same)
    rfl
  obtain ⟨⟨entries', increasing⟩⟩ := items
  obtain ⟨⟨others, increasing'⟩⟩ := more
  cases (entries : entries' = others)
  rfl

/-! ### Items added one after the other -/

/-- All lookaheads that a core is added with. -/
def givenFor (entries : List (Core × List Terminal)) (core : Core) : List Terminal :=
  (entries.filter fun entry => entry.1 = core).flatMap Prod.snd

theorem hasCore_ofItems {entries : List (Core × List Terminal)} :
    (ofItems entries).HasCore core ↔ core ∈ entries.map Prod.fst := by
  rw [← mem_facts_none, mem_facts_ofItems, List.mem_map]
  refine exists_congr fun entry => and_congr_right fun _ => ?_
  simp [Brings, eq_comm]

theorem hasItem_ofItems {entries : List (Core × List Terminal)} {terminal : Terminal} :
    (ofItems entries).HasItem core terminal ↔ terminal ∈ givenFor entries core := by
  rw [← mem_facts_some, mem_facts_ofItems, givenFor, List.mem_flatMap]
  refine exists_congr fun entry => ?_
  simp [Brings, and_assoc, eq_comm]

theorem ofItems_eq_iff {first second : List (Core × List Terminal)} :
    ofItems first = ofItems second ↔
      (∀ core, core ∈ first.map Prod.fst ↔ core ∈ second.map Prod.fst) ∧
        ∀ core terminal, terminal ∈ givenFor first core ↔ terminal ∈ givenFor second core := by
  simp only [← hasCore_ofItems, ← hasItem_ofItems]
  constructor
  · intro same
    simp [same]
  · rintro ⟨cores, items⟩
    apply facts_injective
    ext ⟨core, _ | terminal⟩
    · exact cores core
    · exact items core terminal

theorem wouldGrow_iff {items : ItemSet} {terminals : List Terminal} :
    items.wouldGrow core terminals = true ↔ items.insert core terminals ≠ items := by
  constructor
  · intro grows same
    obtain ⟨fact, brought, missing⟩ := exists_new_fact grows
    exact missing (same ▸ brought)
  · intro changes
    by_contra still
    exact changes (insert_eq_self (Bool.eq_false_of_not_eq_true still))

/-- Item sets have the same key when they are equal, and they are equal when the same cores were added,
each with the same lookaheads altogether, in whatever order and portions. Adding an item reports
growth when it changes the set. -/
theorem canonicalKey_exact (first second : List (Core × List Terminal)) :
    ((ofItems first).canonicalKey = (ofItems second).canonicalKey ↔
      ofItems first = ofItems second) ∧
    (ofItems first = ofItems second ↔
      (∀ core, core ∈ first.map Prod.fst ↔ core ∈ second.map Prod.fst) ∧
        ∀ core terminal, terminal ∈ givenFor first core ↔ terminal ∈ givenFor second core) ∧
    ∀ (items : ItemSet) (core : Core) (terminals : List Terminal),
      items.wouldGrow core terminals = true ↔ items.insert core terminals ≠ items :=
  ⟨canonicalKey_injective.eq_iff, ofItems_eq_iff, fun _ _ _ => wouldGrow_iff⟩

/-- A negative number, a set of lookaheads that is empty, and items added in portions. -/
example : (ofItems [(⟨2, 1⟩, [5, -1]), (⟨0, 0⟩, []), (⟨2, 1⟩, [5])]).canonicalKey =
    "0.0.|2.1.-1,5" := by
  decide

end ItemSet

end CanonicalLR
