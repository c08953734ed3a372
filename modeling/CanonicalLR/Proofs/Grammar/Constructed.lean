import CanonicalLR.Grammar.Basic
import Mathlib.Data.List.Induction
import Mathlib.Data.List.Nodup

namespace CanonicalLR

def repetitionName (number : Nat) : String :=
  Rule.repetitionMark ++ toString number

theorem numbered_injective (mark : String) :
    Function.Injective fun number : Nat => mark ++ toString number := by
  intro first second same
  have digits : Nat.repr first = Nat.repr second := (String.append_right_inj _).mp same
  have lists := congrArg String.toList digits
  rw [Nat.toList_repr, Nat.toList_repr] at lists
  have values := congrArg (Nat.ofDigitChars 10 · 0) lists
  simpa only [Nat.ofDigitChars_ten_toDigits] using values

theorem repetitionName_injective : Function.Injective repetitionName :=
  numbered_injective Rule.repetitionMark

theorem isRepetition_repetitionName (number : Nat) :
    Rule.isRepetition (repetitionName number) = true := by
  rw [Rule.isRepetition, repetitionName, String.toList_append, List.isPrefixOf_iff_prefix]
  exact List.prefix_append _ _

theorem isReserved_startName : Rule.isReserved Rule.startName = true := by decide

theorem startName_ne_repetitionName (number : Nat) : Rule.startName ≠ repetitionName number := by
  intro same
  have marked := isRepetition_repetitionName number
  rw [← same] at marked
  exact absurd marked (by decide)

theorem isReserved_repetitionName (number : Nat) :
    Rule.isReserved (repetitionName number) = true := by
  rw [Rule.isReserved, isRepetition_repetitionName, Bool.or_true]

namespace Grammar

/-- Rules are declared and defined one after the other. -/
inductive Constructed : Grammar → Prop where
  | empty : Constructed {}
  | declare {grammar next : Grammar} {name : String} {id : RuleId} (earlier : Constructed grammar)
      (declared : grammar.declare name = .ok (id, next)) : Constructed next
  | define {grammar next : Grammar} {id handle : RuleId} {body : List Op}
      (earlier : Constructed grammar) (defined : grammar.define id body = .ok (handle, next)) :
      Constructed next

variable {grammar next : Grammar}

theorem Constructed.rule {name : String} {body : List Op} {id : RuleId}
    (earlier : Constructed grammar) (added : grammar.rule name body = .ok (id, next)) :
    Constructed next := by
  unfold Grammar.rule at added
  cases declared : grammar.declare name with
  | error error =>
      rw [declared] at added
      cases added
  | ok result =>
      rw [declared] at added
      exact (earlier.declare declared).define added

def itemList : Grammar :=
  ⟨#[{ name := "list", body := some [.consume 0, .many [.consume 1, .consume 0]] }]⟩

theorem constructed_itemList : itemList.Constructed := by
  have added : ({} : Grammar).rule "list" [.consume 0, .many [.consume 1, .consume 0]] =
      .ok (0, itemList) := rfl
  exact Constructed.empty.rule added

structure NamesApart (grammar : Grammar) : Prop where
  nodup : (grammar.rules.toList.map (·.name)).Nodup
  unreserved : ∀ rule ∈ grammar.rules, Rule.isReserved rule.name = false

theorem NamesApart.declare {name : String} {id : RuleId} (apart : grammar.NamesApart)
    (declared : grammar.declare name = .ok (id, next)) : next.NamesApart := by
  unfold Grammar.declare at declared
  split at declared
  · cases declared
  · rename_i plain
    split at declared
    · cases declared
    · rename_i unknown
      cases declared
      have new : name ∉ grammar.rules.toList.map (·.name) := by
        rw [find?, Option.not_isSome_iff_eq_none, List.findIdx?_eq_none_iff] at unknown
        intro member
        obtain ⟨rule, present, same⟩ := List.mem_map.mp member
        have differs := unknown rule present
        rw [same, beq_self_eq_true] at differs
        cases differs
      constructor
      · rw [Array.toList_push, List.map_append]
        apply apart.nodup.append (List.nodup_singleton _)
        intro other member last
        obtain rfl : other = name := List.mem_singleton.mp last
        exact new member
      · intro rule member
        rcases Array.mem_push.mp member with old | rfl
        · exact apart.unreserved rule old
        · exact Bool.eq_false_iff.mpr plain

theorem names_set {id : RuleId} {rule : Rule} (found : grammar.get? id = some rule)
    (body : List Op) :
    (grammar.rules.set! id { rule with body := some body }).toList.map (·.name) =
      grammar.rules.toList.map (·.name) := by
  apply List.ext_getElem?
  intro place
  rw [Array.set!_eq_setIfInBounds, Array.toList_setIfInBounds, List.map_set, List.getElem?_set]
  split
  · rename_i here
    subst here
    rw [List.getElem?_map, Array.getElem?_toList, show grammar.rules[id]? = some rule from found]
    split
    · rfl
    · rename_i outside
      rw [List.length_map, Array.length_toList] at outside
      exact absurd (Array.getElem?_eq_some_iff.mp found).1 outside
  · rfl

theorem NamesApart.define {id handle : RuleId} {body : List Op} (apart : grammar.NamesApart)
    (defined : grammar.define id body = .ok (handle, next)) : next.NamesApart := by
  unfold Grammar.define at defined
  split at defined
  · cases defined
  · rename_i rule found
    split at defined
    · cases defined
    · cases defined
      have names := names_set found body
      constructor
      · rw [names]
        exact apart.nodup
      · intro other member
        have listed : other.name ∈ grammar.rules.toList.map (·.name) := by
          rw [← names]
          exact List.mem_map_of_mem member.val
        obtain ⟨old, present, same⟩ := List.mem_map.mp listed
        rw [← same]
        exact apart.unreserved old (Array.mem_toList_iff.mp present)

theorem Constructed.namesApart (constructed : grammar.Constructed) : grammar.NamesApart := by
  induction constructed with
  | empty => exact ⟨List.nodup_nil, fun _ member => absurd member (Array.not_mem_empty _)⟩
  | declare _ declared ih => exact ih.declare declared
  | define _ defined ih => exact ih.define defined

theorem define_push (grammar : Grammar) (name : String) (body : List Op) :
    Grammar.define ⟨grammar.rules.push { name, body := none }⟩ grammar.rules.size body =
      .ok (grammar.rules.size, ⟨grammar.rules.push { name, body := some body }⟩) := by
  simp [define, get?, Rule.isDefined, Array.setIfInBounds_def, Array.set_push]

theorem Constructed.push {rule : Rule} (constructed : grammar.Constructed)
    (unreserved : Rule.isReserved rule.name = false)
    (new : rule.name ∉ grammar.rules.toList.map (·.name)) :
    Constructed ⟨grammar.rules.push rule⟩ := by
  have unknown : grammar.find? rule.name = none := by
    rw [find?, List.findIdx?_eq_none_iff]
    intro other member
    rw [beq_eq_false_iff_ne]
    intro same
    exact new (List.mem_map.mpr ⟨other, member, same⟩)
  have declared : grammar.declare rule.name =
      .ok (grammar.rules.size, ⟨grammar.rules.push { name := rule.name, body := none }⟩) := by
    rw [Grammar.declare, unreserved, unknown]
    rfl
  obtain ⟨name, _ | body⟩ := rule
  · exact constructed.declare declared
  · exact (constructed.declare declared).define (define_push grammar name body)

/-- The grammars that can be written down are those with names that differ and are not reserved. -/
theorem constructed_iff : grammar.Constructed ↔ grammar.NamesApart := by
  refine ⟨Constructed.namesApart, fun apart => ?_⟩
  obtain ⟨⟨rules⟩⟩ := grammar
  induction rules using List.reverseRecOn with
  | nil => exact .empty
  | append_singleton rules rule ih =>
      obtain ⟨nodup, unreserved⟩ := apart
      rw [List.map_append, List.nodup_append] at nodup
      obtain ⟨front, _, differ⟩ := nodup
      have earlier : Constructed ⟨⟨rules⟩⟩ := by
        refine ih ⟨front, fun other member => unreserved other ?_⟩
        simpa using .inl (by simpa using member)
      have new : rule.name ∉ rules.map (·.name) := fun member => differ _ member _ (by simp) rfl
      have whole := earlier.push (unreserved rule (by simp)) new
      simpa using whole

theorem NamesApart.get?_unique (apart : grammar.NamesApart) {first second : RuleId}
    {rule other : Rule} (found : grammar.get? first = some rule)
    (foundOther : grammar.get? second = some other) (same : rule.name = other.name) :
    first = second := by
  obtain ⟨lessFirst, atFirst⟩ := Array.getElem?_eq_some_iff.mp found
  obtain ⟨lessSecond, atSecond⟩ := Array.getElem?_eq_some_iff.mp foundOther
  have inFirst : first < (grammar.rules.toList.map (·.name)).length := by simpa using lessFirst
  have inSecond : second < (grammar.rules.toList.map (·.name)).length := by simpa using lessSecond
  have equal : (grammar.rules.toList.map (·.name))[first] =
      (grammar.rules.toList.map (·.name))[second] := by
    simp only [List.getElem_map, Array.getElem_toList, atFirst, atSecond, same]
  exact apart.nodup.getElem_inj_iff.mp equal

theorem NamesApart.find?_name (apart : grammar.NamesApart) {id : RuleId} {rule : Rule}
    (found : grammar.get? id = some rule) : grammar.find? rule.name = some id := by
  obtain ⟨less, here⟩ := Array.getElem?_eq_some_iff.mp found
  rw [find?, List.findIdx?_eq_some_iff_getElem]
  refine ⟨less, ?_, ?_⟩
  · rw [Array.getElem_toList, here]
    exact beq_self_eq_true _
  · intro other before same
    have foundOther : grammar.get? other = some grammar.rules[other] :=
      Array.getElem?_eq_getElem (Nat.lt_trans before less)
    rw [Array.getElem_toList] at same
    exact absurd (apart.get?_unique foundOther found (eq_of_beq same)) (Nat.ne_of_lt before)

theorem NamesApart.unreserved_of_get? (apart : grammar.NamesApart) {id : RuleId} {rule : Rule}
    (found : grammar.get? id = some rule) : Rule.isReserved rule.name = false :=
  apart.unreserved rule (Array.mem_of_getElem? found)

end Grammar

end CanonicalLR
