import CanonicalLR.Proofs.Derivation.Beginnings
import CanonicalLR.Proofs.Flat.Cycles
import CanonicalLR.Proofs.Flat.Sentences

namespace CanonicalLR

namespace Expansion
open FlatGrammar

variable {grammar : Grammar} {root id : RuleId} {start number : Nat} {all left : List RuleId}
  {expansion : Expansion} {rule : Rule} {body inner : List Op}

theorem Flattened.vanishes_iff (invariant : Flattened grammar start [] all expansion)
    (apart : grammar.NamesApart) (few : expansion.flat.nonterminals.length ≤ 90000)
    (member : id ∈ all) (found : grammar.get? id = some rule)
    (numbered : expansion.number? rule.name = some number)
    (defined : grammar.bodyOf? id = some body) :
    expansion.flat.Vanishes [.nonterminal number] ↔ grammar.Matches body [] := by
  rw [invariant.matches_iff apart few member found numbered defined]
  constructor
  · rintro ⟨trees, derives, leaves⟩
    obtain ⟨tree, rfl⟩ := List.length_eq_one_iff.mp derives.length_eq
    rw [forestLeaves_singleton] at leaves
    exact ⟨tree, derives, by rw [leaves, List.map_nil]⟩
  · rintro ⟨tree, derives, spells⟩
    refine ⟨[tree], derives, ?_⟩
    rw [forestLeaves_singleton]
    exact List.map_eq_nil_iff.mp spells

theorem Finished.vanishes_repetition (finished : Finished grammar root expansion start all left)
    (isRepetition : IsRepetition grammar root expansion number inner) :
    expansion.flat.Vanishes [.nonterminal number] := by
  obtain ⟨_, repetition, numbered, _, rounds, _, bodies, _⟩ := isRepetition
  have ends : [] ∈ languageOf (expansion.bodiesOf (repetitionName repetition)) := by
    rw [bodies]
    exact .inl Language.nil_mem_one
  have produces : expansion.flat.HasProduction number ⟨repetitionName repetition, []⟩ :=
    (finished.invariant.hasProduction_iff finished.apart finished.few numbered).mpr ⟨rfl, ends⟩
  exact .of_production produces vanishes_nil

theorem Finished.isRepetition_of_mem (finished : Finished grammar root expansion start all left)
    {entry : NonterminalEntry} (member : entry ∈ expansion.flat.nonterminals)
    (marked : Rule.isRepetition entry.name = true) :
    ∃ inner, IsRepetition grammar root expansion entry.index inner := by
  rcases Expansion.mem_entries.mp member with ⟨place, found, same⟩ | ⟨same, _⟩
  · have numbered : expansion.number? entry.name = some entry.index :=
      (number?_eq_some_iff finished.invariant.tidy.nodup).mpr ⟨place, found, same⟩
    obtain ⟨repetition, less, named⟩ := finished.invariant.tidy.exists_repetition finished.apart
      (Array.mem_of_getElem? found).val marked
    obtain ⟨inner, repeated, repeats⟩ := finished.sourced.repetitions repetition less
    rw [named] at numbered
    exact ⟨inner, repeated, repetition, numbered, repeats⟩
  · rw [same] at marked
    cases marked

end Expansion

namespace Grammar
open Expansion

variable {grammar : Grammar} {root : RuleId} {flat : FlatGrammar}

/-- Validation finds a rule nullable if and only if the sets of the flat grammar hold its number, and
this is so if and only if its body matches the empty string. They hold the number of every
repetition. -/
theorem nullabilities_agree (constructed : grammar.Constructed)
    (flattened : (grammar.flatten root).1 = .ok flat) (few : flat.nonterminals.length ≤ 90000) :
    (∀ id, grammar.Reaches root id → ∃ rule body number, grammar.get? id = some rule ∧
      rule.body = some body ∧ nonterminalIndex? flat.nonterminals rule.name = some number ∧
      (id ∈ grammar.nullableRules (grammar.reachable root) ↔
        (FirstSets.compute flat).isNullable (.nonterminal number) = true) ∧
      ((FirstSets.compute flat).isNullable (.nonterminal number) = true ↔
        grammar.Matches body [])) ∧
    ∀ entry ∈ flat.nonterminals, Rule.isRepetition entry.name = true →
      (FirstSets.compute flat).isNullable (.nonterminal entry.index) = true := by
  obtain ⟨expansion, start, all, left, rfl, finished⟩ :=
    finished_of_flatten constructed flattened few
  constructor
  · intro id reached
    have member := finished.invariant.mem_of_refers finished.rootIn (refers_iff_reaches.mpr reached)
    obtain ⟨rule, body, number, found, defined, numbered, _⟩ := finished.invariant.stands id member
    have bodyOf : grammar.bodyOf? id = some body := bodyOf?_eq_some_iff.mpr ⟨rule, found, defined⟩
    have inSets : (FirstSets.compute expansion.flat).isNullable (.nonterminal number) = true ↔
        grammar.Matches body [] :=
      FirstSets.isNullable_iff.trans
        (finished.invariant.vanishes_iff finished.apart finished.few member found numbered bodyOf)
    have inRules : id ∈ grammar.nullableRules (grammar.reachable root) ↔
        grammar.Matches body [] := by
      rw [mem_nullableRules closed_reachable, mem_reachable, Nullable, bodyOf]
      simp [reached]
    exact ⟨rule, body, number, found, defined,
      (finished.invariant.tidy.nonterminalIndex?_eq_some_iff finished.apart).mpr (.inl numbered),
      inRules.trans inSets.symm, inSets⟩
  · intro entry member marked
    obtain ⟨inner, isRepetition⟩ := finished.isRepetition_of_mem member marked
    exact FirstSets.isNullable_iff.mpr (finished.vanishes_repetition isRepetition)

def pairOfSides : Grammar :=
  ⟨#[{ name := "pair", body := some [.subRule 1, .consume 0, .subRule 1] },
    { name := "side", body := some [.choice [[.consume 1, .subRule 0], [.subRule 2, .subRule 2]]] },
    { name := "end", body := some [.many [.consume 2], .option [.subRule 0]] }]⟩

def flatPairOfSides : FlatGrammar :=
  { productions := #[⟨"S'", [.nonterminal 10000]⟩,
      ⟨"pair", [.nonterminal 10001, .terminal 0, .nonterminal 10001]⟩,
      ⟨"side", [.terminal 1, .nonterminal 10000]⟩,
      ⟨"side", [.nonterminal 10002, .nonterminal 10002]⟩, ⟨"MANY_0", []⟩,
      ⟨"MANY_0", [.terminal 2, .nonterminal 10003]⟩, ⟨"end", [.nonterminal 10003]⟩,
      ⟨"end", [.nonterminal 10003, .nonterminal 10000]⟩]
    nonterminals := [⟨"pair", 10000⟩, ⟨"side", 10001⟩, ⟨"end", 10002⟩, ⟨"MANY_0", 10003⟩,
      ⟨"S'", 99999⟩] }

theorem constructed_pairOfSides : pairOfSides.Constructed := by
  have pairAdded : ({} : Grammar).rule "pair" [.subRule 1, .consume 0, .subRule 1] =
      .ok (0, ⟨pairOfSides.rules.pop.pop⟩) := rfl
  have sideAdded : (⟨pairOfSides.rules.pop.pop⟩ : Grammar).rule "side"
      [.choice [[.consume 1, .subRule 0], [.subRule 2, .subRule 2]]] =
      .ok (1, ⟨pairOfSides.rules.pop⟩) := rfl
  have endAdded : (⟨pairOfSides.rules.pop⟩ : Grammar).rule "end"
      [.many [.consume 2], .option [.subRule 0]] = .ok (2, pairOfSides) := rfl
  exact ((Constructed.empty.rule pairAdded).rule sideAdded).rule endAdded

theorem flatten_pairOfSides : (pairOfSides.flatten 0).1 = .ok flatPairOfSides := by decide +kernel

theorem reaches_pairOfSides : pairOfSides.Reaches 0 1 :=
  .single ⟨_, rfl, .here List.mem_cons_self⟩

theorem nullabilities_agree_pairOfSides :
    pairOfSides.Constructed ∧ (pairOfSides.flatten 0).1 = .ok flatPairOfSides ∧
      flatPairOfSides.nonterminals.length ≤ 90000 ∧ pairOfSides.Reaches 0 1 ∧
      1 ∈ pairOfSides.nullableRules (pairOfSides.reachable 0) ∧
      (FirstSets.compute flatPairOfSides).isNullable (.nonterminal 10001) = true ∧
      pairOfSides.Matches [.choice [[.consume 1, .subRule 0], [.subRule 2, .subRule 2]]] [] ∧
      (FirstSets.compute flatPairOfSides).isNullable (.nonterminal 10003) = true := by
  have agree := nullabilities_agree constructed_pairOfSides flatten_pairOfSides (by decide)
  obtain ⟨_, _, _, ⟨⟩, ⟨⟩, ⟨⟩, inRules, inSets⟩ := agree.1 1 reaches_pairOfSides
  have nullable : (FirstSets.compute flatPairOfSides).isNullable (.nonterminal 10001) = true := by
    decide +kernel
  exact ⟨constructed_pairOfSides, flatten_pairOfSides, by decide, reaches_pairOfSides,
    inRules.mpr nullable, nullable, inSets.mp nullable,
    agree.2 ⟨"MANY_0", 10003⟩ (by decide) (by decide)⟩

end Grammar

end CanonicalLR
