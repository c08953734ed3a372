import CanonicalLR.Proofs.Flat.Expansion
import CanonicalLR.Proofs.Grammar.Written
import Mathlib.Computability.Language

namespace CanonicalLR

def languageOf (bodies : List (List Symbol)) : Language Symbol :=
  {body | body ∈ bodies}

theorem mem_languageOf {bodies : List (List Symbol)} {body : List Symbol} :
    body ∈ languageOf bodies ↔ body ∈ bodies := Iff.rfl

theorem languageOf_append (front back : List (List Symbol)) :
    languageOf (front ++ back) = languageOf front + languageOf back := by
  ext body
  rw [Language.mem_add, mem_languageOf, mem_languageOf, mem_languageOf, List.mem_append]

theorem languageOf_eraseDups (bodies : List (List Symbol)) :
    languageOf bodies.eraseDups = languageOf bodies := by
  ext body
  rw [mem_languageOf, mem_languageOf, List.mem_eraseDups]

theorem languageOf_empty_body : languageOf [[]] = 1 := by
  ext body
  rw [mem_languageOf, Language.mem_one, List.mem_singleton]

theorem languageOf_appendSymbol (bodies : List (List Symbol)) (symbol : Symbol) :
    languageOf (appendSymbol bodies symbol) = languageOf bodies * {[symbol]} := by
  ext body
  simp only [mem_languageOf, appendSymbol, List.mem_map, Language.mem_mul]
  constructor
  · rintro ⟨front, member, rfl⟩
    exact ⟨front, member, [symbol], rfl, rfl⟩
  · rintro ⟨front, member, _, rfl, rfl⟩
    exact ⟨front, member, rfl⟩

theorem languageOf_concatenations (bodies tails : List (List Symbol)) :
    languageOf (concatenations bodies tails) = languageOf bodies * languageOf tails := by
  ext body
  simp only [mem_languageOf, concatenations, List.mem_flatMap, List.mem_map, Language.mem_mul]

theorem languageOf_members (bodies : List (List Symbol)) (members : List Terminal) :
    languageOf (members.flatMap fun member => appendSymbol bodies (.terminal member)) =
      languageOf bodies * languageOf (members.map fun member => [.terminal member]) := by
  ext body
  simp only [mem_languageOf, appendSymbol, List.mem_flatMap, List.mem_map, Language.mem_mul]
  constructor
  · rintro ⟨member, listed, front, within, rfl⟩
    exact ⟨front, within, _, ⟨member, listed, rfl⟩, rfl⟩
  · rintro ⟨front, within, _, ⟨member, listed, rfl⟩, rfl⟩
    exact ⟨member, listed, front, within, rfl⟩

namespace Expansion

/-- The sequences of symbols that a body stands for. -/
inductive Compiled (grammar : Grammar) (expansion : Expansion) :
    List Op → Language Symbol → Prop where
  | nil : Compiled grammar expansion [] 1
  | consume {rest : List Op} {tails : Language Symbol} (terminal : Terminal)
      (tail : Compiled grammar expansion rest tails) :
      Compiled grammar expansion (.consume terminal :: rest) ({[.terminal terminal]} * tails)
  | subRule {id : RuleId} {rule : Rule} {number : Nat} {rest : List Op} {tails : Language Symbol}
      (found : grammar.get? id = some rule) (numbered : expansion.number? rule.name = some number)
      (tail : Compiled grammar expansion rest tails) :
      Compiled grammar expansion (.subRule id :: rest) ({[.nonterminal number]} * tails)
  | option {body rest : List Op} {inners tails : Language Symbol}
      (inner : Compiled grammar expansion body inners)
      (tail : Compiled grammar expansion rest tails) :
      Compiled grammar expansion (.option body :: rest) ((1 + inners) * tails)
  | choiceNil (rest : List Op) : Compiled grammar expansion (.choice [] :: rest) 0
  | choiceCons {alternative rest : List Op} {more : List (List Op)}
      {inners tails others : Language Symbol} (inner : Compiled grammar expansion alternative inners)
      (tail : Compiled grammar expansion rest tails)
      (later : Compiled grammar expansion (.choice more :: rest) others) :
      Compiled grammar expansion (.choice (alternative :: more) :: rest) (inners * tails + others)
  | group {rest : List Op} {tails : Language Symbol} (name : String) (members : List Terminal)
      (tail : Compiled grammar expansion rest tails) :
      Compiled grammar expansion (.group name members :: rest)
        (languageOf (members.map fun member => [.terminal member]) * tails)
  | many {body rest : List Op} {rounds tails : Language Symbol} {repetition number : Nat}
      (numbered : expansion.number? (repetitionName repetition) = some number)
      (bodies : languageOf (expansion.bodiesOf (repetitionName repetition)) =
        1 + rounds * {[.nonterminal number]})
      (inner : Compiled grammar expansion body rounds)
      (tail : Compiled grammar expansion rest tails) :
      Compiled grammar expansion (.many body :: rest) ({[.nonterminal number]} * tails)

variable {grammar : Grammar} {before middle after : Expansion}

theorem Extends.languageOf_eq (extension : before.Extends after) {repetition : Nat}
    {language : Language Symbol}
    (bodies : languageOf (before.bodiesOf (repetitionName repetition)) = 1 + language) :
    languageOf (after.bodiesOf (repetitionName repetition)) = 1 + language := by
  rw [extension.settled repetition]
  · exact bodies
  · intro none
    have nil : [] ∈ languageOf (before.bodiesOf (repetitionName repetition)) := by
      rw [bodies, Language.mem_add]
      exact .inl Language.nil_mem_one
    rw [none] at nil
    cases nil

theorem Compiled.extend {ops : List Op} {language : Language Symbol}
    (compiled : before.Compiled grammar ops language) (extension : before.Extends after) :
    after.Compiled grammar ops language := by
  induction compiled with
  | nil => exact .nil
  | consume terminal _ ih => exact .consume terminal ih
  | subRule found numbered _ ih => exact .subRule found (extension.number? numbered) ih
  | option _ _ ihInner ihTail => exact .option ihInner ihTail
  | choiceNil rest => exact .choiceNil rest
  | choiceCons _ _ _ ihInner ihTail ihLater => exact .choiceCons ihInner ihTail ihLater
  | group name members _ ih => exact .group name members ih
  | many numbered bodies _ _ ihInner ihTail =>
      exact .many (extension.number? numbered) (extension.languageOf_eq bodies) ihInner ihTail

def Repeats (grammar : Grammar) (expansion : Expansion) (repetition : Nat) (body : List Op) :
    Prop :=
  ∃ number rounds, expansion.number? (repetitionName repetition) = some number ∧
    languageOf (expansion.bodiesOf (repetitionName repetition)) =
      1 + rounds * {[.nonterminal number]} ∧ expansion.Compiled grammar body rounds

theorem Repeats.extend {repetition : Nat} {body : List Op}
    (repeats : before.Repeats grammar repetition body) (extension : before.Extends after) :
    after.Repeats grammar repetition body := by
  obtain ⟨number, rounds, numbered, bodies, compiled⟩ := repeats
  exact ⟨number, rounds, extension.number? numbered, extension.languageOf_eq bodies,
    compiled.extend extension⟩

theorem Compiled.append {front back : List Op} {first second : Language Symbol}
    (earlier : after.Compiled grammar front first) (later : after.Compiled grammar back second) :
    after.Compiled grammar (front ++ back) (first * second) := by
  induction earlier with
  | nil =>
      rw [one_mul]
      exact later
  | consume terminal _ ih =>
      rw [mul_assoc]
      exact .consume terminal ih
  | subRule found numbered _ ih =>
      rw [mul_assoc]
      exact .subRule found numbered ih
  | option inner _ _ ih =>
      rw [mul_assoc]
      exact .option inner ih
  | choiceNil rest =>
      rw [zero_mul]
      exact .choiceNil (rest ++ back)
  | choiceCons inner _ _ _ ihTail ihLater =>
      rw [add_mul, mul_assoc]
      exact .choiceCons inner ihTail ihLater
  | group name members _ ih =>
      rw [mul_assoc]
      exact .group name members ih
  | many numbered bodies inner _ _ ih =>
      rw [mul_assoc]
      exact .many numbered bodies inner ih

/-- What expanding operations does: the bodies are followed by all that the operations stand for,
nothing changes under the names that there were before, and new repetitions are those of bodies
written in the operations. -/
structure Expanded (grammar : Grammar) (ops : List Op) (bodies : List (List Symbol))
    (before : Expansion) (result : List (List Symbol)) (after : Expansion) : Prop where
  tidy : after.Tidy grammar
  extension : before.Extends after
  counted : after.repetitions = before.repetitions + bodyRepetitions ops
  kept : ∀ head, (∀ number, head = repetitionName number → number < before.repetitions) →
    after.bodiesOf head = before.bodiesOf head
  numbers : (∀ body ∈ bodies, before.Numbers body) → ∀ body ∈ result, after.Numbers body
  compiled : ∃ language, languageOf result = languageOf bodies * language ∧
    after.Compiled grammar ops language
  minted : ∀ repetition, before.repetitions ≤ repetition → repetition < after.repetitions →
    ∃ body, Written (.many body) ops ∧ after.Repeats grammar repetition body

theorem minted_of_eq {ops : List Op} (same : after.repetitions = before.repetitions) :
    ∀ repetition, before.repetitions ≤ repetition → repetition < after.repetitions →
      ∃ body, Written (.many body) ops ∧ after.Repeats grammar repetition body := by
  intro repetition old new
  omega

theorem Expanded.repetitions {ops : List Op} {bodies result : List (List Symbol)}
    (expanded : Expanded grammar ops bodies before result after) :
    before.repetitions ≤ after.repetitions := by
  rw [expanded.counted]
  exact Nat.le_add_right _ _

theorem expanded_nil {bodies : List (List Symbol)} (tidy : before.Tidy grammar) :
    Expanded grammar [] bodies before bodies before where
  tidy := tidy
  extension := .refl before
  counted := rfl
  kept := fun _ _ => rfl
  numbers := id
  compiled := ⟨1, (mul_one _).symm, .nil⟩
  minted := minted_of_eq rfl

theorem Expanded.append {front back : List Op} {bodies between result : List (List Symbol)}
    (earlier : Expanded grammar front bodies before between middle)
    (later : Expanded grammar back between middle result after) :
    Expanded grammar (front ++ back) bodies before result after := by
  refine ⟨later.tidy, earlier.extension.trans later.extension, ?_, ?_,
    later.numbers ∘ earlier.numbers, ?_, ?_⟩
  · rw [later.counted, earlier.counted, bodyRepetitions_append, Nat.add_assoc]
  · intro head old
    rw [later.kept head, earlier.kept head old]
    intro number same
    exact (old number same).trans_le earlier.repetitions
  · obtain ⟨first, firstEq, compiledFirst⟩ := earlier.compiled
    obtain ⟨second, secondEq, compiledSecond⟩ := later.compiled
    refine ⟨first * second, ?_, (compiledFirst.extend later.extension).append compiledSecond⟩
    rw [secondEq, firstEq, mul_assoc]
  · intro repetition old new
    rcases Nat.lt_or_ge repetition middle.repetitions with inFront | inBack
    · obtain ⟨body, written, repeats⟩ := earlier.minted repetition old inFront
      exact ⟨body, written.mono (List.subset_append_left _ _), repeats.extend later.extension⟩
    · obtain ⟨body, written, repeats⟩ := later.minted repetition inBack new
      exact ⟨body, written.mono (List.subset_append_right _ _), repeats⟩

theorem Expanded.alone {ops : List Op} {result : List (List Symbol)}
    (expanded : Expanded grammar ops [[]] before result after) :
    after.Compiled grammar ops (languageOf result) ∧ ∀ body ∈ result, after.Numbers body := by
  obtain ⟨language, same, compiled⟩ := expanded.compiled
  rw [languageOf_empty_body, one_mul] at same
  rw [same]
  refine ⟨compiled, expanded.numbers ?_⟩
  intro body member number occurs
  rw [List.mem_singleton.mp member] at occurs
  cases occurs

/-! ### Single operations -/

theorem Numbers.append {expansion : Expansion} {front back : List Symbol}
    (first : expansion.Numbers front) (second : expansion.Numbers back) :
    expansion.Numbers (front ++ back) := by
  intro number member
  rcases List.mem_append.mp member with inFront | inBack
  · exact first number inFront
  · exact second number inBack

theorem numbers_terminal (expansion : Expansion) (terminal : Terminal) :
    expansion.Numbers [.terminal terminal] := by
  intro number member
  cases List.mem_singleton.mp member

theorem numbers_nonterminal {expansion : Expansion} (tidy : expansion.Tidy grammar) {name : String}
    {number : Nat} (numbered : expansion.number? name = some number) :
    expansion.Numbers [.nonterminal number] := by
  intro other member
  cases List.mem_singleton.mp member
  obtain ⟨place, found, rfl⟩ := (number?_eq_some_iff tidy.nodup).mp numbered
  exact Nat.add_lt_add_left (Array.getElem?_eq_some_iff.mp found).1 _

theorem numbers_appendSymbol {expansion : Expansion} {bodies : List (List Symbol)}
    {symbol : Symbol} (numbers : ∀ body ∈ bodies, expansion.Numbers body)
    (last : expansion.Numbers [symbol]) :
    ∀ body ∈ appendSymbol bodies symbol, expansion.Numbers body := by
  intro body member
  obtain ⟨front, listed, rfl⟩ := List.mem_map.mp member
  exact (numbers front listed).append last

theorem numbers_concatenations {expansion : Expansion} {bodies tails : List (List Symbol)}
    (first : ∀ body ∈ bodies, expansion.Numbers body)
    (second : ∀ body ∈ tails, expansion.Numbers body) :
    ∀ body ∈ concatenations bodies tails, expansion.Numbers body := by
  intro body member
  obtain ⟨front, inBodies, joined⟩ := List.mem_flatMap.mp member
  obtain ⟨back, inTails, rfl⟩ := List.mem_map.mp joined
  exact (first front inBodies).append (second back inTails)

variable {bodies tails : List (List Symbol)}

theorem expanded_consume (terminal : Terminal) (tidy : before.Tidy grammar) :
    Expanded grammar [.consume terminal] bodies before
      (appendSymbol bodies (.terminal terminal)) before where
  tidy := tidy
  extension := .refl before
  counted := rfl
  kept := fun _ _ => rfl
  numbers := fun numbers => numbers_appendSymbol numbers (numbers_terminal before terminal)
  compiled := ⟨_, by rw [languageOf_appendSymbol, mul_one], .consume terminal .nil⟩
  minted := minted_of_eq rfl

theorem expanded_group (name : String) (members : List Terminal) (tidy : before.Tidy grammar) :
    Expanded grammar [.group name members] bodies before
      (members.flatMap fun member => appendSymbol bodies (.terminal member)) before where
  tidy := tidy
  extension := .refl before
  counted := rfl
  kept := fun _ _ => rfl
  numbers := by
    intro numbers body member
    obtain ⟨terminal, _, within⟩ := List.mem_flatMap.mp member
    exact numbers_appendSymbol numbers (numbers_terminal before terminal) body within
  compiled := ⟨_, by rw [languageOf_members, mul_one], .group name members .nil⟩
  minted := minted_of_eq rfl

theorem expanded_subRule {id : RuleId} {rule : Rule} (found : grammar.get? id = some rule)
    (tidy : before.Tidy grammar) :
    Expanded grammar [.subRule id] bodies before
      (appendSymbol bodies (.nonterminal (before.number rule.name).1))
      (before.number rule.name).2 := by
  have known : (∃ other ∈ grammar.rules, other.name = rule.name) ∨
      ∃ number < before.repetitions, rule.name = repetitionName number :=
    .inl ⟨rule, Array.mem_of_getElem? found, rfl⟩
  have extension := extends_number before rule.name
  have numbered := number?_number before rule.name
  have tidyAfter := tidy.number known
  refine ⟨tidyAfter, extension, repetitions_number before rule.name, ?_, ?_, ?_,
    minted_of_eq (repetitions_number before rule.name)⟩
  · exact fun head _ => bodiesOf_number before rule.name head
  · intro numbers
    exact numbers_appendSymbol (fun body member => extension.numbers (numbers body member))
      (numbers_nonterminal tidyAfter numbered)
  · exact ⟨_, by rw [languageOf_appendSymbol, mul_one], .subRule found numbered .nil⟩

theorem Expanded.option {body : List Op}
    (inner : Expanded grammar body [[]] before tails after) :
    Expanded grammar [.option body] bodies before (bodies ++ concatenations bodies tails)
      after := by
  obtain ⟨compiled, numbersTails⟩ := inner.alone
  refine ⟨inner.tidy, inner.extension, ?_, inner.kept, ?_, ?_, ?_⟩
  · rw [inner.counted, bodyRepetitions_singleton, Op.repetitions]
  · intro numbers result member
    have kept : ∀ body ∈ bodies, after.Numbers body :=
      fun body listed => inner.extension.numbers (numbers body listed)
    rcases List.mem_append.mp member with old | new
    · exact kept result old
    · exact numbers_concatenations kept numbersTails result new
  · refine ⟨_, ?_, .option compiled .nil⟩
    rw [languageOf_append, languageOf_concatenations, mul_one, mul_add, mul_one]
  · intro repetition old new
    obtain ⟨round, written, repeats⟩ := inner.minted repetition old new
    exact ⟨round, (Op.Encloses.option body).written written, repeats⟩

theorem expanded_choiceNil (tidy : before.Tidy grammar) :
    Expanded grammar [.choice []] bodies before [] before where
  tidy := tidy
  extension := .refl before
  counted := rfl
  kept := fun _ _ => rfl
  numbers := fun _ _ member => absurd member List.not_mem_nil
  compiled := by
    refine ⟨0, ?_, .choiceNil []⟩
    rw [mul_zero]
    ext body
    exact iff_of_false List.not_mem_nil (Language.notMem_zero body)
  minted := minted_of_eq rfl

theorem Expanded.choiceCons {alternative : List Op} {more : List (List Op)}
    {later : List (List Symbol)}
    (inner : Expanded grammar alternative [[]] before tails middle)
    (others : Expanded grammar [.choice more] bodies middle later after) :
    Expanded grammar [.choice (alternative :: more)] bodies before
      (concatenations bodies tails ++ later) after := by
  obtain ⟨compiled, numbersTails⟩ := inner.alone
  refine ⟨others.tidy, inner.extension.trans others.extension, ?_, ?_, ?_, ?_, ?_⟩
  · rw [others.counted, inner.counted, bodyRepetitions_singleton, bodyRepetitions_singleton,
      Op.repetitions, Op.repetitions, choiceRepetitions, Nat.add_assoc]
  · intro head old
    rw [others.kept head, inner.kept head old]
    intro number same
    exact (old number same).trans_le inner.repetitions
  · intro numbers result member
    have kept : ∀ body ∈ bodies, middle.Numbers body :=
      fun body listed => inner.extension.numbers (numbers body listed)
    rcases List.mem_append.mp member with here | there
    · exact others.extension.numbers (numbers_concatenations kept numbersTails result here)
    · exact others.numbers kept result there
  · obtain ⟨language, same, compiledOthers⟩ := others.compiled
    refine ⟨_, ?_, .choiceCons (compiled.extend others.extension) .nil compiledOthers⟩
    rw [languageOf_append, languageOf_concatenations, same, mul_one, mul_add]
  · intro repetition old new
    rcases Nat.lt_or_ge repetition middle.repetitions with here | there
    · obtain ⟨round, written, repeats⟩ := inner.minted repetition old here
      exact ⟨round, (Op.Encloses.choice List.mem_cons_self).written written,
        repeats.extend others.extension⟩
    · obtain ⟨round, written, repeats⟩ := others.minted repetition there new
      refine ⟨round, ?_, repeats⟩
      rcases written.of_singleton with differ | ⟨_, encloses, deeper⟩
      · cases differ
      · cases encloses with
        | choice member =>
            exact (Op.Encloses.choice (List.mem_cons_of_mem _ member)).written deeper

def beginRepetition (expansion : Expansion) : Nat × Expansion :=
  number { expansion with repetitions := expansion.repetitions + 1 }
    (repetitionName expansion.repetitions)

theorem expand_many (grammar : Grammar) (body : List Op) (bodies : List (List Symbol))
    (before : Expansion) :
    (Op.many body).expand grammar bodies before = do
      let (rounds, after) ← expandBody grammar [[]] before.beginRepetition.2 body
      return (appendSymbol bodies (.nonterminal before.beginRepetition.1),
        after.push (repetitionName before.repetitions)
          ([] :: appendSymbol rounds (.nonterminal before.beginRepetition.1))) := rfl

theorem tidy_beginRepetition (tidy : before.Tidy grammar) :
    before.beginRepetition.2.Tidy grammar := by
  apply Tidy.number _ (.inr ⟨before.repetitions, Nat.lt_succ_self _, rfl⟩)
  refine ⟨tidy.nodup, ?_, ?_, tidy.numbers⟩
  · intro name member
    rcases tidy.named name member with rule | ⟨number, less, same⟩
    · exact .inl rule
    · exact .inr ⟨number, Nat.lt_succ_of_lt less, same⟩
  · intro number atLeast
    exact tidy.heads number (Nat.le_of_succ_le atLeast)

theorem extends_beginRepetition (expansion : Expansion) :
    Extends expansion expansion.beginRepetition.2 := by
  have counted : Extends expansion { expansion with repetitions := expansion.repetitions + 1 } :=
    ⟨List.prefix_refl _, List.prefix_refl _, fun _ _ => rfl⟩
  exact counted.trans (extends_number _ _)

theorem Expanded.bodiesOf_repetition {body : List Op} (tidy : before.Tidy grammar)
    (inner : Expanded grammar body [[]] before.beginRepetition.2 tails after) :
    after.bodiesOf (repetitionName before.repetitions) = [] := by
  have count : before.beginRepetition.2.repetitions = before.repetitions + 1 :=
    repetitions_number _ _
  have same : before.beginRepetition.2.bodiesOf (repetitionName before.repetitions) =
      before.bodiesOf (repetitionName before.repetitions) := bodiesOf_number _ _ _
  rw [inner.kept, same, tidy.heads _ le_rfl]
  intro number equal
  rw [← repetitionName_injective equal]
  omega

theorem Expanded.many {body : List Op} (tidy : before.Tidy grammar)
    (inner : Expanded grammar body [[]] before.beginRepetition.2 tails after) :
    Expanded grammar [.many body] bodies before
      (appendSymbol bodies (.nonterminal before.beginRepetition.1))
      (after.push (repetitionName before.repetitions)
        ([] :: appendSymbol tails (.nonterminal before.beginRepetition.1))) := by
  obtain ⟨compiled, numbersTails⟩ := inner.alone
  have count : before.beginRepetition.2.repetitions = before.repetitions + 1 :=
    repetitions_number _ _
  have same (head : String) : before.beginRepetition.2.bodiesOf head = before.bodiesOf head :=
    bodiesOf_number _ _ head
  have less : before.repetitions < after.repetitions := by
    have atLeast := inner.repetitions
    omega
  have numbered : after.number? (repetitionName before.repetitions) =
      some before.beginRepetition.1 :=
    inner.extension.number? (number?_number _ _)
  have none := inner.bodiesOf_repetition tidy
  have pushed := extends_push after
    ([] :: appendSymbol tails (.nonterminal before.beginRepetition.1)) fun _ _ => none
  have numbersLast := numbers_nonterminal inner.tidy numbered
  have bodiesMany : languageOf ((after.push (repetitionName before.repetitions)
      ([] :: appendSymbol tails (.nonterminal before.beginRepetition.1))).bodiesOf
        (repetitionName before.repetitions)) =
      1 + languageOf tails * {[.nonterminal before.beginRepetition.1]} := by
    rw [bodiesOf_push, if_pos rfl, none, List.nil_append, languageOf_eraseDups,
      ← languageOf_appendSymbol, ← languageOf_empty_body, ← languageOf_append]
    rfl
  refine ⟨?_, ?_, ?_, ?_, ?_, ?_, ?_⟩
  · apply inner.tidy.push
    · intro number equal
      rw [← repetitionName_injective equal]
      exact less
    · intro body member
      rcases List.mem_cons.mp member with rfl | round
      · intro number occurs
        cases occurs
      · exact numbers_appendSymbol numbersTails numbersLast body round
  · exact (extends_beginRepetition before).trans (inner.extension.trans pushed)
  · have rounds := inner.counted
    rw [bodyRepetitions_singleton, Op.repetitions, Expansion.push]
    dsimp only
    omega
  · intro head old
    have differ : repetitionName before.repetitions ≠ head := by
      intro equal
      exact absurd (old _ equal.symm) (Nat.lt_irrefl _)
    rw [bodiesOf_push, if_neg differ, List.append_nil, inner.kept, same]
    intro number equal
    have earlier := old number equal
    omega
  · intro numbers
    apply numbers_appendSymbol
    · intro body member
      have extension := (extends_beginRepetition before).trans (inner.extension.trans pushed)
      exact extension.numbers (numbers body member)
    · exact pushed.numbers numbersLast
  · refine ⟨_, ?_, .many (pushed.number? numbered) bodiesMany (compiled.extend pushed) .nil⟩
    rw [languageOf_appendSymbol, mul_one]
  · intro repetition old new
    rcases Nat.eq_or_lt_of_le old with rfl | later
    · exact ⟨body, .here List.mem_cons_self, _, _, pushed.number? numbered, bodiesMany,
        compiled.extend pushed⟩
    · obtain ⟨round, written, repeats⟩ := inner.minted repetition (by omega) new
      exact ⟨round, (Op.Encloses.many body).written written, repeats.extend pushed⟩

/-! ### All operations -/

theorem exists_ok_of_bind {α β : Type} {first : Except GrammarError α}
    {further : α → Except GrammarError β} {result : β}
    (ok : (first >>= further) = .ok result) :
    ∃ value, first = .ok value ∧ further value = .ok result := by
  cases first with
  | error error => cases ok
  | ok value => exact ⟨value, rfl, ok⟩

mutual

theorem expanded_op : (op : Op) → {bodies : List (List Symbol)} → {before : Expansion} →
    {result : List (List Symbol) × Expansion} → before.Tidy grammar →
    op.expand grammar bodies before = .ok result →
    Expanded grammar [op] bodies before result.1 result.2
  | .consume terminal, _, _, _, tidy, ok => by
      cases ok
      exact expanded_consume terminal tidy
  | .subRule id, _, _, _, tidy, ok => by
      simp only [Op.expand] at ok
      split at ok
      · cases ok
      · rename_i rule found
        cases ok
        exact expanded_subRule found tidy
  | .option body, _, _, _, tidy, ok => by
      obtain ⟨inner, expands, last⟩ := exists_ok_of_bind ok
      cases last
      exact (expanded_body body tidy expands).option
  | .choice alternatives, _, _, _, tidy, ok => expanded_choice alternatives tidy ok
  | .group name members, _, _, _, tidy, ok => by
      cases ok
      exact expanded_group name members tidy
  | .many body, _, before, _, tidy, ok => by
      obtain ⟨inner, expands, last⟩ := exists_ok_of_bind ok
      cases last
      exact (expanded_body body (tidy_beginRepetition tidy) expands).many tidy

theorem expanded_body : (ops : List Op) → {bodies : List (List Symbol)} → {before : Expansion} →
    {result : List (List Symbol) × Expansion} → before.Tidy grammar →
    expandBody grammar bodies before ops = .ok result →
    Expanded grammar ops bodies before result.1 result.2
  | [], _, _, _, tidy, ok => by
      cases ok
      exact expanded_nil tidy
  | op :: rest, _, _, _, tidy, ok => by
      obtain ⟨first, expands, last⟩ := exists_ok_of_bind ok
      have earlier := expanded_op op tidy expands
      exact earlier.append (expanded_body rest earlier.tidy last)

theorem expanded_choice : (alternatives : List (List Op)) → {bodies : List (List Symbol)} →
    {before : Expansion} → {result : List (List Symbol) × Expansion} → before.Tidy grammar →
    expandChoice grammar bodies before alternatives = .ok result →
    Expanded grammar [.choice alternatives] bodies before result.1 result.2
  | [], _, _, _, tidy, ok => by
      cases ok
      exact expanded_choiceNil tidy
  | alternative :: rest, _, _, _, tidy, ok => by
      obtain ⟨first, expands, later⟩ := exists_ok_of_bind ok
      obtain ⟨second, expandsRest, last⟩ := exists_ok_of_bind later
      cases last
      have inner := expanded_body alternative tidy expands
      exact inner.choiceCons (expanded_choice rest inner.tidy expandsRest)

end

/-! ### What expanding keeps -/

structure KeptByExpanding (grammar : Grammar) (refers : RuleId → Prop)
    (holds : Expansion → Prop) : Prop where
  numbered : ∀ (id : RuleId) (rule : Rule) (before : Expansion), refers id →
    grammar.get? id = some rule → holds before → holds (before.number rule.name).2
  begun : ∀ before : Expansion, holds before → holds before.beginRepetition.2
  ended : ∀ (body : List Op) (rounds : List (List Symbol)) (before after : Expansion),
    before.Tidy grammar → Expanded grammar body [[]] before.beginRepetition.2 rounds after →
    holds after → holds (after.push (repetitionName before.repetitions)
      ([] :: appendSymbol rounds (.nonterminal before.beginRepetition.1)))

section Keeping

variable {refers : RuleId → Prop} {holds : Expansion → Prop}

mutual

theorem KeptByExpanding.op (kept : KeptByExpanding grammar refers holds) : (op : Op) →
    (∀ id ∈ op.references, refers id) → {bodies result : List (List Symbol)} →
    {before after : Expansion} → before.Tidy grammar →
    op.expand grammar bodies before = .ok (result, after) → holds before → holds after
  | .consume _, _, _, _, _, _, _, ok, start | .group _ _, _, _, _, _, _, _, ok, start => by
      cases ok
      exact start
  | .subRule id, within, _, _, _, _, _, ok, start => by
      simp only [Op.expand] at ok
      split at ok
      · cases ok
      · rename_i rule found
        cases ok
        exact kept.numbered id rule _ (within id List.mem_cons_self) found start
  | .option body, within, _, _, _, _, tidy, ok, start => by
      obtain ⟨⟨tails, middle⟩, expands, last⟩ := exists_ok_of_bind ok
      cases last
      exact kept.body body within tidy expands start
  | .choice alternatives, within, _, _, _, _, tidy, ok, start =>
      kept.choice alternatives within tidy ok start
  | .many body, within, _, _, before, _, tidy, ok, start => by
      obtain ⟨⟨rounds, middle⟩, expands, last⟩ := exists_ok_of_bind ok
      cases last
      have tidyBegun := tidy_beginRepetition tidy
      exact kept.ended body rounds before middle tidy (expanded_body body tidyBegun expands)
        (kept.body body within tidyBegun expands (kept.begun before start))

theorem KeptByExpanding.body (kept : KeptByExpanding grammar refers holds) : (ops : List Op) →
    (∀ id ∈ bodyReferences ops, refers id) → {bodies result : List (List Symbol)} →
    {before after : Expansion} → before.Tidy grammar →
    expandBody grammar bodies before ops = .ok (result, after) → holds before → holds after
  | [], _, _, _, _, _, _, ok, start => by
      cases ok
      exact start
  | op :: rest, within, _, _, _, _, tidy, ok, start => by
      obtain ⟨⟨first, middle⟩, expands, last⟩ := exists_ok_of_bind ok
      obtain ⟨inOp, inRest⟩ := List.forall_mem_append.mp within
      exact kept.body rest inRest (expanded_op op tidy expands).tidy last
        (kept.op op inOp tidy expands start)

theorem KeptByExpanding.choice (kept : KeptByExpanding grammar refers holds) :
    (alternatives : List (List Op)) → (∀ id ∈ choiceReferences alternatives, refers id) →
    {bodies result : List (List Symbol)} → {before after : Expansion} → before.Tidy grammar →
    expandChoice grammar bodies before alternatives = .ok (result, after) → holds before →
    holds after
  | [], _, _, _, _, _, _, ok, start => by
      cases ok
      exact start
  | alternative :: rest, within, _, _, _, _, tidy, ok, start => by
      obtain ⟨⟨tails, middle⟩, expands, later⟩ := exists_ok_of_bind ok
      obtain ⟨⟨others, after⟩, expandsRest, last⟩ := exists_ok_of_bind later
      obtain ⟨inFirst, inRest⟩ := List.forall_mem_append.mp within
      cases last
      exact kept.choice rest inRest (expanded_body alternative tidy expands).tidy expandsRest
        (kept.body alternative inFirst tidy expands start)

end

end Keeping

end Expansion

end CanonicalLR
