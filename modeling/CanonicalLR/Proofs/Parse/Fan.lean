import CanonicalLR.Proofs.Flat.Success
import CanonicalLR.Proofs.Flat.WellFormed
import CanonicalLR.Proofs.Parse.Agreement
import CanonicalLR.Proofs.Table.PrefixFree

namespace CanonicalLR

namespace Grammar

def wordName (word : Nat) : String :=
  "word" ++ toString word

def wordRule (word : Nat) : Rule :=
  { name := wordName word, body := some [.consume (word + 1)] }

def fanBody (width : Nat) : List Op :=
  [.choice ((List.range width).map fun word => [.subRule (word + 1), .consume 0])]

/-- A choice between words, each with a rule and a token of its own and the same mark behind it. -/
def fan (width : Nat) : Grammar :=
  ⟨({ name := "start", body := some (fanBody width) } :: (List.range width).map wordRule).toArray⟩

variable {width word : Nat} {id other : RuleId} {rule : Rule} {op : Op}

theorem wordName_injective : Function.Injective wordName :=
  numbered_injective "word"

theorem toList_wordName (word : Nat) :
    (wordName word).toList = 'w' :: 'o' :: 'r' :: 'd' :: (toString word).toList :=
  String.toList_append

theorem wordName_ne {name : String} (differs : name.toList.head? ≠ some 'w') (word : Nat) :
    wordName word ≠ name := by
  rintro rfl
  rw [toList_wordName] at differs
  exact differs rfl

theorem wordName_ne_start (word : Nat) : wordName word ≠ "start" :=
  wordName_ne (by decide) word

theorem wordName_ne_startName (word : Nat) : wordName word ≠ Rule.startName :=
  wordName_ne (by decide) word

theorem isReserved_wordName (word : Nat) : Rule.isReserved (wordName word) = false := by
  rw [Rule.isReserved, Rule.isRepetition, toList_wordName,
    beq_eq_false_iff_ne.mpr (wordName_ne_startName word)]
  rfl

theorem constructed_fan (width : Nat) : (fan width).Constructed := by
  refine constructed_iff.mpr ⟨?_, ?_⟩
  · have words : ((List.range width).map wordName).Nodup :=
      List.nodup_range.map wordName_injective
    have apart : "start" ∉ (List.range width).map wordName := by
      intro member
      obtain ⟨word, _, same⟩ := List.mem_map.mp member
      exact wordName_ne_start word same
    simpa [fan, wordRule, Function.comp_def] using List.nodup_cons.mpr ⟨apart, words⟩
  · intro rule member
    rcases List.mem_cons.mp (List.mem_toArray.mp member) with rfl | listed
    · exact (by decide : Rule.isReserved "start" = false)
    · obtain ⟨word, _, rfl⟩ := List.mem_map.mp listed
      exact isReserved_wordName word

theorem get?_fan_start (width : Nat) :
    (fan width).get? 0 = some { name := "start", body := some (fanBody width) } := rfl

theorem get?_fan_word (less : word < width) : (fan width).get? (word + 1) = some (wordRule word) := by
  simp [fan, get?, less]

theorem get?_fan_cases (found : (fan width).get? id = some rule) :
    id = 0 ∧ rule = { name := "start", body := some (fanBody width) } ∨
      ∃ word < width, id = word + 1 ∧ rule = wordRule word := by
  cases id with
  | zero =>
      cases found
      exact .inl ⟨rfl, rfl⟩
  | succ word =>
      have less : word < width := by
        have within := (Array.getElem?_eq_some_iff.mp found).1
        simpa [fan] using within
      rw [get?_fan_word less] at found
      cases found
      exact .inr ⟨word, less, rfl, rfl⟩

theorem bodyOf?_fan_cases {body : List Op} (defined : (fan width).bodyOf? id = some body) :
    id = 0 ∧ body = fanBody width ∨ ∃ word < width, id = word + 1 ∧ body = [.consume (word + 1)] := by
  obtain ⟨rule, found, written⟩ := bodyOf?_eq_some_iff.mp defined
  rcases get?_fan_cases found with ⟨rfl, rfl⟩ | ⟨word, less, rfl, rfl⟩
  · cases written
    exact .inl ⟨rfl, rfl⟩
  · cases written
    exact .inr ⟨word, less, rfl, rfl⟩

theorem written_fanBody (written : Written op (fanBody width)) :
    op = .choice ((List.range width).map fun word => [.subRule (word + 1), .consume 0]) ∨
      (∃ word < width, op = .subRule (word + 1)) ∨ op = .consume 0 := by
  rcases written.of_singleton with same | ⟨_, encloses, inAlternative⟩
  · exact .inl same
  · right
    cases encloses with
    | choice member =>
        obtain ⟨word, listed, rfl⟩ := List.mem_map.mp member
        cases inAlternative with
        | here member =>
            rcases List.mem_cons.mp member with rfl | last
            · exact .inl ⟨word, List.mem_range.mp listed, rfl⟩
            · exact .inr (List.mem_singleton.mp last)
        | inside member encloses _ =>
            rcases List.mem_cons.mp member with rfl | last
            · cases encloses
            · rw [List.mem_singleton.mp last] at encloses
              cases encloses

theorem written_consume {terminal : Terminal} (written : Written op [.consume terminal]) :
    op = .consume terminal := by
  rcases written.of_singleton with same | ⟨_, encloses, _⟩
  · exact same
  · cases encloses

theorem cites_fan (cites : (fan width).Cites id other) :
    id = 0 ∧ ∃ word < width, other = word + 1 := by
  obtain ⟨body, defined, written⟩ := cites
  rcases bodyOf?_fan_cases defined with ⟨rfl, rfl⟩ | ⟨word, _, rfl, rfl⟩
  · rcases written_fanBody written with same | ⟨word, less, same⟩ | same
    · cases same
    · cases same
      exact ⟨rfl, word, less, rfl⟩
    · cases same
  · cases written_consume written

theorem reaches_fan (reached : (fan width).Reaches 0 id) : id ≤ width := by
  cases reached with
  | refl => exact Nat.zero_le _
  | tail _ cites =>
      obtain ⟨_, word, less, rfl⟩ := cites_fan cites
      exact less

theorem reaches_fan_word (less : word < width) : (fan width).Reaches 0 (word + 1) := by
  refine .single ⟨fanBody width, rfl, ?_⟩
  exact .inside List.mem_cons_self (.choice (List.mem_map_of_mem (List.mem_range.mpr less)))
    (.here List.mem_cons_self)

theorem not_written_many_fan {body inner : List Op} (defined : (fan width).bodyOf? id = some body) :
    ¬ Written (.many inner) body := by
  intro written
  rcases bodyOf?_fan_cases defined with ⟨_, rfl⟩ | ⟨_, _, _, rfl⟩
  · rcases written_fanBody written with same | ⟨_, _, same⟩ | same <;> cases same
  · cases written_consume written

theorem validate_fan (wide : 0 < width) : ((fan width).validate 0).1 = .ok () := by
  rw [validate_ok_iff]
  intro id reached defect shows
  cases defect with
  | undefined =>
      cases id with
      | zero => cases shows
      | succ word =>
          have found := get?_fan_word (reaches_fan reached)
          rw [Shows, bodyOf?, found] at shows
          cases shows
  | emptyChoice =>
      obtain ⟨_, defined, op, written, empty⟩ := shows
      rcases bodyOf?_fan_cases defined with ⟨_, rfl⟩ | ⟨_, _, _, rfl⟩
      · rcases written_fanBody written with rfl | ⟨_, _, rfl⟩ | rfl
        · rcases empty with same | ⟨_, same⟩
          · rw [Op.choice.injEq, List.map_eq_nil_iff, List.range_eq_nil] at same
            exact Nat.ne_of_gt wide same
          · cases same
        · rcases empty with same | ⟨_, same⟩ <;> cases same
        · rcases empty with same | ⟨_, same⟩ <;> cases same
      · rw [written_consume written] at empty
        rcases empty with same | ⟨_, same⟩ <;> cases same
  | idleRepetition =>
      obtain ⟨_, defined, _, written, _⟩ := shows
      exact not_written_many_fan defined written
  | unitCycle =>
      obtain ⟨middle, becomes, back⟩ := Relation.TransGen.head'_iff.mp shows
      obtain ⟨rfl, word, _, rfl⟩ := cites_fan becomes.cites
      rcases Relation.ReflTransGen.cases_head back with same | ⟨_, further, _⟩
      · cases same
      · cases (cites_fan further.cites).1

theorem terminals_fanBody {terminal : Terminal} (member : terminal ∈ bodyTerminals (fanBody width)) :
    terminal = 0 := by
  have all (words : List Nat) (member : terminal ∈ choiceTerminals
      (words.map fun word => [.subRule (word + 1), .consume 0])) : terminal = 0 := by
    induction words with
    | nil => cases member
    | cons word words ih =>
        rcases List.mem_append.mp member with here | later
        · exact List.mem_singleton.mp here
        · exact ih later
  rw [fanBody, bodyTerminals, Op.terminals, bodyTerminals, List.append_nil] at member
  exact all _ member

theorem not_mentions_fan : ¬ (fan width).Mentions 0 Terminal.eof := by
  rintro ⟨id, body, _, defined, member⟩
  rcases bodyOf?_fan_cases defined with ⟨_, rfl⟩ | ⟨word, _, _, rfl⟩
  · cases terminals_fanBody member
  · have same : Terminal.eof = (word : Int) + 1 := List.mem_singleton.mp member
    change (-1 : Int) = word + 1 at same
    omega

end Grammar

namespace Expansion
open Grammar

variable {width word start : Nat} {expansion : Expansion} {rule : Rule} {all left : List RuleId}
  {production : Production}

theorem mem_pair {first second : Symbol} {body : List Symbol} :
    body ∈ ({[first]} * {[second]} : Language Symbol) ↔ body = [first, second] := by
  rw [Language.mem_mul]
  constructor
  · rintro ⟨_, rfl, _, rfl, rfl⟩
    rfl
  · rintro rfl
    exact ⟨_, rfl, _, rfl, rfl⟩

theorem mem_of_compiled_choice {words : List Nat} {language : Language Symbol}
    (within : ∀ word ∈ words, word < width)
    (compiled : expansion.Compiled (fan width)
      [.choice (words.map fun word => [.subRule (word + 1), .consume 0])] language)
    {body : List Symbol} :
    body ∈ language ↔ ∃ word ∈ words, ∃ number, expansion.number? (wordName word) = some number ∧
      body = [.nonterminal number, .terminal 0] := by
  induction words generalizing language with
  | nil =>
      cases compiled
      simp [Language.notMem_zero]
  | cons word words ih =>
      obtain ⟨less, others⟩ := List.forall_mem_cons.mp within
      cases compiled with
      | choiceCons inner tail later =>
          cases tail
          cases inner with
          | subRule found numbered tail =>
              cases tail with
              | consume _ tail =>
                  cases tail
                  rw [get?_fan_word less] at found
                  cases found
                  rw [mul_one, mul_one, Language.mem_add, ih others later, mem_pair,
                    List.exists_mem_cons_iff]
                  refine or_congr_left ⟨fun same => ⟨_, numbered, same⟩, ?_⟩
                  rintro ⟨_, again, rfl⟩
                  rw [Option.some.inj (numbered.symm.trans again)]

section Complete

variable (complete : Complete (fan width) 0 rule start all left expansion)
include complete

theorem Complete.number?_start : expansion.number? "start" = some start := by
  have numbered := complete.numbered
  cases complete.found
  exact numbered

theorem Complete.mem_bodiesOf_start {body : List Symbol} : body ∈ expansion.bodiesOf "start" ↔
    ∃ word < width, ∃ number, expansion.number? (wordName word) = some number ∧
      body = [.nonterminal number, .terminal 0] := by
  obtain ⟨_, _, defined, _, compiled⟩ := complete.stands .refl (get?_fan_start width)
  cases defined
  rw [← mem_languageOf, mem_of_compiled_choice (fun _ => List.mem_range.mp) compiled]
  simp only [List.mem_range]

theorem Complete.exists_number (less : word < width) :
    ∃ number, expansion.number? (wordName word) = some number := by
  obtain ⟨_, number, _, numbered, _⟩ :=
    complete.stands (reaches_fan_word less) (get?_fan_word less)
  exact ⟨number, numbered⟩

theorem Complete.mem_bodiesOf_word (less : word < width) {body : List Symbol} :
    body ∈ expansion.bodiesOf (wordName word) ↔ body = [.terminal (word + 1)] := by
  obtain ⟨_, _, defined, _, compiled⟩ :=
    complete.stands (reaches_fan_word less) (get?_fan_word less)
  rw [bodyOf?, get?_fan_word less] at defined
  cases defined
  rw [← mem_languageOf]
  generalize same : languageOf (expansion.bodiesOf (wordName word)) = language
  rw [wordRule, same] at compiled
  cases compiled with
  | consume _ tail =>
      cases tail
      rw [mul_one]
      exact Iff.rfl

theorem Complete.repetitions_eq_zero : expansion.repetitions = 0 := by
  by_contra some
  obtain ⟨inner, ⟨_, _, _, defined, written⟩, _⟩ :=
    complete.sourced.repetitions 0 (Nat.pos_of_ne_zero some)
  exact not_written_many_fan defined written

theorem Complete.mem_productions_fan : production ∈ expansion.productions ↔
    production = ⟨Rule.startName, [.nonterminal start]⟩ ∨
    (∃ word < width, ∃ number, expansion.number? (wordName word) = some number ∧
      production = ⟨"start", [.nonterminal number, .terminal 0]⟩) ∨
    ∃ word < width, production = ⟨wordName word, [.terminal (word + 1)]⟩ := by
  obtain ⟨head, body⟩ := production
  simp only [Production.mk.injEq]
  constructor
  · intro member
    have under := mem_bodiesOf.mpr member
    rcases complete.sourced.heads _ member with rfl | ⟨id, owner, _, found, rfl⟩ | ⟨_, less, _⟩
    · rw [complete.invariant.single] at under
      exact .inl ⟨rfl, List.mem_singleton.mp under⟩
    · right
      rcases get?_fan_cases found with ⟨_, rfl⟩ | ⟨word, less, _, rfl⟩
      · obtain ⟨word, less, number, numbered, same⟩ := complete.mem_bodiesOf_start.mp under
        exact .inl ⟨word, less, number, numbered, rfl, same⟩
      · exact .inr ⟨word, less, rfl, (complete.mem_bodiesOf_word less).mp under⟩
    · rw [complete.repetitions_eq_zero] at less
      cases less
  · rw [← mem_bodiesOf]
    rintro (⟨rfl, rfl⟩ | ⟨word, less, number, numbered, rfl, rfl⟩ | ⟨word, less, rfl, rfl⟩)
    · rw [complete.invariant.single]
      exact List.mem_cons_self
    · exact complete.mem_bodiesOf_start.mpr ⟨word, less, number, numbered, rfl⟩
    · exact (complete.mem_bodiesOf_word less).mpr rfl

theorem Complete.prefixFree_fan : expansion.flat.PrefixFree := by
  have tidy := complete.invariant.tidy
  constructor
  · intro production member number inTail
    rcases complete.mem_productions_fan.mp member with rfl | ⟨_, _, _, _, rfl⟩ | ⟨_, _, rfl⟩ <;>
      simp at inTail
  · intro first second production other found foundOther begins
    -- The symbol in front tells the productions apart.
    suffices same : production = other by
      rw [same] at found
      exact (complete.existsUnique_place (Array.mem_of_getElem? found)).unique found foundOther
    have member := complete.mem_productions_fan.mp (Array.mem_of_getElem? found)
    have memberOther := complete.mem_productions_fan.mp (Array.mem_of_getElem? foundOther)
    rcases member with rfl | ⟨word, less, number, numbered, rfl⟩ | ⟨word, less, rfl⟩ <;>
    rcases memberOther with rfl | ⟨other, lessOther, numberOther, numberedOther, rfl⟩ |
      ⟨other, lessOther, rfl⟩ <;>
    simp only [List.cons_prefix_cons, List.prefix_rfl, List.nil_prefix, List.prefix_nil, reduceCtorEq,
      Symbol.nonterminal.injEq, Symbol.terminal.injEq, add_left_inj, Nat.cast_inj, List.cons_ne_self,
      and_true, and_false] at begins
    · rfl
    · rw [← begins] at numberedOther
      exact absurd (number?_injective tidy numberedOther complete.number?_start)
        (wordName_ne_start other)
    · rw [begins]
    · rw [begins]

theorem Complete.width_lt_names : width < expansion.names.size := by
  have nodup := complete.apart.nodup
  have listed : (fan width).rules.toList.map (·.name) ⊆ expansion.names.toList := by
    intro name member
    obtain ⟨rule, present, rfl⟩ := List.mem_map.mp member
    obtain ⟨id, found⟩ := Array.mem_iff_getElem?.mp (Array.mem_toList_iff.mp present)
    have numbered : ∃ number, expansion.number? rule.name = some number := by
      rcases get?_fan_cases found with ⟨_, rfl⟩ | ⟨word, less, _, rfl⟩
      · exact ⟨start, complete.number?_start⟩
      · exact complete.exists_number less
    obtain ⟨number, numbered⟩ := numbered
    obtain ⟨place, there, _⟩ := (number?_eq_some_iff complete.invariant.tidy.nodup).mp numbered
    exact Array.mem_toList_iff.mpr (Array.mem_of_getElem? there)
  have le := (nodup.subperm listed).length_le
  simpa [fan] using le

theorem Complete.exists_word_at {place : Nat} (positive : start < firstNonterminal + place)
    (within : place ≤ width) :
    ∃ word < width, expansion.number? (wordName word) = some (firstNonterminal + place) := by
  have less := Nat.lt_of_le_of_lt within complete.width_lt_names
  have there := Array.getElem?_eq_getElem less
  have numbered := (number?_eq_some_iff complete.invariant.tidy.nodup).mpr ⟨place, there, rfl⟩
  rcases complete.listed.owned _ (Array.mem_toList_iff.mpr (Array.mem_of_getElem? there)) with
    ⟨id, rule, _, found, same⟩ | ⟨_, fewer, _⟩
  · rw [same] at numbered
    rcases get?_fan_cases found with ⟨_, rfl⟩ | ⟨word, less, _, rfl⟩
    · rw [complete.number?_start] at numbered
      exact absurd (Option.some.inj numbered) (Nat.ne_of_lt positive)
    · exact ⟨word, less, numbered⟩
  · rw [complete.repetitions_eq_zero] at fewer
    cases fewer

theorem Complete.produces {number : Nat} (member : production ∈ expansion.productions)
    (numbered : expansion.number? production.head = some number ∨
      production.head = Rule.startName ∧ number = startNonterminal) :
    expansion.flat.HasProduction number production :=
  ⟨member, (complete.headIndex? _).trans (complete.index_eq_some_iff.mpr numbered)⟩

theorem Complete.produces_start : expansion.flat.HasProduction startNonterminal
    ⟨Rule.startName, [.nonterminal start]⟩ :=
  complete.produces (complete.mem_productions_fan.mpr (.inl rfl)) (.inr ⟨rfl, rfl⟩)

theorem Complete.produces_sentence {number : Nat} (less : word < width)
    (numbered : expansion.number? (wordName word) = some number) :
    expansion.flat.HasProduction start ⟨"start", [.nonterminal number, .terminal 0]⟩ :=
  complete.produces
    (complete.mem_productions_fan.mpr (.inr (.inl ⟨word, less, number, numbered, rfl⟩)))
    (.inl complete.number?_start)

theorem Complete.produces_word {number : Nat} (less : word < width)
    (numbered : expansion.number? (wordName word) = some number) :
    expansion.flat.HasProduction number ⟨wordName word, [.terminal (word + 1)]⟩ :=
  complete.produces (complete.mem_productions_fan.mpr (.inr (.inr ⟨word, less, rfl⟩)))
    (.inl numbered)

end Complete

end Expansion

namespace Table
open Grammar Expansion FlatGrammar ItemSystem

theorem simulate_word {vocabulary : Vocabulary} {grammar : FlatGrammar} {root index number : Nat}
    {path : List Symbol} {states : List Nat} {trees : List Tree} {head : String} {token next : Token}
    (mode : Mode) (others : List Token) (errors : List SyntaxError)
    (augmented : grammar.Augmented root) (free : (canonical vocabulary grammar).conflicts = [])
    (found : grammar.productions[index]? = some ⟨head, [.terminal token.kind]⟩)
    (produces : grammar.HasProduction number ⟨head, [.terminal token.kind]⟩)
    (other : head ≠ Rule.startName) (trail : grammar.Trail path states)
    (length : trees.length = path.length) (item : grammar.ValidItem path ⟨index, 0⟩ next.kind) :
    ∃ target, grammar.Trail (.nonterminal number :: path) (target :: states) ∧
      Reaches mode (canonical vocabulary grammar) ⟨states, trees, token :: next :: others, errors⟩
        ⟨target :: states, .node head [.leaf token] :: trees, next :: others, errors⟩ := by
  have remains := remaining_of_production ⟨index, 0⟩ found
  obtain ⟨middle, further, shifts⟩ :=
    simulate_shift mode trees (next :: others) errors free trail item.validCore remains
  rcases simulate_completion mode others errors augmented free found produces (.terminal token .nil)
    further length (remaining_next remains) (item.moved remains) with
    ⟨target, last, reduces⟩ | ⟨same, _⟩
  · exact ⟨target, last, .head shifts (.single reduces)⟩
  · exact absurd same other

variable {width word : Nat} {expansion : Expansion} {rule : Rule} {all left : List RuleId}

section Complete

variable (complete : Complete (fan width) 0 rule firstNonterminal all left expansion)
include complete

theorem validItem_start (wide : 89999 ≤ width) :
    expansion.flat.ValidItem [] ⟨0, 0⟩ 0 := by
  have augmented := complete.invariant.augmented complete.apart
  have positive : firstNonterminal < firstNonterminal + 89999 := by decide
  -- The productions of this word are those of the start symbol, which thus stands before a mark.
  obtain ⟨word, less, numbered⟩ := complete.exists_word_at positive wide
  obtain ⟨index, found, predicts⟩ :=
    (complete.produces_sentence less numbered).predicts augmented.remaining_start
  obtain ⟨again, foundStart, predictsStart⟩ :=
    complete.produces_start.predicts (remaining_of_production ⟨index, 0⟩ found)
  obtain rfl := augmented.single foundStart rfl
  exact .first (.begun .start predicts) predictsStart (.terminal 0 [])

theorem accepts_fan (vocabulary : Vocabulary) (mode : Mode) (wide : 89999 ≤ width)
    (less : word < width) {token mark next : Token} (kind : token.kind = word + 1)
    (marks : mark.kind = 0) (again : next.kind = 0) (others : List Token) :
    ∃ last, Reaches mode (canonical vocabulary expansion.flat)
        (.start (token :: mark :: next :: others)) last ∧
      step mode (canonical vocabulary expansion.flat) last = .halt last .accepted ∧
      last.rest = next :: others ∧ last.errors = [] := by
  have free := complete.prefixFree_fan.conflicts_eq_nil vocabulary
  have augmented := complete.invariant.augmented complete.apart
  obtain ⟨number, numbered⟩ := complete.exists_number less
  have item := validItem_start complete wide
  have sentence := complete.produces_sentence less numbered
  have letter := complete.produces_word less numbered
  rw [← again] at item
  rw [← marks] at sentence
  rw [← kind] at letter
  obtain ⟨index, found, predicts⟩ := sentence.predicts augmented.remaining_start
  have remains := remaining_of_production ⟨index, 0⟩ found
  obtain ⟨indexLetter, foundLetter, predictsLetter⟩ := letter.predicts remains
  have itemSentence := item.inherited predicts vanishes_nil
  have itemLetter := ValidItem.first itemSentence.validCore predictsLetter (.terminal mark.kind [])
  have none : ([] : List Tree).length = ([] : List Symbol).length := rfl
  have one {tree : Tree} {symbol : Symbol} : [tree].length = [symbol].length := rfl
  have plain : ("start" : String) ≠ Rule.startName := by decide
  obtain ⟨first, trailFirst, reads⟩ := simulate_word mode (next :: others) [] augmented free
    foundLetter letter (wordName_ne_startName word) .start none itemLetter
  have itemMark := itemSentence.moved remains
  have remainsMark := remaining_next remains
  obtain ⟨second, trailSecond, shifts⟩ := simulate_shift mode [.node (wordName word) [.leaf token]]
    (next :: others) [] free trailFirst itemMark.validCore remainsMark
  have derives : expansion.flat.Derives [.nonterminal number, .terminal mark.kind]
      [.node (wordName word) [.leaf token], .leaf mark] :=
    .nonterminal letter (.terminal token .nil) (.terminal mark .nil)
  rcases simulate_completion mode others [] augmented free found sentence derives trailSecond none
    (remaining_next remainsMark) (itemMark.moved remainsMark) with
    ⟨third, trailThird, reduces⟩ | ⟨same, _⟩
  · rcases step_completion mode others [] augmented free trailThird one augmented.start
      (remaining_next augmented.remaining_start) (item.moved augmented.remaining_start) with
      ⟨other, _⟩ | ⟨_, halts⟩
    · exact absurd rfl other
    · exact ⟨_, reads.trans (.head shifts (.single reduces)), halts, rfl, rfl⟩
  · exact absurd same plain

end Complete

variable {vocabulary : Vocabulary} {table : Table}

theorem exists_build_fan (vocabulary : Vocabulary) (wide : 0 < width) :
    ∃ table, (build vocabulary (fan width) 0).1 = .ok table := by
  obtain ⟨flat, flattened⟩ := exists_flatten (validate_fan wide)
  exact ⟨_, build_eq_ok_iff.mpr ⟨flat, flattened, rfl⟩⟩

theorem conflicts_fan (ok : (build vocabulary (fan width) 0).1 = .ok table) :
    table.conflicts = [] := by
  obtain ⟨flat, flattened, rfl⟩ := build_eq_ok_iff.mp ok
  obtain ⟨_, _, _, _, rfl, complete⟩ := complete_of_flatten (constructed_fan width) flattened
  exact complete.prefixFree_fan.conflicts_eq_nil vocabulary

/-- With so many words that one of them has the number of the start symbol, a sentence is accepted in
front of another mark, and a suggestion stops there. -/
theorem suggest_fan (wide : 89999 ≤ width) (ok : (build vocabulary (fan width) 0).1 = .ok table)
    (less : word < width) {token mark next eof : Token} (kind : token.kind = word + 1)
    (marks : mark.kind = 0) (again : next.kind = 0) (atEnd : eof.isEof = true) :
    ∃ enough result suggestion, (∀ steps, enough ≤ steps →
        table.parse steps ([token, mark, next] ++ [eof]) = some (.ok result) ∧
        table.suggest steps [token, mark, next] = some (.ok suggestion)) ∧
      result.errors = [] ∧ suggestion.index = 2 := by
  have further {other : Token} (nonnegative : 0 ≤ other.kind) : other.isEof = false := by
    rw [Token.isEof, beq_eq_false_iff_ne]
    intro same
    rw [same] at nonnegative
    exact absurd nonnegative (by decide)
  have inner : ∀ other ∈ [token, mark, next], other.isEof = false := by
    simp only [List.mem_cons, List.not_mem_nil, or_false, forall_eq_or_imp, forall_eq]
    have positive : (0 : Int) ≤ word + 1 := by omega
    exact ⟨further (positive.trans_eq kind.symm), further marks.ge, further again.ge⟩
  have accepts (mode : Mode) (others : List Token) : ∃ last, Reaches mode table
        (.start (token :: mark :: next :: others)) last ∧
      step mode table last = .halt last .accepted ∧ last.rest = next :: others ∧
      last.errors = [] := by
    obtain ⟨flat, flattened, rfl⟩ := build_eq_ok_iff.mp ok
    obtain ⟨_, _, _, _, rfl, complete⟩ := complete_of_flatten (constructed_fan width) flattened
    exact accepts_fan complete vocabulary mode wide less kind marks again others
  obtain ⟨parsed, reaches, accepted, _, clean⟩ := accepts .recover [eof]
  obtain ⟨parsing, ran⟩ := run_of_reaches reaches (run_of_halt accepted)
  obtain ⟨probed, reachesProbed, acceptedProbed, left, _⟩ := accepts .probe []
  obtain ⟨probing, ranProbed⟩ := run_of_reaches reachesProbed (run_of_halt acceptedProbed)
  refine ⟨max parsing probing, parsed.result, table.suggestionIn 3 probed, ?_, clean, ?_⟩
  · intro steps enough
    exact ⟨parse_of_run (constructed_fan width) ok not_mentions_fan atEnd
        (run_of_le ran (le_of_max_le_left enough)),
      suggest_of_run (constructed_fan width) ok inner
        (run_of_le ranProbed (le_of_max_le_right enough))⟩
  · rw [suggestionIn, left]
    rfl

/-- Without an error, a suggestion for all tokens of a list can stop before its last token. -/
theorem not_suggest_agrees_fan :
    (fan 89999).Constructed ∧ ¬ (fan 89999).Mentions 0 Terminal.eof ∧
      ∃ table, (build {} (fan 89999) 0).1 = .ok table ∧ table.conflicts = [] ∧
      ∃ enough result suggestion,
        (∀ steps, enough ≤ steps →
          table.parse steps ([1, 0, 0].map tokenOfKind ++ [tokenOfKind Terminal.eof]) =
            some (.ok result) ∧
          table.suggest steps ([1, 0, 0].map tokenOfKind) = some (.ok suggestion)) ∧
        result.errors = [] ∧ suggestion.index ≠ ([1, 0, 0].map tokenOfKind).length := by
  have wide : 0 < 89999 := by decide
  obtain ⟨table, ok⟩ := exists_build_fan {} wide
  have first : (tokenOfKind 1).kind = (0 : Nat) + 1 := rfl
  have mark : (tokenOfKind 0).kind = 0 := rfl
  have atEnd : (tokenOfKind Terminal.eof).isEof = true := rfl
  obtain ⟨enough, result, suggestion, answers, clean, index⟩ :=
    suggest_fan (Nat.le_refl 89999) ok wide first mark mark atEnd
  refine ⟨constructed_fan 89999, not_mentions_fan, table, ok, conflicts_fan ok, enough, result,
    suggestion, answers, clean, ?_⟩
  rw [index]
  decide

end Table

end CanonicalLR
