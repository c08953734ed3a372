import CanonicalLR.Proofs.Derivation.Rewriting
import CanonicalLR.Proofs.Flat.Rules

namespace CanonicalLR

namespace Expansion
open FlatGrammar

variable {grammar : Grammar} {start : Nat} {all : List RuleId} {expansion : Expansion}

/-! ### Derivations match -/

/-- The operations that a number is for: the body of a rule, or a repetition. -/
inductive StandsFor (grammar : Grammar) (all : List RuleId) (expansion : Expansion) :
    Nat → List Op → Prop where
  | rule {name : String} {body : List Op} {number : Nat}
      (numbered : expansion.number? name = some number)
      (compiled : expansion.Compiled grammar body (languageOf (expansion.bodiesOf name)))
      (covered : ∀ id ∈ bodyReferences body, id ∈ all) :
      StandsFor grammar all expansion number body
  | many {body : List Op} {rounds : Language Symbol} {repetition number : Nat}
      (numbered : expansion.number? (repetitionName repetition) = some number)
      (bodies : languageOf (expansion.bodiesOf (repetitionName repetition)) =
        1 + rounds * {[.nonterminal number]})
      (inner : expansion.Compiled grammar body rounds)
      (covered : ∀ id ∈ bodyReferences body, id ∈ all) :
      StandsFor grammar all expansion number [.many body]

def Means (grammar : Grammar) (all : List RuleId) (expansion : Expansion) (number : Nat)
    (word : List Terminal) : Prop :=
  ∀ ops, StandsFor grammar all expansion number ops → grammar.Matches ops word

/-- Symbols read as strings, given the strings of the nonterminals. -/
inductive Reads (means : Nat → List Terminal → Prop) : List Symbol → List Terminal → Prop where
  | nil : Reads means [] []
  | terminal {rest : List Symbol} {word : List Terminal} (terminal : Terminal)
      (tail : Reads means rest word) : Reads means (.terminal terminal :: rest) (terminal :: word)
  | nonterminal {number : Nat} {rest : List Symbol} {first word : List Terminal}
      (meant : means number first) (tail : Reads means rest word) :
      Reads means (.nonterminal number :: rest) (first ++ word)

variable {means : Nat → List Terminal → Prop} {front back : List Symbol} {word : List Terminal}

theorem Reads.split (reads : Reads means (front ++ back) word) :
    ∃ first second, word = first ++ second ∧ Reads means front first ∧ Reads means back second := by
  induction front generalizing word with
  | nil => exact ⟨[], word, rfl, .nil, reads⟩
  | cons symbol rest ih =>
      cases reads with
      | terminal terminal tail =>
          obtain ⟨first, second, rfl, inFront, inBack⟩ := ih tail
          exact ⟨_, second, rfl, .terminal terminal inFront, inBack⟩
      | nonterminal meant tail =>
          obtain ⟨first, second, rfl, inFront, inBack⟩ := ih tail
          exact ⟨_, second, (List.append_assoc _ _ _).symm, .nonterminal meant inFront, inBack⟩

theorem Reads.of_mem_mul {first second : Language Symbol} {symbols : List Symbol}
    (member : symbols ∈ first * second) (reads : Reads means symbols word) :
    ∃ front back before after, front ∈ first ∧ back ∈ second ∧ word = before ++ after ∧
      Reads means front before ∧ Reads means back after := by
  obtain ⟨front, inFirst, back, inSecond, rfl⟩ := Language.mem_mul.mp member
  obtain ⟨before, after, split, readsFront, readsBack⟩ := reads.split
  exact ⟨front, back, before, after, inFirst, inSecond, split, readsFront, readsBack⟩

theorem Reads.of_singleton {number : Nat} (reads : Reads means [.nonterminal number] word) :
    means number word := by
  cases reads with
  | nonterminal meant tail =>
      cases tail
      rw [List.append_nil]
      exact meant

theorem Flattened.compiled (invariant : Flattened grammar start [] all expansion) {id : RuleId}
    (member : id ∈ all) {rule : Rule} (found : grammar.get? id = some rule) :
    ∃ body, grammar.bodyOf? id = some body ∧
      expansion.Compiled grammar body (languageOf (expansion.bodiesOf rule.name)) ∧
      ∀ other ∈ bodyReferences body, other ∈ all := by
  obtain ⟨other, body, _, foundOther, defined, _, compiled⟩ := invariant.stands id member
  rw [found] at foundOther
  cases foundOther
  have bodyOf := Grammar.bodyOf?_eq_some_iff.mpr ⟨rule, found, defined⟩
  refine ⟨body, bodyOf, compiled, ?_⟩
  intro reference refers
  have listed : reference ∈ grammar.references id := by
    rw [Grammar.references, bodyOf]
    exact refers
  exact (invariant.closed id member reference listed).resolve_right List.not_mem_nil

theorem Compiled.matches (invariant : Flattened grammar start [] all expansion) {ops : List Op}
    {language : Language Symbol} {symbols : List Symbol}
    (compiled : expansion.Compiled grammar ops language)
    (covered : ∀ id ∈ bodyReferences ops, id ∈ all) (member : symbols ∈ language)
    (reads : Reads (Means grammar all expansion) symbols word) : grammar.Matches ops word := by
  induction compiled generalizing symbols word with
  | nil =>
      obtain rfl := (Language.mem_one _).mp member
      cases reads
      exact .nil
  | consume terminal _ ih =>
      obtain ⟨_, back, before, after, rfl, inTails, rfl, readsFront, readsBack⟩ :=
        reads.of_mem_mul member
      cases readsFront with
      | terminal _ nothing =>
          cases nothing
          exact .consume terminal (ih covered inTails readsBack)
  | @subRule id rule number rest tails found numbered _ ih =>
      obtain ⟨_, back, before, after, rfl, inTails, rfl, readsFront, readsBack⟩ :=
        reads.of_mem_mul member
      obtain ⟨body, defined, compiled, coveredBody⟩ :=
        invariant.compiled (covered id List.mem_cons_self) found
      have inner := readsFront.of_singleton body (.rule numbered compiled coveredBody)
      exact .subRule defined inner
        (ih (fun other refers => covered other (List.mem_cons_of_mem _ refers)) inTails readsBack)
  | @option body rest inners tails _ _ ihInner ihTail =>
      obtain ⟨front, back, before, after, inFront, inTails, rfl, readsFront, readsBack⟩ :=
        reads.of_mem_mul member
      have tail := ihTail (fun other refers => covered other (List.mem_append_right _ refers))
        inTails readsBack
      rcases (Language.mem_add _ _ _).mp inFront with one | inInners
      · obtain rfl := (Language.mem_one _).mp one
        cases readsFront
        exact .optionNone tail
      · exact .optionSome
          (ihInner (fun other refers => covered other (List.mem_append_left _ refers)) inInners
            readsFront) tail
  | choiceNil rest => exact absurd member (Language.notMem_zero _)
  | @choiceCons alternative rest more inners tails others _ _ _ ihInner ihTail ihLater =>
      have coveredAll : ∀ id ∈ bodyReferences alternative ++ choiceReferences more ++
          bodyReferences rest, id ∈ all := covered
      simp only [List.mem_append] at coveredAll
      rcases (Language.mem_add _ _ _).mp member with here | there
      · obtain ⟨front, back, before, after, inFront, inTails, rfl, readsFront, readsBack⟩ :=
          reads.of_mem_mul here
        exact .choice List.mem_cons_self
          (ihInner (fun other refers => coveredAll other (.inl (.inl refers))) inFront readsFront)
          (ihTail (fun other refers => coveredAll other (.inr refers)) inTails readsBack)
      · have later : grammar.Matches (.choice more :: rest) word := by
          apply ihLater _ there reads
          intro other refers
          rcases List.mem_append.mp refers with inMore | inRest
          · exact coveredAll other (.inl (.inr inMore))
          · exact coveredAll other (.inr inRest)
        cases later with
        | choice listed inner tail => exact .choice (List.mem_cons_of_mem _ listed) inner tail
  | group name members _ ih =>
      obtain ⟨front, back, before, after, inFront, inTails, rfl, readsFront, readsBack⟩ :=
        reads.of_mem_mul member
      obtain ⟨terminal, listed, rfl⟩ := List.mem_map.mp inFront
      cases readsFront with
      | terminal _ nothing =>
          cases nothing
          exact .group listed (ih covered inTails readsBack)
  | @many body rest rounds tails repetition number numbered bodies inner _ _ ihTail =>
      obtain ⟨_, back, before, after, rfl, inTails, rfl, readsFront, readsBack⟩ :=
        reads.of_mem_mul member
      have standsFor : StandsFor grammar all expansion number [.many body] :=
        .many numbered bodies inner fun other refers => covered other (List.mem_append_left _ refers)
      have repeated := readsFront.of_singleton _ standsFor
      have tail := ihTail (fun other refers => covered other (List.mem_append_right _ refers))
        inTails readsBack
      exact repeated.append tail

theorem reads_of_derives (invariant : Flattened grammar start [] all expansion)
    (apart : grammar.NamesApart) (few : expansion.flat.nonterminals.length ≤ 90000)
    {symbols : List Symbol} {trees : List Tree} (derives : expansion.flat.Derives symbols trees) :
    Reads (Means grammar all expansion) symbols (spelled trees) := by
  induction derives with
  | nil => exact .nil
  | terminal token _ ih => exact .terminal token.kind ih
  | @nonterminal number production children rest trees produces _ _ ihInner ihTail =>
      have joined : spelled (.node production.head children :: trees) =
          spelled children ++ spelled trees := List.map_append
      rw [joined]
      refine .nonterminal ?_ ihTail
      intro ops standsFor
      cases standsFor with
      | rule numbered compiled covered =>
          obtain ⟨_, body⟩ := (invariant.hasProduction_iff apart few numbered).mp produces
          exact compiled.matches invariant covered body ihInner
      | @many body rounds repetition number numbered bodies inner covered =>
          obtain ⟨_, listed⟩ := (invariant.hasProduction_iff apart few numbered).mp produces
          have member : production.body ∈ 1 + rounds * {[.nonterminal number]} := by
            rw [← bodies]
            exact listed
          rcases (Language.mem_add _ _ _).mp member with one | round
          · have empty := (Language.mem_one _).mp one
            rw [empty] at ihInner
            generalize spelled children = word at ihInner ⊢
            cases ihInner
            exact .manyEnd .nil
          · obtain ⟨front, _, before, after, inRounds, rfl, split, readsFront, readsBack⟩ :=
              ihInner.of_mem_mul round
            rw [split]
            exact .manyRound (inner.matches invariant covered inRounds readsFront)
              (readsBack.of_singleton _ (.many numbered bodies inner covered))

/-! ### Matches are derived -/

def Yields (grammar : FlatGrammar) (language : Language Symbol) (word : List Terminal) : Prop :=
  ∃ symbols ∈ language, ∃ trees, grammar.Derives symbols trees ∧ spelled trees = word

section Yields

variable {flat : FlatGrammar} {first second : Language Symbol} {before after : List Terminal}

theorem spelled_append (front back : List Tree) :
    spelled (front ++ back) = spelled front ++ spelled back := by
  rw [spelled, forestLeaves_append, List.map_append]
  rfl

theorem Yields.mono (yields : Yields flat first word)
    (within : ∀ symbols ∈ first, symbols ∈ second) :
    Yields flat second word := by
  obtain ⟨symbols, member, derived⟩ := yields
  exact ⟨symbols, within symbols member, derived⟩

theorem yields_one : Yields flat 1 [] :=
  ⟨[], Language.nil_mem_one, [], .nil, rfl⟩

theorem yields_terminal (terminal : Terminal) : Yields flat {[.terminal terminal]} [terminal] :=
  ⟨_, rfl, [.leaf (tokenOfKind terminal)], .terminal (tokenOfKind terminal) .nil, rfl⟩

theorem Yields.mul (yields : Yields flat first before) (later : Yields flat second after) :
    Yields flat (first * second) (before ++ after) := by
  obtain ⟨front, inFirst, trees, derives, rfl⟩ := yields
  obtain ⟨back, inSecond, more, derivesMore, rfl⟩ := later
  exact ⟨front ++ back, Language.append_mem_mul inFirst inSecond, trees ++ more,
    derives.append derivesMore, spelled_append trees more⟩

theorem Yields.of_mul (yields : Yields flat (first * second) word) :
    ∃ before after, word = before ++ after ∧ Yields flat first before ∧
      Yields flat second after := by
  obtain ⟨_, member, trees, derives, rfl⟩ := yields
  obtain ⟨front, inFirst, back, inSecond, rfl⟩ := Language.mem_mul.mp member
  obtain ⟨most, last, rfl, derivesFront, derivesBack⟩ := derives.split
  exact ⟨spelled most, spelled last, spelled_append most last,
    ⟨front, inFirst, most, derivesFront, rfl⟩,
    ⟨back, inSecond, last, derivesBack, rfl⟩⟩

end Yields

theorem Flattened.yields_nonterminal (invariant : Flattened grammar start [] all expansion)
    (apart : grammar.NamesApart) (few : expansion.flat.nonterminals.length ≤ 90000) {name : String}
    {number : Nat} (numbered : expansion.number? name = some number)
    (yields : Yields expansion.flat (languageOf (expansion.bodiesOf name)) word) :
    Yields expansion.flat {[.nonterminal number]} word := by
  obtain ⟨body, listed, trees, derives, rfl⟩ := yields
  have produces : expansion.flat.HasProduction number ⟨name, body⟩ :=
    (invariant.hasProduction_iff apart few numbered).mpr ⟨rfl, listed⟩
  refine ⟨_, rfl, [.node name trees], .nonterminal produces derives .nil, ?_⟩
  rw [spelled, forestLeaves_singleton, Tree.leaves]
  rfl

theorem Compiled.of_mem_choice {alternatives : List (List Op)} {alternative rest : List Op}
    {language : Language Symbol}
    (compiled : expansion.Compiled grammar (.choice alternatives :: rest) language)
    (member : alternative ∈ alternatives) :
    ∃ inners tails, expansion.Compiled grammar alternative inners ∧
      expansion.Compiled grammar rest tails ∧
      ∀ symbols ∈ inners * tails, symbols ∈ language := by
  induction alternatives generalizing language with
  | nil => cases member
  | cons head more ih =>
      cases compiled with
      | choiceCons inner tail later =>
          rcases List.mem_cons.mp member with rfl | listed
          · exact ⟨_, _, inner, tail, fun symbols within => .inl within⟩
          · obtain ⟨inners, tails, compiledInner, compiledTail, within⟩ := ih later listed
            exact ⟨inners, tails, compiledInner, compiledTail,
              fun symbols member => .inr (within symbols member)⟩

theorem yields_of_matches (invariant : Flattened grammar start [] all expansion)
    (apart : grammar.NamesApart) (few : expansion.flat.nonterminals.length ≤ 90000) {ops : List Op}
    {language : Language Symbol} (matched : grammar.Matches ops word)
    (compiled : expansion.Compiled grammar ops language)
    (covered : ∀ id ∈ bodyReferences ops, id ∈ all) : Yields expansion.flat language word := by
  induction matched generalizing language with
  | nil =>
      cases compiled
      exact yields_one
  | consume terminal _ ih =>
      cases compiled with
      | consume _ tail => exact (yields_terminal terminal).mul (ih tail covered)
  | @optionNone body rest word _ ih =>
      cases compiled with
      | option _ tail =>
          have later := ih tail fun id refers => covered id (List.mem_append_right _ refers)
          apply (yields_one.mul later).mono
          intro symbols member
          obtain ⟨front, one, back, within, rfl⟩ := Language.mem_mul.mp member
          exact Language.append_mem_mul (.inl one) within
  | @optionSome body rest first word _ _ ihInner ihTail =>
      cases compiled with
      | option inner tail =>
          have chosen := ihInner inner fun id refers => covered id (List.mem_append_left _ refers)
          have later := ihTail tail fun id refers => covered id (List.mem_append_right _ refers)
          exact (chosen.mono fun _ within => .inr within).mul later
  | @manyEnd body rest word _ ih =>
      cases compiled with
      | @many _ _ _ _ _ number numbered bodies _ tail =>
          have later := ih tail fun id refers => covered id (List.mem_append_right _ refers)
          have ended : Yields expansion.flat {[.nonterminal number]} [] := by
            apply invariant.yields_nonterminal apart few numbered
            rw [bodies]
            exact yields_one.mono fun _ one => .inl one
          exact ended.mul later
  | @manyRound body rest first word _ _ ihInner ihTail =>
      cases compiled with
      | @many _ _ rounds tails repetition number numbered bodies inner tail =>
          -- The rounds after the first are what the same number stands for again.
          obtain ⟨before, after, split, repeated, later⟩ :=
            (ihTail (.many numbered bodies inner tail) covered).of_mul
          have round := ihInner inner fun id refers => covered id (List.mem_append_left _ refers)
          have again : Yields expansion.flat {[.nonterminal number]} (first ++ before) := by
            apply invariant.yields_nonterminal apart few numbered
            rw [bodies]
            exact (round.mul repeated).mono fun _ within => .inr within
          rw [split, ← List.append_assoc]
          exact again.mul later
  | @choice alternatives alternative rest first word member _ _ ihInner ihTail =>
      obtain ⟨inners, tails, inner, tail, within⟩ := compiled.of_mem_choice member
      have chosen := ihInner inner fun id refers =>
        covered id (List.mem_append_left _ (mem_choiceReferences.mpr ⟨_, member, refers⟩))
      have later := ihTail tail fun id refers => covered id (List.mem_append_right _ refers)
      exact (chosen.mul later).mono within
  | @subRule id body rest first word defined _ _ ihInner ihTail =>
      cases compiled with
      | subRule found numbered tail =>
          obtain ⟨other, same, inner, coveredBody⟩ :=
            invariant.compiled (covered id List.mem_cons_self) found
          rw [defined] at same
          cases same
          have referred := invariant.yields_nonterminal apart few numbered
            (ihInner inner coveredBody)
          exact referred.mul
            (ihTail tail fun other refers => covered other (List.mem_cons_of_mem _ refers))
  | @group name members terminal rest word member _ ih =>
      cases compiled with
      | group _ _ tail =>
          apply ((yields_terminal terminal).mono _).mul (ih tail covered)
          intro symbols single
          exact List.mem_map.mpr ⟨terminal, member, single.symm⟩

end Expansion

namespace Grammar
open Expansion

/-- The rules that the root refers to, itself or through others. -/
def Refers (grammar : Grammar) : RuleId → RuleId → Prop :=
  Relation.ReflTransGen fun id other => other ∈ grammar.references id

variable {grammar : Grammar} {root : RuleId} {flat : FlatGrammar}

/-- Flattening keeps the language of every rule that the root refers to. -/
theorem rewritesTo_iff_matches (constructed : grammar.Constructed)
    (flattened : (grammar.flatten root).1 = .ok flat) (few : flat.nonterminals.length ≤ 90000)
    {id : RuleId} (reachable : grammar.Refers root id) :
    ∃ rule body number, grammar.get? id = some rule ∧ rule.body = some body ∧
      nonterminalIndex? flat.nonterminals rule.name = some number ∧
      ∀ word : List Terminal, flat.RewritesTo [.nonterminal number] (word.map .terminal) ↔
        grammar.Matches body word := by
  have apart := constructed.namesApart
  obtain ⟨expansion, start, all, _, rfl, invariant, rootIn, _, _⟩ :=
    flattened_of_flatten apart flattened
  have member : id ∈ all := by
    induction reachable with
    | refl => exact rootIn
    | tail _ refers ih => exact (invariant.closed _ ih _ refers).resolve_right List.not_mem_nil
  obtain ⟨rule, _, number, found, _, numbered, _⟩ := invariant.stands id member
  obtain ⟨body, bodyOf, compiled, covered⟩ := invariant.compiled member found
  obtain ⟨other, foundOther, defined⟩ := bodyOf?_eq_some_iff.mp bodyOf
  rw [found] at foundOther
  cases foundOther
  refine ⟨rule, body, number, found, defined,
    (invariant.tidy.nonterminalIndex?_eq_some_iff apart).mpr (.inl numbered), fun word => ?_⟩
  rw [FlatGrammar.rewritesTo_iff_derives]
  constructor
  · rintro ⟨trees, derives, rfl⟩
    exact (reads_of_derives invariant apart few derives).of_singleton body
      (.rule numbered compiled covered)
  · intro matched
    obtain ⟨_, rfl, derived⟩ := invariant.yields_nonterminal apart few numbered
      (yields_of_matches invariant apart few matched compiled covered)
    exact derived

theorem rewritesTo_iff_matches_itemList :
    itemList.Constructed ∧ (itemList.flatten 0).1 = .ok flatItemList ∧
      flatItemList.nonterminals.length ≤ 90000 ∧ itemList.Refers 0 0 ∧
      ∃ rule body number, itemList.get? 0 = some rule ∧ rule.body = some body ∧
        nonterminalIndex? flatItemList.nonterminals rule.name = some number ∧
        ∀ word : List Terminal, flatItemList.RewritesTo [.nonterminal number] (word.map .terminal) ↔
          itemList.Matches body word :=
  ⟨constructed_itemList, flatten_itemList, by decide, .refl,
    rewritesTo_iff_matches constructed_itemList flatten_itemList (by decide) .refl⟩

end Grammar

end CanonicalLR
