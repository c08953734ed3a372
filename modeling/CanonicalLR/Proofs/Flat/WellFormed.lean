import CanonicalLR.Proofs.Flat.Cycles

namespace CanonicalLR

theorem nodup_eraseDups {α : Type} [BEq α] [LawfulBEq α] : (items : List α) → items.eraseDups.Nodup
  | [] => List.nodup_nil
  | item :: rest => by
      rw [List.eraseDups_cons, List.nodup_cons]
      refine ⟨?_, nodup_eraseDups _⟩
      rw [List.mem_eraseDups, List.mem_filter]
      simp
termination_by items => items.length
decreasing_by exact Nat.lt_succ_of_le (List.length_filter_le _ _)

/-- What holds of productions and entries for a root with this name. -/
structure FlatGrammar.WellFormed (flat : FlatGrammar) (name : String) : Prop where
  first : ∃ number, nonterminalIndex? flat.nonterminals name = some number ∧
    flat.productions[0]? = some ⟨Rule.startName, [.nonterminal number]⟩
  single : ∀ (place : Nat) (production : Production),
    flat.productions[place]? = some production → production.head = Rule.startName → place = 0
  distinct : flat.productions.toList.Nodup
  names : (flat.nonterminals.map (·.name)).Nodup
  last : flat.nonterminals.getLast? = some ⟨Rule.startName, startNonterminal⟩
  numbered : ∀ (place : Nat) (entry : NonterminalEntry), flat.nonterminals[place]? = some entry →
    entry.name ≠ Rule.startName → entry.index = firstNonterminal + place
  heads : ∀ production ∈ flat.productions, ∃ entry ∈ flat.nonterminals,
    entry.name = production.head ∧ flat.headIndex? production.head = some entry.index ∧
      nonterminalIndex? flat.nonterminals production.head = some entry.index
  bodies : ∀ production ∈ flat.productions, ∀ number, .nonterminal number ∈ production.body →
    ∃ entry ∈ flat.nonterminals, entry.name ≠ Rule.startName ∧ entry.index = number
  produced : ∀ entry ∈ flat.nonterminals, ∃ production ∈ flat.productions,
    production.head = entry.name
  ends : ∀ entry ∈ flat.nonterminals, Rule.isRepetition entry.name = true →
    ∃! place : Nat, flat.productions[place]? = some ⟨entry.name, []⟩
  goesOn : ∀ entry ∈ flat.nonterminals, Rule.isRepetition entry.name = true →
    ∀ production ∈ flat.productions, production.head = entry.name → production.body ≠ [] →
      ∃ round, production.body = round ++ [.nonterminal entry.index]

namespace Expansion

variable {grammar : Grammar} {root id : RuleId} {start : Nat}
  {todo flattened all left : List RuleId} {rule : Rule} {name : String} {ops body inner : List Op}
  {bodies : List (List Symbol)} {language : Language Symbol}
  {before after expansion : Expansion}

/-! ### What is listed -/

def Owned (grammar : Grammar) (root : RuleId) (repetitions : Nat) (name : String) : Prop :=
  (∃ id rule, grammar.Reaches root id ∧ grammar.get? id = some rule ∧ name = rule.name) ∨
    ∃ repetition < repetitions, name = repetitionName repetition

structure Listed (grammar : Grammar) (root : RuleId) (expansion : Expansion) : Prop where
  distinct : expansion.productions.toList.Nodup
  owned : ∀ name ∈ expansion.names.toList, Owned grammar root expansion.repetitions name

theorem Listed.number (listed : Listed grammar root expansion)
    (owned : Owned grammar root expansion.repetitions name) :
    Listed grammar root (expansion.number name).2 := by
  constructor
  · rw [productions_number]
    exact listed.distinct
  · intro other member
    rw [repetitions_number]
    rcases number_cases expansion name with ⟨same, _⟩ | ⟨pushed, _⟩
    · rw [same] at member
      exact listed.owned other member
    · rw [pushed, names_addName] at member
      rcases List.mem_append.mp member with old | new
      · exact listed.owned other old
      · rw [List.mem_singleton.mp new]
        exact owned

theorem Listed.push (listed : Listed grammar root expansion) (bodies : List (List Symbol))
    (none : expansion.bodiesOf name = []) : Listed grammar root (expansion.push name bodies) := by
  refine ⟨?_, listed.owned⟩
  rw [Expansion.push, Array.toList_append]
  refine listed.distinct.append ((nodup_eraseDups bodies).map ?_) ?_
  · exact fun _ _ same => (Production.mk.inj same).2
  · intro production old new
    obtain ⟨body, _, rfl⟩ := List.mem_map.mp new
    have under := mem_bodiesOf.mpr (Array.mem_toList_iff.mp old)
    rw [none] at under
    cases under

theorem keptByExpanding_listed :
    KeptByExpanding grammar (grammar.Reaches root) (Listed grammar root) where
  numbered id rule _ reached found listed := listed.number (.inl ⟨id, rule, reached, found, rfl⟩)
  begun before listed := by
    have counted : Listed grammar root { before with repetitions := before.repetitions + 1 } := by
      refine ⟨listed.distinct, fun name member => (listed.owned name member).imp_right ?_⟩
      rintro ⟨repetition, less, named⟩
      exact ⟨repetition, Nat.lt_succ_of_lt less, named⟩
    exact counted.number (.inr ⟨before.repetitions, Nat.lt_succ_self _, rfl⟩)
  ended _ _ _ _ tidy expanded listed := listed.push _ (expanded.bodiesOf_repetition tidy)

theorem Listed.flattenRule (apart : grammar.NamesApart)
    (invariant : Flattened grammar start (id :: todo) flattened before) (new : id ∉ flattened)
    (reached : grammar.Reaches root id) (listed : Listed grammar root before)
    (found : grammar.get? id = some rule) (defined : rule.body = some body)
    (expands : expandBody grammar [[]] (before.number rule.name).2 body = .ok (bodies, after)) :
    Listed grammar root (after.push rule.name bodies) := by
  obtain ⟨expanded, _, _, _⟩ := expanded_rule apart invariant.tidy found expands
  have references := reached.of_mem_references
    (Grammar.bodyOf?_eq_some_iff.mpr ⟨rule, found, defined⟩)
  have tidy : (before.number rule.name).2.Tidy grammar :=
    invariant.tidy.number (.inl ⟨rule, Array.mem_of_getElem? found, rfl⟩)
  have listedAfter : Listed grammar root after :=
    keptByExpanding_listed.body body references tidy expands
      (listed.number (.inl ⟨id, rule, reached, found, rfl⟩))
  apply listedAfter.push
  have plain := ne_repetitionName apart found
  rw [expanded.kept rule.name fun repetition same => absurd same (plain repetition),
    bodiesOf_number, invariant.fresh id rule found new]

theorem listed_begun (found : grammar.get? root = some rule) :
    Listed grammar root (begun rule) := by
  have empty : Listed grammar root {} := ⟨List.nodup_nil, nofun⟩
  apply (empty.number (.inl ⟨root, rule, .refl, found, rfl⟩)).push
  exact bodiesOf_number _ _ _

theorem listed_of_run (apart : grammar.NamesApart) (found : grammar.get? root = some rule)
    (runs : grammar.flattenRules (grammar.referenceCount + 1) [root] [] (begun rule) =
      .ok after) : Listed grammar root after := by
  obtain ⟨start, invariant, _⟩ := Grammar.flattened_begun apart found
  obtain ⟨_, _, _, listed⟩ : ∃ all, Flattened grammar start [] all after ∧
      Sourced grammar root [] after ∧ Listed grammar root after := by
    refine flattenRules_induction (motive := fun todo flattened expansion =>
      Flattened grammar start todo flattened expansion ∧ Sourced grammar root todo expansion ∧
        Listed grammar root expansion) ?_ ?_ (enough_root grammar root)
      ⟨invariant, sourced_begun apart found, listed_begun found⟩ runs
    · rintro id todo flattened expansion member ⟨invariant, sourced, listed⟩
      exact ⟨invariant.skip member,
        { sourced with reached := (List.forall_mem_cons.mp sourced.reached).2 }, listed⟩
    · rintro id todo flattened before rule body bodies middle new found defined expands
        ⟨invariant, sourced, listed⟩
      exact ⟨(invariant.flattenRule apart new found defined expands).1,
        sourced.flattenRule apart found defined expands,
        listed.flattenRule apart invariant new (sourced.reached id List.mem_cons_self) found defined
          expands⟩
  exact listed

/-! ### What productions there are -/

theorem Compiled.nonempty (compiled : expansion.Compiled grammar ops language)
    (offers : ∀ op, Written op ops → ¬ op.OffersNothing) : ∃ symbols, symbols ∈ language := by
  have rest {op : Op} {ops : List Op} (offers : ∀ other, Written other (op :: ops) →
      ¬ other.OffersNothing) : ∀ other, Written other ops → ¬ other.OffersNothing :=
    fun other written => offers other (written.mono (List.subset_cons_self op ops))
  induction compiled with
  | nil => exact ⟨[], Language.nil_mem_one⟩
  | consume _ _ ih | subRule _ _ _ ih | many _ _ _ _ _ ih =>
      obtain ⟨symbols, member⟩ := ih (rest offers)
      exact ⟨_, Language.mem_mul.mpr ⟨_, rfl, symbols, member, rfl⟩⟩
  | option _ _ _ ih =>
      obtain ⟨symbols, member⟩ := ih (rest offers)
      exact ⟨_, Language.mem_mul.mpr ⟨[], .inl Language.nil_mem_one, symbols, member, rfl⟩⟩
  | choiceNil => exact absurd (.inl rfl) (offers _ (.here List.mem_cons_self))
  | choiceCons _ _ _ ihInner ihTail _ =>
      obtain ⟨front, inInner⟩ := ihInner fun other written =>
        offers other (.inside List.mem_cons_self (.choice List.mem_cons_self) written)
      obtain ⟨back, inTail⟩ := ihTail (rest offers)
      exact ⟨front ++ back, .inl (Language.mem_mul.mpr ⟨front, inInner, back, inTail, rfl⟩)⟩
  | group name members _ ih =>
      obtain ⟨symbols, member⟩ := ih (rest offers)
      cases members with
      | nil => exact absurd (.inr ⟨name, rfl⟩) (offers _ (.here List.mem_cons_self))
      | cons terminal more =>
          exact ⟨_, Language.mem_mul.mpr ⟨_, List.mem_cons_self, symbols, member, rfl⟩⟩

theorem covers_of_repeated (repeated : grammar.Repeated root inner) :
    grammar.Covers root inner := by
  obtain ⟨id, body, reached, defined, written⟩ := repeated
  exact ((Grammar.covers_of_refers (Grammar.refers_iff_reaches.mpr reached) defined).written
    written).many

theorem mem_repeats {number : Nat} {round : List Symbol} {rounds : Language Symbol}
    (bodies : languageOf (expansion.bodiesOf name) = 1 + rounds * {[.nonterminal number]}) :
    round ∈ expansion.bodiesOf name ↔
      round = [] ∨ ∃ front ∈ rounds, round = front ++ [.nonterminal number] := by
  rw [← mem_languageOf, bodies, Language.mem_add, Language.mem_one, Language.mem_mul]
  refine or_congr_right ⟨?_, ?_⟩
  · rintro ⟨front, member, _, rfl, rfl⟩
    exact ⟨front, member, rfl⟩
  · rintro ⟨front, member, rfl⟩
    exact ⟨front, member, _, rfl, rfl⟩

/-! ### The work done -/

structure Complete (grammar : Grammar) (root : RuleId) (rule : Rule) (start : Nat)
    (all left : List RuleId) (expansion : Expansion) : Prop where
  apart : grammar.NamesApart
  offers : ∀ id, grammar.Reaches root id → ¬ grammar.Shows id .emptyChoice
  found : grammar.get? root = some rule
  numbered : expansion.number? rule.name = some start
  rootIn : root ∈ all
  invariant : Flattened grammar start [] all expansion
  sourced : Sourced grammar root left expansion
  listed : Listed grammar root expansion

section Complete

variable (complete : Complete grammar root rule start all left expansion)
include complete

theorem Complete.names : (expansion.entries.map (·.name)).Nodup :=
  complete.invariant.tidy.nodup_entries complete.apart

theorem Complete.index_eq_some_iff {number : Nat} :
    nonterminalIndex? expansion.flat.nonterminals name = some number ↔
      expansion.number? name = some number ∨ name = Rule.startName ∧ number = startNonterminal :=
  complete.invariant.tidy.nonterminalIndex?_eq_some_iff complete.apart

theorem Complete.headIndex? (name : String) : expansion.flat.headIndex? name =
    nonterminalIndex? expansion.flat.nonterminals name :=
  (complete.invariant.augmented complete.apart).head name

theorem Complete.stands {owner : Rule} (reached : grammar.Reaches root id)
    (found : grammar.get? id = some owner) : ∃ body number, grammar.bodyOf? id = some body ∧
      expansion.number? owner.name = some number ∧
      expansion.Compiled grammar body (languageOf (expansion.bodiesOf owner.name)) := by
  have member := complete.invariant.mem_of_refers complete.rootIn
    (Grammar.refers_iff_reaches.mpr reached)
  obtain ⟨_, body, number, same, defined, numbered, compiled⟩ :=
    complete.invariant.stands id member
  rw [found] at same
  cases same
  exact ⟨body, number, Grammar.bodyOf?_eq_some_iff.mpr ⟨owner, found, defined⟩, numbered, compiled⟩

theorem Complete.exists_of_owned (owned : Owned grammar root expansion.repetitions name) :
    ∃ number body, expansion.number? name = some number ∧ body ∈ expansion.bodiesOf name := by
  rcases owned with ⟨id, rule, reached, found, rfl⟩ | ⟨repetition, less, rfl⟩
  · obtain ⟨body, number, defined, numbered, compiled⟩ := complete.stands reached found
    obtain ⟨symbols, listed⟩ := compiled.nonempty fun op written offersNothing =>
      complete.offers id reached ⟨body, defined, op, written, offersNothing⟩
    exact ⟨number, symbols, numbered, listed⟩
  · obtain ⟨_, _, number, rounds, numbered, bodies, _⟩ :=
      complete.sourced.repetitions repetition less
    exact ⟨number, [], numbered, (mem_repeats bodies).mpr (.inl rfl)⟩

theorem Complete.exists_index {production : Production}
    (member : production ∈ expansion.productions) :
    ∃ number, nonterminalIndex? expansion.flat.nonterminals production.head = some number := by
  rcases complete.sourced.heads production member with same | owned
  · exact ⟨_, complete.index_eq_some_iff.mpr (.inr ⟨same, rfl⟩)⟩
  · obtain ⟨number, _, own, _⟩ := complete.exists_of_owned owned
    exact ⟨number, complete.index_eq_some_iff.mpr (.inl own)⟩

theorem Complete.exists_production {entry : NonterminalEntry}
    (member : entry ∈ expansion.flat.nonterminals) :
    ∃ production ∈ expansion.productions, production.head = entry.name := by
  rcases Expansion.mem_entries.mp member with ⟨place, named, _⟩ | ⟨same, _⟩
  · obtain ⟨_, body, _, under⟩ := complete.exists_of_owned
      (complete.listed.owned _ (Array.mem_of_getElem? named).val)
    exact ⟨_, mem_bodiesOf.mp under, rfl⟩
  · exact ⟨_, Array.mem_of_getElem? complete.invariant.first, same.symm⟩

theorem Complete.leads {production : Production} (member : production ∈ expansion.productions) :
    ∀ symbol ∈ production.body, Leads grammar root expansion symbol := by
  have under := mem_bodiesOf.mpr member
  -- What a number leads to is led to by each of its productions.
  have inherits {number : Nat} (own : expansion.number? production.head = some number)
      (leads : Leads grammar root expansion (.nonterminal number)) :
      ∀ symbol ∈ production.body, Leads grammar root expansion symbol := by
    apply complete.invariant.hereditary_leads complete.apart complete.rootIn complete.found
      complete.numbered number production _ leads
    refine ⟨member, ?_⟩
    rw [complete.headIndex?]
    exact complete.index_eq_some_iff.mpr (.inl own)
  rcases complete.sourced.heads production member with
    same | ⟨id, owner, reached, found, same⟩ | ⟨repetition, less, same⟩
  · rw [same, complete.invariant.single] at under
    rw [List.mem_singleton.mp under]
    exact (Leads.rule .refl complete.found complete.numbered).singleton _ rfl
  · obtain ⟨_, number, _, numbered, _⟩ := complete.stands reached found
    exact inherits (same ▸ numbered)
      (.rule (Grammar.refers_iff_reaches.mpr reached) found numbered)
  · obtain ⟨_, repeated, number, _, numbered, bodies, compiled⟩ :=
      complete.sourced.repetitions repetition less
    exact inherits (same ▸ numbered)
      (.many numbered bodies compiled (covers_of_repeated repeated))

theorem Complete.exists_entry {production : Production}
    (member : production ∈ expansion.productions) {number : Nat}
    (occurs : .nonterminal number ∈ production.body) :
    ∃ entry ∈ expansion.flat.nonterminals, entry.name ≠ Rule.startName ∧ entry.index = number := by
  have named : ∃ name, expansion.number? name = some number := by
    cases complete.leads member _ occurs with
    | rule _ _ numbered | many numbered _ _ _ => exact ⟨_, numbered⟩
  obtain ⟨name, numbered⟩ := named
  obtain ⟨place, given, same⟩ := (number?_eq_some_iff complete.invariant.tidy.nodup).mp numbered
  exact ⟨⟨name, number⟩, Expansion.mem_entries.mpr (.inl ⟨place, given, same⟩),
    complete.invariant.tidy.ne_startName complete.apart (Array.mem_of_getElem? given).val, rfl⟩

theorem Complete.repeats {entry : NonterminalEntry}
    (member : entry ∈ expansion.flat.nonterminals)
    (marked : Rule.isRepetition entry.name = true) :
    ∃ rounds : Language Symbol, languageOf (expansion.bodiesOf entry.name) =
      1 + rounds * {[.nonterminal entry.index]} := by
  have nodup := complete.invariant.tidy.nodup
  rcases Expansion.mem_entries.mp member with ⟨place, given, same⟩ | ⟨same, _⟩
  · obtain ⟨repetition, less, named⟩ := complete.invariant.tidy.exists_repetition complete.apart
      (Array.mem_of_getElem? given).val marked
    obtain ⟨_, _, number, rounds, numbered, bodies, _⟩ :=
      complete.sourced.repetitions repetition less
    have own := (number?_eq_some_iff nodup).mpr ⟨place, given, same⟩
    rw [named, numbered] at own
    cases own
    rw [named]
    exact ⟨rounds, bodies⟩
  · rw [same] at marked
    cases marked

theorem Complete.existsUnique_place {production : Production}
    (member : production ∈ expansion.productions) :
    ∃! place : Nat, expansion.productions[place]? = some production := by
  obtain ⟨place, less, holds⟩ := Array.mem_iff_getElem.mp member
  have placed := Array.getElem?_eq_some_iff.mpr ⟨less, holds⟩
  refine ⟨place, placed, fun other placedOther => ?_⟩
  rw [← Array.getElem?_toList] at placed placedOther
  have lessOther := (List.getElem?_eq_some_iff.mp placedOther).1
  exact (List.getElem?_inj lessOther complete.listed.distinct).mp (placedOther.trans placed.symm)

end Complete

theorem getElem?_entries {place : Nat} {entry : NonterminalEntry}
    (found : expansion.entries[place]? = some entry) :
    entry.name = Rule.startName ∨ entry.index = firstNonterminal + place := by
  rw [entries, List.getElem?_append] at found
  split at found
  · rw [List.getElem?_mapIdx, Option.map_eq_some_iff] at found
    obtain ⟨name, _, rfl⟩ := found
    exact .inr rfl
  · obtain rfl := List.mem_singleton.mp (List.mem_of_getElem? found)
    exact .inl rfl

theorem Complete.wellFormed (complete : Complete grammar root rule start all left expansion) :
    expansion.flat.WellFormed rule.name := by
  constructor
  case first =>
    exact ⟨start, complete.index_eq_some_iff.mpr (.inl complete.numbered), complete.invariant.first⟩
  case single => exact fun _ _ => (complete.invariant.augmented complete.apart).single
  case distinct => exact complete.listed.distinct
  case names => exact complete.names
  case last => exact List.getLast?_concat
  case numbered => exact fun _ _ placed => (getElem?_entries placed).resolve_left
  case heads =>
    intro production member
    obtain ⟨number, indexed⟩ := complete.exists_index member
    exact ⟨⟨production.head, number⟩, (nonterminalIndex?_eq_some_iff complete.names).mp indexed, rfl,
      (complete.headIndex? production.head).trans indexed, indexed⟩
  case bodies => exact fun _ member _ => complete.exists_entry member
  case produced => exact fun _ => complete.exists_production
  case ends =>
    intro entry member marked
    obtain ⟨_, bodies⟩ := complete.repeats member marked
    exact complete.existsUnique_place (mem_bodiesOf.mp ((mem_repeats bodies).mpr (.inl rfl)))
  case goesOn =>
    intro entry member marked production listed same nonempty
    obtain ⟨rounds, bodies⟩ := complete.repeats member marked
    rw [← same] at bodies
    obtain ⟨round, _, again⟩ :=
      ((mem_repeats bodies).mp (mem_bodiesOf.mpr listed)).resolve_left nonempty
    exact ⟨round, again⟩

end Expansion

namespace Grammar
open Expansion

variable {grammar : Grammar} {root : RuleId} {flat : FlatGrammar}

theorem number?_root (apart : grammar.NamesApart) {rule : Rule} {expansion : Expansion}
    (found : grammar.get? root = some rule)
    (runs : grammar.flattenRules (grammar.referenceCount + 1) [root] [] (begun rule) =
      .ok expansion) : expansion.number? rule.name = some firstNonterminal := by
  have first : (({} : Expansion).number rule.name).1 = firstNonterminal := by simp [number]
  have numbered : (begun rule).number? rule.name = some firstNonterminal :=
    (number?_number {} rule.name).trans (congrArg some first)
  obtain ⟨_, invariant, _⟩ := flattened_begun apart found
  obtain ⟨_, _, _, _, extension⟩ := invariant.run apart (enough_root grammar root) runs
  exact extension.number? numbered

theorem complete_of_flatten (constructed : grammar.Constructed)
    (flattened : (grammar.flatten root).1 = .ok flat) :
    ∃ rule all left expansion, flat = expansion.flat ∧
      Complete grammar root rule firstNonterminal all left expansion := by
  have apart := constructed.namesApart
  obtain ⟨passed, rule, expansion, found, same, runs⟩ := run_of_flatten flattened
  obtain ⟨start, all, invariant, rootIn, numbered⟩ := flattened_of_run apart found runs
  obtain ⟨left, sourced⟩ := sourced_of_run apart found runs
  obtain rfl : start = firstNonterminal :=
    Option.some.inj (numbered.symm.trans (number?_root apart found runs))
  have offers (id : RuleId) (reached : grammar.Reaches root id) :
      ¬ grammar.Shows id .emptyChoice := validate_ok_iff.mp passed id reached .emptyChoice
  exact ⟨rule, all, left, expansion, same,
    { apart, offers, found, numbered, rootIn, invariant, sourced
      listed := listed_of_run apart found runs }⟩

/-- The flat grammar that a grammar is flattened to is well formed. -/
theorem wellFormed_of_flatten (constructed : grammar.Constructed)
    (flattened : (grammar.flatten root).1 = .ok flat) :
    ∃ rule, grammar.get? root = some rule ∧ flat.WellFormed rule.name := by
  obtain ⟨rule, _, _, expansion, rfl, complete⟩ := complete_of_flatten constructed flattened
  exact ⟨rule, complete.found, complete.wellFormed⟩

theorem wellFormed_of_flatten_itemList : itemList.Constructed ∧
    (itemList.flatten 0).1 = .ok flatItemList ∧ flatItemList.WellFormed "list" := by
  obtain ⟨_, ⟨⟩, wellFormed⟩ := wellFormed_of_flatten constructed_itemList flatten_itemList
  exact ⟨constructed_itemList, flatten_itemList, wellFormed⟩

end Grammar

end CanonicalLR
