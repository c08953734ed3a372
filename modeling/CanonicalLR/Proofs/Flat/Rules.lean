import CanonicalLR.Proofs.Flat.Augmented
import CanonicalLR.Proofs.Flat.Compiled
import Mathlib.Algebra.BigOperators.Group.Finset.Basic
import Mathlib.Algebra.GroupWithZero.Nat

namespace CanonicalLR

def Grammar.repetitionsOf (grammar : Grammar) (id : RuleId) : Nat :=
  match grammar.bodyOf? id with
  | some body => bodyRepetitions body
  | none => 0

namespace Expansion

def Stands (grammar : Grammar) (expansion : Expansion) (id : RuleId) : Prop :=
  ∃ rule body number, grammar.get? id = some rule ∧ rule.body = some body ∧
    expansion.number? rule.name = some number ∧
    expansion.Compiled grammar body (languageOf (expansion.bodiesOf rule.name))

/-- What holds of an expansion when some rules are flattened and others are still to do; `start` is
the number of the root. -/
structure Flattened (grammar : Grammar) (start : Nat) (todo flattened : List RuleId)
    (expansion : Expansion) : Prop where
  tidy : expansion.Tidy grammar
  first : expansion.productions[0]? = some ⟨Rule.startName, [.nonterminal start]⟩
  single : expansion.bodiesOf Rule.startName = [[.nonterminal start]]
  stands : ∀ id ∈ flattened, expansion.Stands grammar id
  closed : ∀ id ∈ flattened, ∀ other ∈ grammar.references id, other ∈ flattened ∨ other ∈ todo
  fresh : ∀ id rule, grammar.get? id = some rule → id ∉ flattened →
    expansion.bodiesOf rule.name = []
  counted : expansion.repetitions = (flattened.map grammar.repetitionsOf).sum

variable {grammar : Grammar} {start : Nat} {todo flattened : List RuleId} {id : RuleId}
  {rule : Rule} {body : List Op} {bodies : List (List Symbol)} {before after : Expansion}

theorem Extends.first (extension : Extends before after) {production : Production}
    (found : before.productions[0]? = some production) :
    after.productions[0]? = some production := by
  obtain ⟨more, productions⟩ := extension.productions
  rw [← Array.getElem?_toList] at found ⊢
  rw [← productions]
  exact List.getElem?_append_left (List.getElem?_eq_some_iff.mp found).1 ▸ found

theorem ne_repetitionName (apart : grammar.NamesApart) (found : grammar.get? id = some rule)
    (number : Nat) : rule.name ≠ repetitionName number := by
  intro same
  have plain := apart.unreserved_of_get? found
  rw [same, isReserved_repetitionName] at plain
  cases plain

theorem ne_startName (apart : grammar.NamesApart) (found : grammar.get? id = some rule) :
    rule.name ≠ Rule.startName := by
  intro same
  have plain := apart.unreserved_of_get? found
  rw [same, isReserved_startName] at plain
  cases plain

theorem plain_name (apart : grammar.NamesApart) (found : grammar.get? id = some rule) :
    Rule.isRepetition rule.name = false := by
  have plain := apart.unreserved_of_get? found
  rw [Rule.isReserved, Bool.or_eq_false_iff] at plain
  exact plain.2

theorem Stands.extend (stands : before.Stands grammar id) (extension : before.Extends after)
    (same : ∀ rule, grammar.get? id = some rule →
      after.bodiesOf rule.name = before.bodiesOf rule.name) : after.Stands grammar id := by
  obtain ⟨rule, body, number, found, defined, numbered, compiled⟩ := stands
  refine ⟨rule, body, number, found, defined, extension.number? numbered, ?_⟩
  rw [same rule found]
  exact compiled.extend extension

theorem Flattened.skip (invariant : Flattened grammar start (id :: todo) flattened before)
    (done : id ∈ flattened) : Flattened grammar start todo flattened before :=
  { invariant with
    closed := by
      intro other member reference refers
      rcases invariant.closed other member reference refers with old | waiting
      · exact .inl old
      · rcases List.mem_cons.mp waiting with rfl | later
        · exact .inl done
        · exact .inr later }

theorem expanded_rule (apart : grammar.NamesApart) (tidy : before.Tidy grammar)
    (found : grammar.get? id = some rule)
    (expands : expandBody grammar [[]] (before.number rule.name).2 body = .ok (bodies, after)) :
    Expanded grammar body [[]] (before.number rule.name).2 bodies after ∧
      (after.push rule.name bodies).Tidy grammar ∧
      Extends after (after.push rule.name bodies) ∧
      Extends before (after.push rule.name bodies) := by
  have tidyNumber : (before.number rule.name).2.Tidy grammar :=
    tidy.number (.inl ⟨rule, Array.mem_of_getElem? found, rfl⟩)
  have expanded := expanded_body body tidyNumber expands
  have plain := ne_repetitionName apart found
  have pushed : Extends after (after.push rule.name bodies) :=
    extends_push after bodies fun number same => absurd same (plain number)
  refine ⟨expanded, ?_, pushed, ?_⟩
  · exact expanded.tidy.push (fun number same => absurd same (plain number)) expanded.alone.2
  · exact (extends_number before rule.name).trans (expanded.extension.trans pushed)

theorem Flattened.flattenRule (apart : grammar.NamesApart)
    (invariant : Flattened grammar start (id :: todo) flattened before) (new : id ∉ flattened)
    (found : grammar.get? id = some rule) (defined : rule.body = some body)
    (expands : expandBody grammar [[]] (before.number rule.name).2 body = .ok (bodies, after)) :
    Flattened grammar start (bodyReferences body ++ todo) (id :: flattened)
        (after.push rule.name bodies) ∧
      before.Extends (after.push rule.name bodies) := by
  obtain ⟨expanded, tidy, pushed, extension⟩ :=
    expanded_rule apart invariant.tidy found expands
  have compiled := expanded.alone.1
  have plain := ne_repetitionName apart found
  -- Names other than that of the rule, repetitions aside, keep their bodies.
  have kept {head : String} (unlike : ∀ number, head ≠ repetitionName number) :
      after.bodiesOf head = before.bodiesOf head := by
    rw [expanded.kept head fun number same => absurd same (unlike number), bodiesOf_number]
  have others {head : String} (unlike : ∀ number, head ≠ repetitionName number)
      (differ : rule.name ≠ head) :
      (after.push rule.name bodies).bodiesOf head = before.bodiesOf head := by
    rw [bodiesOf_push, if_neg differ, List.append_nil, kept unlike]
  have own : (after.push rule.name bodies).bodiesOf rule.name = bodies.eraseDups := by
    rw [bodiesOf_push, if_pos rfl, kept plain, invariant.fresh id rule found new, List.nil_append]
  have bodyOf : grammar.bodyOf? id = some body :=
    Grammar.bodyOf?_eq_some_iff.mpr ⟨rule, found, defined⟩
  refine ⟨⟨tidy, extension.first invariant.first, ?_, ?_, ?_, ?_, ?_⟩, extension⟩
  · rw [others startName_ne_repetitionName (ne_startName apart found)]
    exact invariant.single
  · intro other member
    rcases List.mem_cons.mp member with rfl | old
    · refine ⟨rule, body, _, found, defined,
        (expanded.extension.trans pushed).number? (number?_number before rule.name), ?_⟩
      rw [own, languageOf_eraseDups]
      exact compiled.extend pushed
    · apply (invariant.stands other old).extend extension
      intro rule' found'
      apply others (ne_repetitionName apart found')
      intro same
      rw [apart.get?_unique found found' same] at new
      exact new old
  · intro other member reference refers
    rcases List.mem_cons.mp member with rfl | old
    · rw [Grammar.references, bodyOf] at refers
      exact .inr (List.mem_append_left _ refers)
    · rcases invariant.closed other old reference refers with done | waiting
      · exact .inl (List.mem_cons_of_mem _ done)
      · rcases List.mem_cons.mp waiting with rfl | later
        · exact .inl List.mem_cons_self
        · exact .inr (List.mem_append_right _ later)
  · intro other rule' found' notDone
    rw [List.mem_cons, not_or] at notDone
    rw [others (ne_repetitionName apart found')]
    · exact invariant.fresh other rule' found' notDone.2
    · intro same
      exact notDone.1 (apart.get?_unique found found' same).symm
  · have more : (after.push rule.name bodies).repetitions =
        before.repetitions + bodyRepetitions body := by
      rw [← repetitions_number before rule.name]
      exact expanded.counted
    rw [more, invariant.counted, List.map_cons, List.sum_cons, Grammar.repetitionsOf, bodyOf,
      Nat.add_comm]

/-! ### The steps are enough -/

def pendingReferences (grammar : Grammar) (flattened : List RuleId) : Nat :=
  ∑ id ∈ (Finset.range grammar.rules.size).filter (· ∉ flattened), (grammar.references id).length

theorem pendingReferences_nil : pendingReferences grammar [] = grammar.referenceCount := by
  rw [pendingReferences, Finset.filter_true_of_mem (by simp), Grammar.referenceCount,
    List.length_flatMap]
  rfl

theorem enough_root (grammar : Grammar) (root : RuleId) :
    [root].length + pendingReferences grammar [] ≤ grammar.referenceCount + 1 := by
  rw [pendingReferences_nil, List.length_singleton, Nat.add_comm]

theorem pendingReferences_cons (less : id < grammar.rules.size) (new : id ∉ flattened) :
    pendingReferences grammar flattened =
      (grammar.references id).length + pendingReferences grammar (id :: flattened) := by
  have rest : (Finset.range grammar.rules.size).filter (· ∉ id :: flattened) =
      ((Finset.range grammar.rules.size).filter (· ∉ flattened)).erase id := by
    ext other
    simp only [Finset.mem_filter, Finset.mem_erase, List.mem_cons, not_or]
    tauto
  rw [pendingReferences, pendingReferences, rest]
  have member : id ∈ (Finset.range grammar.rules.size).filter (· ∉ flattened) :=
    Finset.mem_filter.mpr ⟨Finset.mem_range.mpr less, new⟩
  exact (Finset.add_sum_erase _ (fun id => (grammar.references id).length) member).symm

theorem flattenRules_cases {steps : Nat}
    (ok : grammar.flattenRules (steps + 1) (id :: todo) flattened before = .ok after) :
    id ∈ flattened ∧ grammar.flattenRules steps todo flattened before = .ok after ∨
      ∃ rule body bodies middle, id ∉ flattened ∧ grammar.get? id = some rule ∧
        rule.body = some body ∧
        expandBody grammar [[]] (before.number rule.name).2 body = .ok (bodies, middle) ∧
        grammar.flattenRules steps (bodyReferences body ++ todo) (id :: flattened)
          (middle.push rule.name bodies) = .ok after := by
  simp only [Grammar.flattenRules] at ok
  split at ok
  · rename_i done
    exact .inl ⟨done, ok⟩
  · rename_i new
    split at ok
    · cases ok
    · rename_i rule found
      split at ok
      · cases ok
      · rename_i body defined
        obtain ⟨⟨bodies, middle⟩, expands, last⟩ := exists_ok_of_bind ok
        exact .inr ⟨rule, body, bodies, middle, new, found, defined, expands, last⟩

theorem enough_flattenRule {steps : Nat} (new : id ∉ flattened)
    (found : grammar.get? id = some rule) (defined : rule.body = some body)
    (enough : (id :: todo).length + pendingReferences grammar flattened ≤ steps + 1) :
    (bodyReferences body ++ todo).length + pendingReferences grammar (id :: flattened) ≤ steps := by
  have references : grammar.references id = bodyReferences body := by
    rw [Grammar.references, Grammar.bodyOf?_eq_some_iff.mpr ⟨rule, found, defined⟩]
  have count := pendingReferences_cons (Array.getElem?_eq_some_iff.mp found).1 new
  rw [references] at count
  rw [List.length_cons] at enough
  rw [List.length_append]
  omega

theorem flattenRules_of_le {steps more : Nat}
    (enough : todo.length + pendingReferences grammar flattened ≤ steps) (le : steps ≤ more) :
    grammar.flattenRules more todo flattened before =
      grammar.flattenRules steps todo flattened before := by
  induction steps generalizing more todo flattened before with
  | zero =>
      obtain rfl : todo = [] := List.length_eq_zero_iff.mp (by omega)
      cases more <;> rfl
  | succ steps ih =>
      obtain ⟨more, rfl⟩ : ∃ fewer, more = fewer + 1 := ⟨more - 1, by omega⟩
      cases todo with
      | nil => rfl
      | cons id todo =>
          simp only [Grammar.flattenRules]
          split
          · rw [List.length_cons] at enough
            exact ih (by omega) (by omega)
          · rename_i new
            split
            · rfl
            · rename_i rule found
              split
              · rfl
              · rename_i body defined
                apply bind_congr
                rintro ⟨bodies, middle⟩
                exact ih (enough_flattenRule new found defined enough) (by omega)

theorem flattenRules_induction {motive : List RuleId → List RuleId → Expansion → Prop}
    (skip : ∀ id todo flattened expansion, id ∈ flattened →
      motive (id :: todo) flattened expansion → motive todo flattened expansion)
    (step : ∀ id todo flattened before rule body bodies after, id ∉ flattened →
      grammar.get? id = some rule → rule.body = some body →
      expandBody grammar [[]] (before.number rule.name).2 body = .ok (bodies, after) →
      motive (id :: todo) flattened before →
      motive (bodyReferences body ++ todo) (id :: flattened) (after.push rule.name bodies))
    {steps : Nat} (enough : todo.length + pendingReferences grammar flattened ≤ steps)
    (start : motive todo flattened before)
    (ok : grammar.flattenRules steps todo flattened before = .ok after) :
    ∃ all, motive [] all after := by
  induction steps generalizing todo flattened before with
  | zero =>
      cases ok
      obtain rfl : todo = [] := List.length_eq_zero_iff.mp (by omega)
      exact ⟨flattened, start⟩
  | succ steps ih =>
      cases todo with
      | nil =>
          cases ok
          exact ⟨flattened, start⟩
      | cons id todo =>
          rcases flattenRules_cases ok with ⟨done, last⟩ |
            ⟨rule, body, bodies, middle, new, found, defined, expands, last⟩
          · rw [List.length_cons] at enough
            exact ih (by omega) (skip id todo flattened before done start) last
          · exact ih (enough_flattenRule new found defined enough)
              (step id todo flattened before rule body bodies middle new found defined expands
                start) last

theorem Flattened.run (apart : grammar.NamesApart) {steps : Nat}
    (invariant : Flattened grammar start todo flattened before)
    (enough : todo.length + pendingReferences grammar flattened ≤ steps)
    (ok : grammar.flattenRules steps todo flattened before = .ok after) :
    ∃ all, Flattened grammar start [] all after ∧ (∀ id ∈ todo, id ∈ all) ∧
      (∀ id ∈ flattened, id ∈ all) ∧ before.Extends after := by
  obtain ⟨all, invariant, covered, kept, extension⟩ : ∃ all, Flattened grammar start [] all after ∧
      (∀ id ∈ todo, id ∈ [] ∨ id ∈ all) ∧ (∀ id ∈ flattened, id ∈ all) ∧
      before.Extends after := by
    refine flattenRules_induction (motive := fun later done expansion =>
      Flattened grammar start later done expansion ∧ (∀ id ∈ todo, id ∈ later ∨ id ∈ done) ∧
        (∀ id ∈ flattened, id ∈ done) ∧ before.Extends expansion) ?_ ?_ enough
      ⟨invariant, ?_, ?_, .refl before⟩ ok
    · rintro id later done expansion member ⟨invariant, covered, kept, extension⟩
      refine ⟨invariant.skip member, ?_, kept, extension⟩
      intro other listed
      rcases covered other listed with waiting | old
      · rcases List.mem_cons.mp waiting with rfl | waits
        · exact .inr member
        · exact .inl waits
      · exact .inr old
    · rintro id later done expansion rule body bodies middle new found defined expands
        ⟨invariant, covered, kept, extension⟩
      obtain ⟨invariant, further⟩ := invariant.flattenRule apart new found defined expands
      refine ⟨invariant, ?_, ?_, extension.trans further⟩
      · intro other listed
        rcases covered other listed with waiting | old
        · rcases List.mem_cons.mp waiting with rfl | waits
          · exact .inr List.mem_cons_self
          · exact .inl (List.mem_append_right _ waits)
        · exact .inr (List.mem_cons_of_mem _ old)
      · exact fun other listed => List.mem_cons_of_mem _ (kept other listed)
    · exact fun id listed => .inl listed
    · exact fun id listed => listed
  exact ⟨all, invariant, fun id listed => (covered id listed).resolve_left List.not_mem_nil, kept,
    extension⟩

/-! ### The flat grammar -/

def entries (expansion : Expansion) : List NonterminalEntry :=
  (expansion.names.toList.mapIdx fun position name =>
    { name, index := firstNonterminal + position : NonterminalEntry }) ++
  [{ name := Rule.startName, index := startNonterminal }]

def flat (expansion : Expansion) : FlatGrammar :=
  { productions := expansion.productions
    nonterminals := expansion.entries }

theorem names_entries (expansion : Expansion) :
    expansion.entries.map (·.name) = expansion.names.toList ++ [Rule.startName] := by
  rw [entries, List.map_append, List.map_singleton]
  congr 1
  apply List.ext_getElem?
  intro place
  simp [Function.comp_def]

theorem length_entries (expansion : Expansion) :
    expansion.entries.length = expansion.names.size + 1 := by
  rw [entries, List.length_append, List.length_mapIdx, Array.length_toList]
  rfl

theorem mem_entries {expansion : Expansion} {name : String} {number : Nat} :
    { name, index := number } ∈ expansion.entries ↔
      (∃ place, expansion.names[place]? = some name ∧ number = firstNonterminal + place) ∨
        name = Rule.startName ∧ number = startNonterminal := by
  rw [entries, List.mem_append, List.mem_singleton, NonterminalEntry.mk.injEq]
  apply or_congr_left
  simp only [List.mem_mapIdx, NonterminalEntry.mk.injEq, Array.length_toList,
    Array.getElem_toList]
  constructor
  · rintro ⟨place, less, rfl, rfl⟩
    exact ⟨place, Array.getElem?_eq_getElem less, rfl⟩
  · rintro ⟨place, found, rfl⟩
    obtain ⟨less, same⟩ := Array.getElem?_eq_some_iff.mp found
    exact ⟨place, less, same, rfl⟩

end Expansion

theorem nonterminalIndex?_eq_some_iff {entries : List NonterminalEntry}
    (nodup : (entries.map (·.name)).Nodup) {name : String} {number : Nat} :
    nonterminalIndex? entries name = some number ↔ { name, index := number } ∈ entries := by
  rw [nonterminalIndex?, Option.map_eq_some_iff]
  constructor
  · rintro ⟨entry, found, rfl⟩
    have same : entry.name = name := by simpa using List.find?_some found
    rw [← same]
    exact List.mem_of_find?_eq_some found
  · intro member
    cases found : entries.find? (·.name == name) with
    | none =>
        have differs := List.find?_eq_none.mp found _ member
        rw [beq_self_eq_true] at differs
        exact absurd rfl differs
    | some entry =>
        have named : entry.name = name := by simpa using List.find?_some found
        have same : entry = { name, index := number } :=
          List.inj_on_of_nodup_map nodup (List.mem_of_find?_eq_some found) member named
        exact ⟨entry, rfl, by rw [same]⟩

theorem nonterminalIndex?_reverse {entries : List NonterminalEntry}
    (nodup : (entries.map (·.name)).Nodup) (name : String) :
    nonterminalIndex? entries.reverse name = nonterminalIndex? entries name := by
  have reversed : (entries.reverse.map (·.name)).Nodup := by
    rw [List.map_reverse, List.nodup_reverse]
    exact nodup
  ext number
  rw [nonterminalIndex?_eq_some_iff reversed, nonterminalIndex?_eq_some_iff nodup,
    List.mem_reverse]

namespace Expansion

variable {grammar : Grammar} {start : Nat} {flattened : List RuleId} {id root : RuleId}
  {expansion : Expansion}

theorem Tidy.ne_startName (tidy : expansion.Tidy grammar) (apart : grammar.NamesApart)
    {name : String} (member : name ∈ expansion.names.toList) : name ≠ Rule.startName := by
  rintro rfl
  rcases tidy.named _ member with ⟨rule, listed, same⟩ | ⟨number, _, same⟩
  · have plain := apart.unreserved rule listed
    rw [same, isReserved_startName] at plain
    cases plain
  · exact startName_ne_repetitionName number same

theorem Tidy.exists_repetition (tidy : expansion.Tidy grammar) (apart : grammar.NamesApart)
    {name : String} (member : name ∈ expansion.names.toList)
    (marked : Rule.isRepetition name = true) :
    ∃ repetition < expansion.repetitions, name = repetitionName repetition := by
  refine (tidy.named name member).resolve_left ?_
  rintro ⟨rule, listed, same⟩
  have plain := apart.unreserved rule listed
  rw [same, Rule.isReserved, marked, Bool.or_true] at plain
  cases plain

theorem Tidy.nodup_entries (tidy : expansion.Tidy grammar) (apart : grammar.NamesApart) :
    (expansion.entries.map (·.name)).Nodup := by
  rw [names_entries]
  apply tidy.nodup.append (List.nodup_singleton _)
  intro name member last
  exact tidy.ne_startName apart member (List.mem_singleton.mp last)

theorem Tidy.nonterminalIndex?_eq_some_iff (tidy : expansion.Tidy grammar)
    (apart : grammar.NamesApart) {name : String} {number : Nat} :
    nonterminalIndex? expansion.flat.nonterminals name = some number ↔
      expansion.number? name = some number ∨
        name = Rule.startName ∧ number = startNonterminal := by
  apply (CanonicalLR.nonterminalIndex?_eq_some_iff (tidy.nodup_entries apart)).trans
  rw [number?_eq_some_iff tidy.nodup]
  exact mem_entries

theorem Flattened.augmented (invariant : Flattened grammar start [] flattened expansion)
    (apart : grammar.NamesApart) : expansion.flat.Augmented start := by
  refine ⟨invariant.first, ?_, nonterminalIndex?_reverse (invariant.tidy.nodup_entries apart)⟩
  intro index production found same
  -- Two productions of the start symbol would show among its bodies.
  have single := invariant.single
  have first := invariant.first
  rw [← Array.getElem?_toList] at first
  have listed : expansion.productions.toList[index]? = some production := by
    rw [Array.getElem?_toList]
    exact found
  unfold bodiesOf at single
  generalize expansion.productions.toList = productions at single first listed
  cases productions with
  | nil => cases first
  | cons head rest =>
      cases first
      rw [List.filter_cons_of_pos (by simp), List.map_cons, List.cons.injEq,
        List.map_eq_nil_iff, List.filter_eq_nil_iff] at single
      cases index with
      | zero => rfl
      | succ index =>
          have absent := single.2 production (List.mem_of_getElem? listed)
          rw [same] at absent
          simp at absent

theorem Flattened.startUnused (invariant : Flattened grammar start [] flattened expansion)
    (apart : grammar.NamesApart) (few : expansion.flat.nonterminals.length ≤ 90000) :
    expansion.flat.StartUnused := by
  have size : expansion.names.size < 90000 := by
    have length := length_entries expansion
    change expansion.entries.length ≤ 90000 at few
    omega
  intro production member number numbered occurs
  have less := invariant.tidy.numbers production member number occurs
  rw [(invariant.augmented apart).head,
    invariant.tidy.nonterminalIndex?_eq_some_iff apart] at numbered
  rcases numbered with given | ⟨_, rfl⟩
  · obtain ⟨place, found, _⟩ := (number?_eq_some_iff invariant.tidy.nodup).mp given
    exact invariant.tidy.ne_startName apart (Array.mem_of_getElem? found).val rfl
  · rw [startNonterminal, firstNonterminal] at less
    omega

theorem number?_injective (tidy : expansion.Tidy grammar) {name other : String} {number : Nat}
    (numbered : expansion.number? name = some number)
    (also : expansion.number? other = some number) : name = other := by
  obtain ⟨place, found, rfl⟩ := (number?_eq_some_iff tidy.nodup).mp numbered
  obtain ⟨_, foundOther, same⟩ := (number?_eq_some_iff tidy.nodup).mp also
  obtain rfl := Nat.add_left_cancel same
  rw [found] at foundOther
  exact Option.some.inj foundOther

theorem Flattened.hasProduction_iff (invariant : Flattened grammar start [] flattened expansion)
    (apart : grammar.NamesApart) (few : expansion.flat.nonterminals.length ≤ 90000) {name : String}
    {number : Nat} (numbered : expansion.number? name = some number) {production : Production} :
    expansion.flat.HasProduction number production ↔
      production.head = name ∧ production.body ∈ expansion.bodiesOf name := by
  have below : number < startNonterminal := by
    obtain ⟨place, found, rfl⟩ := (number?_eq_some_iff invariant.tidy.nodup).mp numbered
    have less := (Array.getElem?_eq_some_iff.mp found).1
    have length := length_entries expansion
    change expansion.entries.length ≤ 90000 at few
    rw [firstNonterminal, startNonterminal]
    omega
  rw [FlatGrammar.HasProduction, (invariant.augmented apart).head,
    invariant.tidy.nonterminalIndex?_eq_some_iff apart, mem_bodiesOf]
  constructor
  · rintro ⟨member, own | ⟨_, rfl⟩⟩
    · obtain rfl := number?_injective invariant.tidy own numbered
      exact ⟨rfl, member⟩
    · exact absurd below (Nat.lt_irrefl _)
  · rintro ⟨rfl, member⟩
    exact ⟨member, .inl numbered⟩

end Expansion

namespace Grammar
open Expansion

variable {grammar : Grammar} {root : RuleId} {flat : FlatGrammar}

theorem tidy_empty (grammar : Grammar) : ({} : Expansion).Tidy grammar :=
  ⟨List.nodup_nil, nofun, fun _ _ => rfl, fun _ member => absurd member (Array.not_mem_empty _)⟩

theorem flattened_start (apart : grammar.NamesApart) (root : RuleId) {expansion : Expansion}
    {start : Nat} (tidy : expansion.Tidy grammar) (empty : expansion.productions = #[])
    (unrepeated : expansion.repetitions = 0) (numbers : expansion.Numbers [.nonterminal start]) :
    Flattened grammar start [root] []
      (expansion.push Rule.startName [[.nonterminal start]]) := by
  have none (head : String) : expansion.bodiesOf head = [] := by
    rw [bodiesOf, empty]
    rfl
  have nothing {motive : RuleId → Prop} : ∀ id ∈ ([] : List RuleId), motive id :=
    fun _ member => absurd member List.not_mem_nil
  refine ⟨?_, ?_, ?_, nothing, nothing, ?_, unrepeated⟩
  · apply tidy.push fun number same => absurd same (startName_ne_repetitionName number)
    intro body member
    rw [List.mem_singleton.mp member]
    exact numbers
  · rw [Expansion.push, empty]
    rfl
  · rw [bodiesOf_push, if_pos rfl, none]
    rfl
  · intro id rule found _
    rw [bodiesOf_push, if_neg (ne_startName apart found).symm, none, List.append_nil]

theorem run_of_flatten (ok : (grammar.flatten root).1 = .ok flat) :
    (grammar.validate root).1 = .ok () ∧
      ∃ rule expansion, grammar.get? root = some rule ∧ flat = expansion.flat ∧
        grammar.flattenRules (grammar.referenceCount + 1) [root] [] (begun rule) =
          .ok expansion := by
  unfold flatten at ok
  split at ok
  · cases ok
  · rename_i valid
    split at ok
    · cases ok
    · rename_i expands
      cases ok
      refine ⟨by rw [valid], ?_⟩
      unfold Grammar.expand at expands
      split at expands
      · cases expands
      · rename_i rule found
        obtain ⟨expansion, runs, last⟩ := exists_ok_of_bind expands
        cases last
        exact ⟨rule, expansion, found, rfl, runs⟩

theorem flattened_begun (apart : grammar.NamesApart) {rule : Rule}
    (found : grammar.get? root = some rule) :
    ∃ start, Flattened grammar start [root] [] (begun rule) ∧
      (begun rule).number? rule.name = some start := by
  have known : (∃ other ∈ grammar.rules, other.name = rule.name) ∨
      ∃ number < ({} : Expansion).repetitions, rule.name = repetitionName number :=
    .inl ⟨rule, Array.mem_of_getElem? found, rfl⟩
  have numbered := number?_number {} rule.name
  have tidy := (tidy_empty grammar).number known
  exact ⟨_, flattened_start apart root tidy (productions_number {} rule.name)
    (repetitions_number {} rule.name) (numbers_nonterminal tidy numbered), numbered⟩

theorem flattened_of_run (apart : grammar.NamesApart) {rule : Rule} {expansion : Expansion}
    (found : grammar.get? root = some rule)
    (runs : grammar.flattenRules (grammar.referenceCount + 1) [root] [] (begun rule) =
      .ok expansion) :
    ∃ start all, Flattened grammar start [] all expansion ∧ root ∈ all ∧
      expansion.number? rule.name = some start := by
  obtain ⟨start, invariant, numbered⟩ := flattened_begun apart found
  obtain ⟨all, finished, covered, _, extension⟩ :=
    invariant.run apart (enough_root grammar root) runs
  exact ⟨start, all, finished, covered root List.mem_cons_self, extension.number? numbered⟩

theorem flattened_of_flatten (apart : grammar.NamesApart)
    (ok : (grammar.flatten root).1 = .ok flat) :
    ∃ expansion start all rule, flat = expansion.flat ∧
      Flattened grammar start [] all expansion ∧ root ∈ all ∧ grammar.get? root = some rule ∧
      expansion.number? rule.name = some start := by
  obtain ⟨_, rule, expansion, found, same, runs⟩ := run_of_flatten ok
  obtain ⟨start, all, invariant, rootIn, numbered⟩ := flattened_of_run apart found runs
  exact ⟨expansion, start, all, rule, same, invariant, rootIn, found, numbered⟩

def flatItemList : FlatGrammar :=
  { productions := #[⟨"S'", [.nonterminal 10000]⟩, ⟨"MANY_0", []⟩,
      ⟨"MANY_0", [.terminal 1, .terminal 0, .nonterminal 10001]⟩,
      ⟨"list", [.terminal 0, .nonterminal 10001]⟩]
    nonterminals := [⟨"list", 10000⟩, ⟨"MANY_0", 10001⟩, ⟨"S'", 99999⟩] }

theorem flatten_itemList : (itemList.flatten 0).1 = .ok flatItemList := by decide +kernel

end Grammar

end CanonicalLR
