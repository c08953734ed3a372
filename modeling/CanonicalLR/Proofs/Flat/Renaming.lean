import CanonicalLR.Proofs.Flat.Rules
import CanonicalLR.Proofs.Grammar.Validation
import Mathlib.Data.Set.Function

/-!
Flattening looks at no more of a grammar than the root reaches, and at handles only to follow them.
So when the rules that two roots reach correspond, the work on both goes the same way step by step,
and the flat grammars differ by the names of the rules.
-/

namespace CanonicalLR

/-! ### Other handles and other names -/

mutual

def Op.relabel (ids : RuleId → RuleId) : Op → Op
  | .consume terminal => .consume terminal
  | .option body => .option (relabelBody ids body)
  | .many body => .many (relabelBody ids body)
  | .choice alternatives => .choice (relabelChoice ids alternatives)
  | .subRule rule => .subRule (ids rule)
  | .group name members => .group name members

def relabelBody (ids : RuleId → RuleId) : List Op → List Op
  | [] => []
  | op :: rest => op.relabel ids :: relabelBody ids rest

def relabelChoice (ids : RuleId → RuleId) : List (List Op) → List (List Op)
  | [] => []
  | body :: rest => relabelBody ids body :: relabelChoice ids rest

end

mutual

theorem references_relabel (ids : RuleId → RuleId) :
    (op : Op) → (op.relabel ids).references = op.references.map ids
  | .consume _ | .group _ _ | .subRule _ => rfl
  | .option body | .many body => bodyReferences_relabel ids body
  | .choice alternatives => choiceReferences_relabel ids alternatives

theorem bodyReferences_relabel (ids : RuleId → RuleId) :
    (body : List Op) → bodyReferences (relabelBody ids body) = (bodyReferences body).map ids
  | [] => rfl
  | op :: rest => by
      rw [relabelBody, bodyReferences, bodyReferences, references_relabel ids op,
        bodyReferences_relabel ids rest, List.map_append]

theorem choiceReferences_relabel (ids : RuleId → RuleId) : (alternatives : List (List Op)) →
    choiceReferences (relabelChoice ids alternatives) = (choiceReferences alternatives).map ids
  | [] => rfl
  | body :: rest => by
      rw [relabelChoice, choiceReferences, choiceReferences, bodyReferences_relabel ids body,
        choiceReferences_relabel ids rest, List.map_append]

end

def Rule.newName (rename : String → String) (name : String) : String :=
  if isReserved name then name else rename name

def Production.renamed (names : String → String) (production : Production) : Production :=
  { production with head := names production.head }

/-- A flat grammar with its rules renamed. Bodies and numbers stay as they are. -/
def FlatGrammar.renamed (rename : String → String) (grammar : FlatGrammar) : FlatGrammar :=
  { productions := grammar.productions.map (Production.renamed (Rule.newName rename))
    nonterminals := grammar.nonterminals.map fun entry =>
      { entry with name := Rule.newName rename entry.name } }

theorem Rule.newName_of_reserved (rename : String → String) {name : String}
    (reserved : Rule.isReserved name = true) : Rule.newName rename name = name :=
  if_pos reserved

theorem Rule.newName_of_plain (rename : String → String) {name : String}
    (plain : Rule.isReserved name = false) : Rule.newName rename name = rename name := by
  rw [newName, plain, if_neg Bool.false_ne_true]

theorem FlatGrammar.renamed_id (grammar : FlatGrammar) : grammar.renamed id = grammar := by
  have same : Rule.newName id = id := by
    funext name
    rw [Rule.newName]
    split <;> rfl
  rw [renamed, same]
  exact congrArg₂ FlatGrammar.mk (Array.map_id _) (List.map_id _)

namespace Grammar

/-- The rules that a root reaches, and those that another one reaches in its grammar, are the same
but for their handles and names. The handles of different rules are different, and since that goes
for names as well, the new names of different rules are. -/
structure Corresponds (first second : Grammar) (root other : RuleId) (ids : RuleId → RuleId)
    (rename : String → String) : Prop where
  start : ids root = other
  injective : Set.InjOn ids {id | first.Reaches root id}
  rules : ∀ id rule, first.Reaches root id → first.get? id = some rule →
    second.get? (ids id) =
      some { name := rename rule.name, body := rule.body.map (relabelBody ids) }

def namesFrom (grammar : Grammar) (root : RuleId) : Set String :=
  {name | (∃ id rule, grammar.Reaches root id ∧ grammar.get? id = some rule ∧ rule.name = name) ∨
    ∃ number, repetitionName number = name}

variable {first second : Grammar} {root other : RuleId} {ids : RuleId → RuleId}
  {rename : String → String}

theorem Corresponds.injOn_newName (corresponds : first.Corresponds second root other ids rename)
    (apart : first.NamesApart) (apartOther : second.NamesApart) :
    Set.InjOn (Rule.newName rename) (first.namesFrom root) := by
  have ofRule {id : RuleId} {rule : Rule} (reached : first.Reaches root id)
      (found : first.get? id = some rule) : Rule.newName rename rule.name = rename rule.name ∧
        Rule.isReserved (rename rule.name) = false :=
    ⟨Rule.newName_of_plain rename (apart.unreserved_of_get? found),
      apartOther.unreserved_of_get? (corresponds.rules id rule reached found)⟩
  have ofRepetition (number : Nat) :
      Rule.newName rename (repetitionName number) = repetitionName number :=
    Rule.newName_of_reserved rename (isReserved_repetitionName number)
  rintro _ (⟨id, rule, reached, found, rfl⟩ | ⟨number, rfl⟩) _
    (⟨otherId, otherRule, reachedOther, foundOther, rfl⟩ | ⟨otherNumber, rfl⟩) same
  · rw [(ofRule reached found).1, (ofRule reachedOther foundOther).1] at same
    have sameId := apartOther.get?_unique (corresponds.rules id rule reached found)
      (corresponds.rules otherId otherRule reachedOther foundOther) same
    obtain rfl := corresponds.injective reached reachedOther sameId
    rw [found] at foundOther
    cases foundOther
    rfl
  · obtain ⟨renamed, plain⟩ := ofRule reached found
    rw [renamed, ofRepetition] at same
    rw [same, isReserved_repetitionName] at plain
    cases plain
  · obtain ⟨renamed, plain⟩ := ofRule reachedOther foundOther
    rw [renamed, ofRepetition] at same
    rw [← same, isReserved_repetitionName] at plain
    cases plain
  · rwa [ofRepetition, ofRepetition] at same

end Grammar

namespace Expansion
open Grammar

/-- Whether an expansion is another one with its names changed. -/
structure Mirrors (grammar : Grammar) (root : RuleId) (rename : String → String)
    (expansion image : Expansion) : Prop where
  known : ∀ name ∈ expansion.names.toList, name ∈ grammar.namesFrom root
  names : image.names.toList = expansion.names.toList.map (Rule.newName rename)
  productions : image.productions.toList =
    expansion.productions.toList.map (Production.renamed (Rule.newName rename))
  repetitions : image.repetitions = expansion.repetitions

theorem findIdx?_map_of_injOn {newName : String → String} {known : Set String}
    (injective : Set.InjOn newName known) {list : List String} {name : String}
    (within : ∀ other ∈ list, other ∈ known) (member : name ∈ known) :
    (list.map newName).findIdx? (· == newName name) = list.findIdx? (· == name) := by
  induction list with
  | nil => rfl
  | cons head rest ih =>
      obtain ⟨here, others⟩ := List.forall_mem_cons.mp within
      have same : (newName head == newName name) = (head == name) := by
        rw [Bool.eq_iff_iff, beq_iff_eq, beq_iff_eq, injective.eq_iff here member]
      rw [List.map_cons, List.findIdx?_cons, List.findIdx?_cons, ih others, same]

section Single

variable {grammar : Grammar} {root : RuleId} {rename : String → String}
  {expansion image : Expansion}

theorem Mirrors.number (mirrors : Mirrors grammar root rename expansion image)
    (injective : Set.InjOn (Rule.newName rename) (grammar.namesFrom root)) {name : String}
    (member : name ∈ grammar.namesFrom root) :
    (image.number (Rule.newName rename name)).1 = (expansion.number name).1 ∧
      Mirrors grammar root rename (expansion.number name).2
        (image.number (Rule.newName rename name)).2 := by
  have placed : image.places[Rule.newName rename name]? = expansion.places[name]? := by
    rw [image.placed, expansion.placed, mirrors.names,
      findIdx?_map_of_injOn injective mirrors.known member]
  have size : image.names.size = expansion.names.size := by
    rw [← Array.length_toList, mirrors.names, List.length_map, Array.length_toList]
  unfold Expansion.number
  rw [placed, size]
  cases expansion.places[name]? with
  | some place => exact ⟨rfl, mirrors⟩
  | none =>
      refine ⟨rfl, ?_, ?_, mirrors.productions, mirrors.repetitions⟩
      · intro other listed
        rw [names_addName, List.mem_append, List.mem_singleton] at listed
        rcases listed with old | rfl
        · exact mirrors.known other old
        · exact member
      · rw [names_addName, names_addName, mirrors.names, List.map_append, List.map_singleton]

theorem Mirrors.push (mirrors : Mirrors grammar root rename expansion image) (head : String)
    (bodies : List (List Symbol)) :
    Mirrors grammar root rename (expansion.push head bodies)
      (image.push (Rule.newName rename head) bodies) := by
  refine ⟨mirrors.known, mirrors.names, ?_, mirrors.repetitions⟩
  rw [Expansion.push, Expansion.push, Array.toList_append, Array.toList_append, List.map_append,
    mirrors.productions, List.map_map]
  rfl

end Single

/-! ### The work on corresponding rules -/

section Lockstep

variable {first second : Grammar} {root other : RuleId} {ids : RuleId → RuleId}
  {rename : String → String} {before after image : Expansion}

theorem Mirrors.number_rule (corresponds : first.Corresponds second root other ids rename)
    (apart : first.NamesApart) (apartOther : second.NamesApart)
    (mirrors : Mirrors first root rename before image) {id : RuleId} {rule : Rule}
    (reached : first.Reaches root id) (found : first.get? id = some rule) :
    (image.number (rename rule.name)).1 = (before.number rule.name).1 ∧
      Mirrors first root rename (before.number rule.name).2
        (image.number (rename rule.name)).2 := by
  rw [← Rule.newName_of_plain rename (apart.unreserved_of_get? found)]
  exact mirrors.number (corresponds.injOn_newName apart apartOther)
    (.inl ⟨id, rule, reached, found, rfl⟩)

theorem Mirrors.beginRepetition (corresponds : first.Corresponds second root other ids rename)
    (apart : first.NamesApart) (apartOther : second.NamesApart)
    (mirrors : Mirrors first root rename before image) :
    image.beginRepetition.1 = before.beginRepetition.1 ∧
      Mirrors first root rename before.beginRepetition.2 image.beginRepetition.2 := by
  have counted : Mirrors first root rename
      { before with repetitions := before.repetitions + 1 }
      { image with repetitions := image.repetitions + 1 } :=
    { mirrors with repetitions := congrArg (· + 1) mirrors.repetitions }
  have both := counted.number (corresponds.injOn_newName apart apartOther)
    (.inr ⟨before.repetitions, rfl⟩)
  rw [Rule.newName_of_reserved rename (isReserved_repetitionName _)] at both
  rw [Expansion.beginRepetition, Expansion.beginRepetition, mirrors.repetitions]
  rw [mirrors.repetitions] at both
  exact both

mutual

theorem expand_relabel (corresponds : first.Corresponds second root other ids rename)
    (apart : first.NamesApart) (apartOther : second.NamesApart) :
    (op : Op) → (∀ id ∈ op.references, first.Reaches root id) →
    {bodies result : List (List Symbol)} → {before after image : Expansion} →
    Mirrors first root rename before image →
    op.expand first bodies before = .ok (result, after) →
    ∃ later, (op.relabel ids).expand second bodies image = .ok (result, later) ∧
      Mirrors first root rename after later
  | .consume _, _, _, _, _, _, image, mirrors, ok
  | .group _ _, _, _, _, _, _, image, mirrors, ok => by
      cases ok
      exact ⟨image, rfl, mirrors⟩
  | .subRule id, reached, _, _, _, _, _, mirrors, ok => by
      have here := reached id List.mem_cons_self
      simp only [Op.expand] at ok
      split at ok
      · cases ok
      · rename_i rule found
        cases ok
        obtain ⟨same, numbered⟩ := mirrors.number_rule corresponds apart apartOther here found
        refine ⟨_, ?_, numbered⟩
        rw [Op.relabel, Op.expand, corresponds.rules id rule here found]
        simp only [same]
  | .option body, reached, _, _, _, _, _, mirrors, ok => by
      obtain ⟨⟨tails, middle⟩, expands, last⟩ := exists_ok_of_bind ok
      cases last
      obtain ⟨later, follows, mirrored⟩ :=
        expandBody_relabel corresponds apart apartOther body reached mirrors expands
      refine ⟨later, ?_, mirrored⟩
      rw [Op.relabel, Op.expand, follows]
      rfl
  | .choice alternatives, reached, _, _, _, _, _, mirrors, ok =>
      expandChoice_relabel corresponds apart apartOther alternatives reached mirrors ok
  | .many body, reached, _, _, before, _, _, mirrors, ok => by
      rw [expand_many] at ok
      obtain ⟨⟨rounds, middle⟩, expands, last⟩ := exists_ok_of_bind ok
      cases last
      obtain ⟨same, begun⟩ := mirrors.beginRepetition corresponds apart apartOther
      obtain ⟨later, follows, mirrored⟩ :=
        expandBody_relabel corresponds apart apartOther body reached begun expands
      have pushed := mirrored.push (repetitionName before.repetitions)
        ([] :: appendSymbol rounds (.nonterminal before.beginRepetition.1))
      rw [Rule.newName_of_reserved rename (isReserved_repetitionName _)] at pushed
      refine ⟨_, ?_, pushed⟩
      rw [Op.relabel, expand_many, follows, same, mirrors.repetitions]
      rfl

theorem expandBody_relabel (corresponds : first.Corresponds second root other ids rename)
    (apart : first.NamesApart) (apartOther : second.NamesApart) :
    (ops : List Op) → (∀ id ∈ bodyReferences ops, first.Reaches root id) →
    {bodies result : List (List Symbol)} → {before after image : Expansion} →
    Mirrors first root rename before image →
    expandBody first bodies before ops = .ok (result, after) →
    ∃ later, expandBody second bodies image (relabelBody ids ops) = .ok (result, later) ∧
      Mirrors first root rename after later
  | [], _, _, _, _, _, image, mirrors, ok => by
      cases ok
      exact ⟨image, rfl, mirrors⟩
  | op :: rest, reached, _, _, _, _, _, mirrors, ok => by
      obtain ⟨reachedOp, reachedRest⟩ := List.forall_mem_append.mp reached
      obtain ⟨⟨bodies, middle⟩, expands, last⟩ := exists_ok_of_bind ok
      obtain ⟨between, follows, mirrored⟩ :=
        expand_relabel corresponds apart apartOther op reachedOp mirrors expands
      obtain ⟨later, ends, mirroredLater⟩ :=
        expandBody_relabel corresponds apart apartOther rest reachedRest mirrored last
      refine ⟨later, ?_, mirroredLater⟩
      rw [relabelBody, expandBody, follows]
      exact ends

theorem expandChoice_relabel (corresponds : first.Corresponds second root other ids rename)
    (apart : first.NamesApart) (apartOther : second.NamesApart) :
    (alternatives : List (List Op)) →
    (∀ id ∈ choiceReferences alternatives, first.Reaches root id) →
    {bodies result : List (List Symbol)} → {before after image : Expansion} →
    Mirrors first root rename before image →
    expandChoice first bodies before alternatives = .ok (result, after) →
    ∃ later, expandChoice second bodies image (relabelChoice ids alternatives) =
      .ok (result, later) ∧ Mirrors first root rename after later
  | [], _, _, _, _, _, image, mirrors, ok => by
      cases ok
      exact ⟨image, rfl, mirrors⟩
  | alternative :: rest, reached, _, _, _, _, _, mirrors, ok => by
      obtain ⟨reachedHere, reachedRest⟩ := List.forall_mem_append.mp reached
      obtain ⟨⟨tails, middle⟩, expands, last⟩ := exists_ok_of_bind ok
      obtain ⟨⟨more, after⟩, expandsRest, last⟩ := exists_ok_of_bind last
      cases last
      obtain ⟨between, follows, mirrored⟩ :=
        expandBody_relabel corresponds apart apartOther alternative reachedHere mirrors expands
      obtain ⟨later, ends, mirroredLater⟩ :=
        expandChoice_relabel corresponds apart apartOther rest reachedRest mirrored expandsRest
      refine ⟨later, ?_, mirroredLater⟩
      rw [relabelChoice, expandChoice, follows]
      simp only [bind, Except.bind, ends]
      rfl

end

theorem Mirrors.flattenRule (corresponds : first.Corresponds second root other ids rename)
    (apart : first.NamesApart) (apartOther : second.NamesApart)
    (mirrors : Mirrors first root rename before image) {id : RuleId} {rule : Rule}
    (reached : first.Reaches root id) (found : first.get? id = some rule) {body : List Op}
    (defined : rule.body = some body) {bodies : List (List Symbol)}
    (expands : expandBody first [[]] (before.number rule.name).2 body = .ok (bodies, after)) :
    ∃ later, expandBody second [[]] (image.number (rename rule.name)).2 (relabelBody ids body) =
        .ok (bodies, later) ∧
      Mirrors first root rename (after.push rule.name bodies)
        (later.push (rename rule.name) bodies) := by
  have references := reached.of_mem_references
    (Grammar.bodyOf?_eq_some_iff.mpr ⟨rule, found, defined⟩)
  obtain ⟨_, numbered⟩ := mirrors.number_rule corresponds apart apartOther reached found
  obtain ⟨later, follows, mirrored⟩ :=
    expandBody_relabel corresponds apart apartOther body references numbered expands
  have pushed := mirrored.push rule.name bodies
  rw [Rule.newName_of_plain rename (apart.unreserved_of_get? found)] at pushed
  exact ⟨later, follows, pushed⟩

theorem flattenRules_relabel (corresponds : first.Corresponds second root other ids rename)
    (apart : first.NamesApart) (apartOther : second.NamesApart) {steps : Nat}
    {todo flattened : List RuleId} (reached : ∀ id ∈ todo, first.Reaches root id)
    (done : ∀ id ∈ flattened, first.Reaches root id)
    (mirrors : Mirrors first root rename before image)
    (ok : first.flattenRules steps todo flattened before = .ok after) :
    ∃ later, second.flattenRules steps (todo.map ids) (flattened.map ids) image = .ok later ∧
      Mirrors first root rename after later := by
  induction steps generalizing todo flattened before image with
  | zero =>
      cases ok
      exact ⟨image, rfl, mirrors⟩
  | succ steps ih =>
      cases todo with
      | nil =>
          cases ok
          exact ⟨image, rfl, mirrors⟩
      | cons id todo =>
          obtain ⟨here, others⟩ := List.forall_mem_cons.mp reached
          -- A handle stands among those worked off when its rule does, since no other rule has it.
          have same : ids id ∈ flattened.map ids ↔ id ∈ flattened := by
            refine ⟨fun member => ?_, List.mem_map_of_mem⟩
            obtain ⟨earlier, listed, equal⟩ := List.mem_map.mp member
            rwa [← corresponds.injective (done earlier listed) here equal]
          rw [List.map_cons, Grammar.flattenRules]
          simp only [same]
          rcases flattenRules_cases ok with ⟨listed, last⟩ |
            ⟨rule, body, bodies, middle, new, found, defined, expands, last⟩
          · rw [if_pos listed]
            exact ih others done mirrors last
          · have bodyOf := Grammar.bodyOf?_eq_some_iff.mpr ⟨rule, found, defined⟩
            obtain ⟨between, follows, mirrored⟩ :=
              mirrors.flattenRule corresponds apart apartOther here found defined expands
            obtain ⟨later, ends, mirroredLater⟩ :=
              ih (List.forall_mem_append.mpr ⟨here.of_mem_references bodyOf, others⟩)
                (List.forall_mem_cons.mpr ⟨here, done⟩) mirrored last
            refine ⟨later, ?_, mirroredLater⟩
            rw [List.map_append, ← bodyReferences_relabel] at ends
            rw [if_neg new]
            simp only [corresponds.rules id rule here found, defined, Option.map_some, follows]
            exact ends

end Lockstep

theorem mirrors_begun {first second : Grammar} {root other : RuleId} {ids : RuleId → RuleId}
    {rename : String → String} (corresponds : first.Corresponds second root other ids rename)
    (apart : first.NamesApart) (apartOther : second.NamesApart) {rule : Rule}
    (found : first.get? root = some rule) (body : Option (List Op)) :
    Mirrors first root rename (begun rule) (begun { name := rename rule.name, body }) := by
  have empty : Mirrors first root rename {} {} :=
    ⟨fun _ member => absurd member List.not_mem_nil, rfl, rfl, rfl⟩
  obtain ⟨same, numbered⟩ := empty.number_rule corresponds apart apartOther .refl found
  have pushed := numbered.push Rule.startName
    [[.nonterminal (({} : Expansion).number rule.name).1]]
  rw [Rule.newName_of_reserved rename isReserved_startName] at pushed
  have image : begun { name := rename rule.name, body } =
      (({} : Expansion).number (rename rule.name)).2.push Rule.startName
        [[.nonterminal (({} : Expansion).number rule.name).1]] := by
    rw [← same]
    rfl
  rw [image]
  exact pushed

theorem Mirrors.flat {grammar : Grammar} {root : RuleId} {rename : String → String}
    {expansion image : Expansion} (mirrors : Mirrors grammar root rename expansion image) :
    image.flat = expansion.flat.renamed rename := by
  have productions : image.productions =
      expansion.productions.map (Production.renamed (Rule.newName rename)) := by
    rw [← Array.toList_inj, mirrors.productions, Array.toList_map]
  have entries : image.entries = expansion.entries.map fun entry =>
      { entry with name := Rule.newName rename entry.name } := by
    rw [Expansion.entries, Expansion.entries, mirrors.names, List.map_append, List.map_singleton,
      Rule.newName_of_reserved rename isReserved_startName]
    congr 1
    apply List.ext_getElem?
    intro place
    simp [Function.comp_def]
  rw [Expansion.flat, productions, entries]
  rfl

end Expansion

namespace Grammar
open Expansion

variable {first second : Grammar} {root other : RuleId} {ids : RuleId → RuleId}
  {rename : String → String} {flat image : FlatGrammar}

theorem run_of_flatten_of_le (ok : (first.flatten root).1 = .ok flat) {steps : Nat}
    (le : first.referenceCount + 1 ≤ steps) :
    ∃ rule expansion, first.get? root = some rule ∧ flat = expansion.flat ∧
      first.flattenRules steps [root] [] (begun rule) = .ok expansion := by
  obtain ⟨_, rule, expansion, found, same, runs⟩ := run_of_flatten ok
  exact ⟨rule, expansion, found, same, by rw [flattenRules_of_le (enough_root first root) le, runs]⟩

theorem Corresponds.flatten (corresponds : first.Corresponds second root other ids rename)
    (apart : first.NamesApart) (apartOther : second.NamesApart)
    (ok : (first.flatten root).1 = .ok flat) (okOther : (second.flatten other).1 = .ok image) :
    image = flat.renamed rename := by
  obtain ⟨rule, expansion, found, rfl, runs⟩ := run_of_flatten_of_le ok
    (Nat.le_max_left _ (second.referenceCount + 1))
  obtain ⟨ruleOther, expansionOther, foundOther, rfl, runsOther⟩ := run_of_flatten_of_le okOther
    (Nat.le_max_right (first.referenceCount + 1) _)
  have renamed := corresponds.rules root rule .refl found
  rw [corresponds.start, foundOther, Option.some.injEq] at renamed
  have begins := mirrors_begun corresponds apart apartOther found
    (rule.body.map (relabelBody ids))
  obtain ⟨later, ends, mirrors⟩ := flattenRules_relabel corresponds apart apartOther
    (List.forall_mem_singleton.mpr .refl) (fun _ member => absurd member List.not_mem_nil)
    begins runs
  rw [List.map_singleton, List.map_nil, corresponds.start, ← renamed, runsOther] at ends
  cases ends
  exact mirrors.flat

/-- Where the rules that two roots reach correspond, the flat grammars differ by the names of the
rules alone. The order of declarations, and rules out of reach, make no difference. -/
theorem flatten_renamed (constructed : first.Constructed) (constructedOther : second.Constructed)
    (corresponds : first.Corresponds second root other ids rename)
    (ok : (first.flatten root).1 = .ok flat) (okOther : (second.flatten other).1 = .ok image) :
    image = flat.renamed rename ∧
      ((∀ id rule, first.Reaches root id → first.get? id = some rule →
        rename rule.name = rule.name) → image = flat) := by
  have apart := constructed.namesApart
  have apartOther := constructedOther.namesApart
  refine ⟨corresponds.flatten apart apartOther ok okOther, fun kept => ?_⟩
  have unnamed : first.Corresponds second root other ids id :=
    { corresponds with
      rules := by
        intro id rule reached found
        rw [corresponds.rules id rule reached found, kept id rule reached found]
        rfl }
  rw [unnamed.flatten apart apartOther ok okOther, FlatGrammar.renamed_id]

def listOfItems : Grammar :=
  ⟨#[{ name := "list", body := some [.subRule 1, .many [.consume 1, .subRule 1]] },
    { name := "item", body := some [.consume 0] }]⟩

def rowOfCells : Grammar :=
  ⟨#[{ name := "spare", body := some [.consume 7] }, { name := "cell", body := some [.consume 0] },
    { name := "row", body := some [.subRule 1, .many [.consume 1, .subRule 1]] }]⟩

def flatListOfItems : FlatGrammar :=
  { productions := #[⟨"S'", [.nonterminal 10000]⟩, ⟨"MANY_0", []⟩,
      ⟨"MANY_0", [.terminal 1, .nonterminal 10001, .nonterminal 10002]⟩,
      ⟨"list", [.nonterminal 10001, .nonterminal 10002]⟩, ⟨"item", [.terminal 0]⟩]
    nonterminals := [⟨"list", 10000⟩, ⟨"item", 10001⟩, ⟨"MANY_0", 10002⟩, ⟨"S'", 99999⟩] }

def flatRowOfCells : FlatGrammar :=
  { productions := #[⟨"S'", [.nonterminal 10000]⟩, ⟨"MANY_0", []⟩,
      ⟨"MANY_0", [.terminal 1, .nonterminal 10001, .nonterminal 10002]⟩,
      ⟨"row", [.nonterminal 10001, .nonterminal 10002]⟩, ⟨"cell", [.terminal 0]⟩]
    nonterminals := [⟨"row", 10000⟩, ⟨"cell", 10001⟩, ⟨"MANY_0", 10002⟩, ⟨"S'", 99999⟩] }

theorem constructed_listOfItems : listOfItems.Constructed := by
  have listAdded : ({} : Grammar).rule "list" [.subRule 1, .many [.consume 1, .subRule 1]] =
      .ok (0, ⟨listOfItems.rules.pop⟩) := rfl
  have itemAdded : (⟨listOfItems.rules.pop⟩ : Grammar).rule "item" [.consume 0] =
      .ok (1, listOfItems) := rfl
  exact (Constructed.empty.rule listAdded).rule itemAdded

theorem constructed_rowOfCells : rowOfCells.Constructed := by
  have spareAdded : ({} : Grammar).rule "spare" [.consume 7] =
      .ok (0, ⟨rowOfCells.rules.pop.pop⟩) := rfl
  have cellAdded : (⟨rowOfCells.rules.pop.pop⟩ : Grammar).rule "cell" [.consume 0] =
      .ok (1, ⟨rowOfCells.rules.pop⟩) := rfl
  have rowAdded : (⟨rowOfCells.rules.pop⟩ : Grammar).rule "row"
      [.subRule 1, .many [.consume 1, .subRule 1]] = .ok (2, rowOfCells) := rfl
  exact ((Constructed.empty.rule spareAdded).rule cellAdded).rule rowAdded

def rowNames (name : String) : String :=
  if name = "list" then "row" else "cell"

theorem corresponds_rowOfCells :
    listOfItems.Corresponds rowOfCells 0 2 (Equiv.swap 0 2) rowNames := by
  refine ⟨rfl, (Equiv.swap 0 2).injective.injOn, fun id rule _ found => ?_⟩
  match id with
  | 0 => cases found; rfl
  | 1 => cases found; rfl

theorem flatten_renamed_rowOfCells :
    listOfItems.Constructed ∧ rowOfCells.Constructed ∧
      listOfItems.Corresponds rowOfCells 0 2 (Equiv.swap 0 2) rowNames ∧
      (listOfItems.flatten 0).1 = .ok flatListOfItems ∧
      (rowOfCells.flatten 2).1 = .ok flatRowOfCells ∧
      flatRowOfCells = flatListOfItems.renamed rowNames :=
  have flattened : (listOfItems.flatten 0).1 = .ok flatListOfItems := by decide +kernel
  have flattenedOther : (rowOfCells.flatten 2).1 = .ok flatRowOfCells := by decide +kernel
  ⟨constructed_listOfItems, constructed_rowOfCells, corresponds_rowOfCells, flattened,
    flattenedOther, (flatten_renamed constructed_listOfItems constructed_rowOfCells
      corresponds_rowOfCells flattened flattenedOther).1⟩

end Grammar

end CanonicalLR
