import CanonicalLR.Proofs.Derivation.Cycles
import CanonicalLR.Proofs.Flat.Reachable
import CanonicalLR.Proofs.Flat.Sources

/-!
Flattened grammars have no cycles. What remains of operations when all else stands for nothing is a
rule that they narrow to or a repetition written in them. So a passage from number to number either
takes a rule to one that it becomes, or goes further inside a body: a cycle of the flat grammar comes
to a unit cycle of rules, which validation finds.
-/

namespace CanonicalLR

theorem Grammar.refers_iff_reaches {grammar : Grammar} {root id : RuleId} :
    grammar.Refers root id ↔ grammar.Reaches root id := by
  simp only [Refers, mem_references_iff]
  rfl

namespace Expansion
open FlatGrammar

variable {grammar : Grammar} {root id : RuleId} {start number other : Nat} {all : List RuleId}
  {expansion : Expansion} {op : Op} {ops rest body inner : List Op} {symbols : List Symbol}
  {language first tails : Language Symbol}

/-! ### What remains of operations -/

/-- A number that can remain of operations, as that of a rule or of a repetition. -/
inductive Remains (grammar : Grammar) (expansion : Expansion) (ops : List Op) (number : Nat) :
    Prop where
  | rule {id : RuleId} {rule : Rule} (found : grammar.get? id = some rule)
      (numbered : expansion.number? rule.name = some number) (narrows : grammar.Narrows ops id)
  | many {repetition : Nat} {inner : List Op}
      (numbered : expansion.number? (repetitionName repetition) = some number)
      (repeats : expansion.Repeats grammar repetition inner) (written : Written (.many inner) ops)
      (narrows : ∀ id, grammar.Narrows inner id → grammar.Narrows ops id)

theorem Remains.lift {more : List Op} (remains : Remains grammar expansion ops number)
    (written : ∀ inner, Written (.many inner) ops → Written (.many inner) more)
    (narrows : ∀ id, grammar.Narrows ops id → grammar.Narrows more id) :
    Remains grammar expansion more number := by
  cases remains with
  | rule found numbered here => exact .rule found numbered (narrows _ here)
  | many numbered repeats inside through =>
      exact .many numbered repeats (written _ inside) fun id inner => narrows id (through id inner)

theorem Remains.head (remains : Remains grammar expansion [op] number)
    (nothing : grammar.Matches rest []) : Remains grammar expansion (op :: rest) number :=
  remains.lift (fun _ written => written.mono (List.cons_subset_cons op (List.nil_subset rest)))
    fun _ narrows => Grammar.narrows_cons.mpr (.inl ⟨narrows, nothing⟩)

theorem Remains.tail (nothing : grammar.Matches [op] [])
    (remains : Remains grammar expansion rest number) :
    Remains grammar expansion (op :: rest) number :=
  remains.lift (fun _ written => written.mono (List.subset_cons_self op rest))
    fun _ narrows => Grammar.narrows_cons.mpr (.inr ⟨nothing, narrows⟩)

theorem Remains.moreAlternatives {more : List (List Op)}
    (remains : Remains grammar expansion (.choice more :: rest) number) :
    Remains grammar expansion (.choice (body :: more) :: rest) number := by
  apply remains.lift
  · intro inner written
    cases written with
    | here member =>
        rcases List.mem_cons.mp member with same | later
        · cases same
        · exact .here (List.mem_cons_of_mem _ later)
    | inside member encloses deeper =>
        rcases List.mem_cons.mp member with rfl | later
        · cases encloses with
          | choice listed =>
              exact .inside List.mem_cons_self (.choice (List.mem_cons_of_mem _ listed)) deeper
        · exact .inside (List.mem_cons_of_mem _ later) encloses deeper
  · intro id narrows
    rcases Grammar.narrows_cons.mp narrows with ⟨here, nothing⟩ | ⟨nothing, later⟩
    · obtain ⟨alternative, listed, narrows⟩ := Grammar.narrows_choice.mp here
      exact Grammar.narrows_cons.mpr (.inl ⟨Grammar.narrows_choice.mpr
        ⟨alternative, List.mem_cons_of_mem _ listed, narrows⟩, nothing⟩)
    · refine Grammar.narrows_cons.mpr (.inr ⟨?_, later⟩)
      generalize ([] : List Terminal) = word at nothing ⊢
      cases nothing with
      | choice listed inner tail => exact .choice (List.mem_cons_of_mem _ listed) inner tail

theorem Remains.inside {encloser : Op} (encloses : encloser.Encloses inner)
    (remains : Remains grammar expansion inner number)
    (narrows : ∀ id, grammar.Narrows inner id → grammar.Narrows [encloser] id) :
    Remains grammar expansion [encloser] number :=
  remains.lift (fun _ written => encloses.written written) narrows

theorem Remains.of_mul {flat : FlatGrammar} (member : symbols ∈ first * tails)
    (leaves : flat.Leaves (· = .nonterminal number) symbols)
    (nothing : ∀ front ∈ first, flat.Vanishes front → grammar.Matches [op] [])
    (nothingMore : ∀ back ∈ tails, flat.Vanishes back → grammar.Matches rest [])
    (here : ∀ front ∈ first, flat.Leaves (· = .nonterminal number) front →
      Remains grammar expansion [op] number)
    (later : ∀ back ∈ tails, flat.Leaves (· = .nonterminal number) back →
      Remains grammar expansion rest number) : Remains grammar expansion (op :: rest) number := by
  obtain ⟨front, inFirst, back, inTails, rfl⟩ := Language.mem_mul.mp member
  rcases oneStays_append.mp leaves with ⟨leavesFront, fades⟩ | ⟨fades, leavesBack⟩
  · exact (here front inFirst leavesFront).head
      (nothingMore back inTails (vanishes_iff_forall.mpr fades))
  · exact (later back inTails leavesBack).tail
      (nothing front inFirst (vanishes_iff_forall.mpr fades))

section Flattened

variable (invariant : Flattened grammar start [] all expansion) (apart : grammar.NamesApart)
  (few : expansion.flat.nonterminals.length ≤ 90000)
include invariant apart few

theorem Compiled.matches_of_vanishes (compiled : expansion.Compiled grammar ops language)
    (covered : ∀ id ∈ bodyReferences ops, id ∈ all) (member : symbols ∈ language)
    (vanishes : expansion.flat.Vanishes symbols) : grammar.Matches ops [] := by
  obtain ⟨trees, derives, nothing⟩ := vanishes
  have reads := reads_of_derives invariant apart few derives
  rw [spelled, nothing] at reads
  exact compiled.matches invariant covered member reads

theorem Compiled.matches_head (compiled : expansion.Compiled grammar [op] (first * 1))
    (covered : ∀ id ∈ op.references, id ∈ all) :
    ∀ front ∈ first, expansion.flat.Vanishes front → grammar.Matches [op] [] := by
  intro front member
  rw [← mul_one first] at member
  apply compiled.matches_of_vanishes invariant apart few _ member
  simpa [bodyReferences] using covered

theorem Compiled.remains (compiled : expansion.Compiled grammar ops language)
    (covered : ∀ id ∈ bodyReferences ops, id ∈ all) (member : symbols ∈ language)
    (leaves : expansion.flat.Leaves (· = .nonterminal number) symbols) :
    Remains grammar expansion ops number := by
  induction compiled generalizing symbols with
  | nil =>
      obtain rfl := (Language.mem_one _).mp member
      exact absurd leaves not_oneStays_nil
  | consume terminal tail ih =>
      apply Remains.of_mul member leaves
      · exact (Compiled.consume terminal .nil).matches_head invariant apart few nofun
      · exact fun _ => tail.matches_of_vanishes invariant apart few covered
      · rintro _ rfl left
        cases oneStays_singleton.mp left
      · exact fun _ => ih covered
  | subRule found numbered tail ih =>
      obtain ⟨coveredOp, coveredRest⟩ := List.forall_mem_append.mp covered
      apply Remains.of_mul member leaves
      · exact (Compiled.subRule found numbered .nil).matches_head invariant apart few coveredOp
      · exact fun _ => tail.matches_of_vanishes invariant apart few coveredRest
      · rintro _ rfl left
        cases oneStays_singleton.mp left
        exact .rule found numbered (Grammar.narrows_subRule.mpr rfl)
      · exact fun _ => ih coveredRest
  | option inner tail ihInner ihTail =>
      obtain ⟨coveredOp, coveredRest⟩ := List.forall_mem_append.mp covered
      apply Remains.of_mul member leaves
      · exact (Compiled.option inner .nil).matches_head invariant apart few coveredOp
      · exact fun _ => tail.matches_of_vanishes invariant apart few coveredRest
      · intro front inFirst left
        rcases (Language.mem_add _ _ _).mp inFirst with one | inInner
        · obtain rfl := (Language.mem_one _).mp one
          exact absurd left not_oneStays_nil
        · exact (ihInner coveredOp inInner left).inside (.option _)
            fun _ => Grammar.narrows_option.mpr
      · exact fun _ => ihTail coveredRest
  | choiceNil rest => exact absurd member (Language.notMem_zero _)
  | @choiceCons alternative rest more inners tails others inner tail _ ihInner ihTail ihLater =>
      obtain ⟨coveredOp, coveredRest⟩ := List.forall_mem_append.mp covered
      obtain ⟨coveredHere, coveredMore⟩ := List.forall_mem_append.mp coveredOp
      rcases (Language.mem_add _ _ _).mp member with here | there
      · apply Remains.of_mul here leaves
        · intro front inFirst vanishes
          have matched := inner.matches_of_vanishes invariant apart few coveredHere inFirst vanishes
          exact .choice List.mem_cons_self matched .nil
        · exact fun _ => tail.matches_of_vanishes invariant apart few coveredRest
        · intro front inFirst left
          exact (ihInner coveredHere inFirst left).inside (.choice List.mem_cons_self)
            fun _ narrows => Grammar.narrows_choice.mpr ⟨_, List.mem_cons_self, narrows⟩
        · exact fun _ => ihTail coveredRest
      · apply (ihLater _ there leaves).moreAlternatives
        exact List.forall_mem_append.mpr ⟨coveredMore, coveredRest⟩
  | group name members tail ih =>
      apply Remains.of_mul member leaves
      · exact (Compiled.group name members .nil).matches_head invariant apart few nofun
      · exact fun _ => tail.matches_of_vanishes invariant apart few covered
      · intro front inFirst left
        obtain ⟨terminal, _, rfl⟩ := List.mem_map.mp inFirst
        cases oneStays_singleton.mp left
      · exact fun _ => ih covered
  | many numbered bodies inner tail _ ih =>
      obtain ⟨coveredOp, coveredRest⟩ := List.forall_mem_append.mp covered
      apply Remains.of_mul member leaves
      · exact (Compiled.many numbered bodies inner .nil).matches_head invariant apart few coveredOp
      · exact fun _ => tail.matches_of_vanishes invariant apart few coveredRest
      · rintro _ rfl left
        cases oneStays_singleton.mp left
        exact .many numbered ⟨_, _, numbered, bodies, inner⟩ (.here List.mem_cons_self)
          fun _ => Grammar.narrows_many.mpr
      · exact fun _ => ih coveredRest

end Flattened

/-! ### Passages between numbers -/

/-- What is known of the expansion that flattening a valid grammar ends with. -/
structure Finished (grammar : Grammar) (root : RuleId) (expansion : Expansion) (start : Nat)
    (all left : List RuleId) : Prop where
  apart : grammar.NamesApart
  few : expansion.flat.nonterminals.length ≤ 90000
  valid : ∀ id, grammar.Reaches root id → ∀ defect, ¬ grammar.Shows id defect
  invariant : Flattened grammar start [] all expansion
  rootIn : root ∈ all
  sourced : Sourced grammar root left expansion

inductive InReach (grammar : Grammar) (root : RuleId) (ops : List Op) : Prop where
  | body {id : RuleId} (reached : grammar.Reaches root id)
      (defined : grammar.bodyOf? id = some ops)
  | inner (repeated : grammar.Repeated root ops)

theorem InReach.reaches (inReach : InReach grammar root ops) (written : Written (.subRule id) ops) :
    grammar.Reaches root id := by
  cases inReach with
  | body reached defined => exact reached.tail ⟨ops, defined, written⟩
  | inner repeated =>
      obtain ⟨_, body, reached, defined, around⟩ := repeated
      exact reached.tail ⟨body, defined, around.trans (.many ops) written⟩

theorem InReach.repeated (inReach : InReach grammar root ops)
    (written : Written (.many inner) ops) : grammar.Repeated root inner := by
  cases inReach with
  | body reached defined => exact ⟨_, ops, reached, defined, written⟩
  | inner repeated =>
      obtain ⟨id, body, reached, defined, around⟩ := repeated
      exact ⟨id, body, reached, defined, around.trans (.many ops) written⟩

def IsRule (grammar : Grammar) (root : RuleId) (expansion : Expansion) (number : Nat)
    (id : RuleId) : Prop :=
  grammar.Reaches root id ∧
    ∃ rule, grammar.get? id = some rule ∧ expansion.number? rule.name = some number

def IsRepetition (grammar : Grammar) (root : RuleId) (expansion : Expansion) (number : Nat)
    (inner : List Op) : Prop :=
  grammar.Repeated root inner ∧
    ∃ repetition, expansion.number? (repetitionName repetition) = some number ∧
      expansion.Repeats grammar repetition inner

/-- The operations that a number is for: the body of a rule, or what is repeated. -/
inductive Owns (grammar : Grammar) (root : RuleId) (expansion : Expansion) (number : Nat)
    (ops : List Op) : Prop where
  | rule {id : RuleId} (isRule : IsRule grammar root expansion number id)
      (defined : grammar.bodyOf? id = some ops)
  | repetition (isRepetition : IsRepetition grammar root expansion number ops)

theorem Owns.inReach (owns : Owns grammar root expansion number ops) :
    InReach grammar root ops := by
  cases owns with
  | rule isRule defined => exact .body isRule.1 defined
  | repetition isRepetition => exact .inner isRepetition.1

section Finished

variable {left : List RuleId} (finished : Finished grammar root expansion start all left)
include finished

theorem Finished.covered (inReach : InReach grammar root ops) :
    ∀ id ∈ bodyReferences ops, id ∈ all := by
  intro id refers
  have reached := inReach.reaches (mem_bodyReferences_iff.mp refers)
  exact finished.invariant.mem_of_refers finished.rootIn (Grammar.refers_iff_reaches.mpr reached)

theorem Finished.exists_body (isRule : IsRule grammar root expansion number id) :
    ∃ body, grammar.bodyOf? id = some body ∧ Owns grammar root expansion number body := by
  cases defined : grammar.bodyOf? id with
  | none => exact absurd defined (finished.valid id isRule.1 .undefined)
  | some body => exact ⟨body, rfl, .rule isRule defined⟩

theorem Finished.isRule_unique (isRule : IsRule grammar root expansion number id) {other : RuleId}
    (also : IsRule grammar root expansion number other) : id = other := by
  obtain ⟨_, rule, found, numbered⟩ := isRule
  obtain ⟨_, rule', found', numbered'⟩ := also
  exact finished.apart.get?_unique found found'
    (number?_injective finished.invariant.tidy numbered numbered')

theorem Finished.not_isRepetition (isRule : IsRule grammar root expansion number id) :
    ¬ IsRepetition grammar root expansion number inner := by
  rintro ⟨_, repetition, numbered, _⟩
  obtain ⟨_, rule, found, numberedRule⟩ := isRule
  exact ne_repetitionName finished.apart found repetition
    (number?_injective finished.invariant.tidy numberedRule numbered)

theorem Finished.not_vanishes (repeated : grammar.Repeated root inner)
    (compiled : expansion.Compiled grammar inner language) (member : symbols ∈ language) :
    ¬ expansion.flat.Vanishes symbols := by
  intro vanishes
  have covered := finished.covered (.inner repeated)
  obtain ⟨id, body, reached, defined, written⟩ := repeated
  refine finished.valid id reached .idleRepetition ⟨body, defined, inner, written, ?_⟩
  exact compiled.matches_of_vanishes finished.invariant finished.apart finished.few covered member
    vanishes

theorem Finished.mem_rounds (isRepetition : IsRepetition grammar root expansion number inner)
    {production : Production} (produces : expansion.flat.HasProduction number production) :
    ∃ rounds, expansion.Compiled grammar inner rounds ∧
      production.body ∈ 1 + rounds * {[.nonterminal number]} := by
  obtain ⟨_, repetition, numbered, own, rounds, numberedOwn, bodies, compiled⟩ := isRepetition
  rw [numbered] at numberedOwn
  cases numberedOwn
  refine ⟨rounds, compiled, ?_⟩
  rw [← bodies]
  exact ((finished.invariant.hasProduction_iff finished.apart finished.few numbered).mp produces).2

theorem Finished.remains (owns : Owns grammar root expansion number ops)
    (passes : expansion.flat.Passes number other) : Remains grammar expansion ops other := by
  have covered := finished.covered owns.inReach
  obtain ⟨production, produces, leaves⟩ := passes
  cases owns with
  | @rule id isRule defined =>
      obtain ⟨reached, rule, found, numbered⟩ := isRule
      have member := finished.invariant.mem_of_refers finished.rootIn
        (Grammar.refers_iff_reaches.mpr reached)
      obtain ⟨body, bodyOf, compiled, _⟩ := finished.invariant.compiled member found
      rw [defined] at bodyOf
      cases bodyOf
      have listed := (finished.invariant.hasProduction_iff finished.apart finished.few
        numbered).mp produces
      exact compiled.remains finished.invariant finished.apart finished.few covered listed.2 leaves
  | repetition isRepetition =>
      obtain ⟨rounds, compiled, member⟩ := finished.mem_rounds isRepetition produces
      rcases (Language.mem_add _ _ _).mp member with one | round
      · rw [(Language.mem_one _).mp one] at leaves
        exact absurd leaves not_oneStays_nil
      · -- A round does not vanish, so it is never the number behind it that is left.
        obtain ⟨front, inRounds, _, rfl, same⟩ := Language.mem_mul.mp round
        rw [← same] at leaves
        rcases oneStays_append.mp leaves with ⟨left, _⟩ | ⟨fades, _⟩
        · exact compiled.remains finished.invariant finished.apart finished.few covered inRounds left
        · exact absurd (vanishes_iff_forall.mpr fades)
            (finished.not_vanishes isRepetition.1 compiled inRounds)

theorem Finished.step (owns : Owns grammar root expansion number ops)
    (passes : expansion.flat.Passes number other) :
    (∃ id, IsRule grammar root expansion other id ∧ grammar.Narrows ops id) ∨
      ∃ inner, IsRepetition grammar root expansion other inner ∧ sizeOf inner < sizeOf ops ∧
        ∀ id, grammar.Narrows inner id → grammar.Narrows ops id := by
  cases finished.remains owns passes with
  | rule found numbered narrows =>
      have ⟨row, unfolds, single⟩ := narrows
      obtain ⟨_, member, rfl⟩ := single.exists_mem
      have reached := owns.inReach.reaches (Grammar.written_of_unfolds unfolds member)
      exact .inl ⟨_, ⟨reached, _, found, numbered⟩, narrows⟩
  | many numbered repeats written narrows =>
      refine .inr ⟨_, ⟨owns.inReach.repeated written, _, numbered, repeats⟩, ?_, narrows⟩
      have less := written.sizeOf_lt
      rw [Op.many.sizeOf_spec] at less
      omega

/-! ### Cycles -/

theorem Finished.exists_narrows (owns : Owns grammar root expansion number ops)
    (path : Relation.TransGen expansion.flat.Passes number other)
    (isRule : IsRule grammar root expansion other id) :
    ∃ first, grammar.Narrows ops first ∧ Relation.ReflTransGen grammar.Becomes first id := by
  induction path using Relation.TransGen.head_induction_on generalizing ops with
  | single passes =>
      rcases finished.step owns passes with ⟨first, isFirst, narrows⟩ | ⟨_, isRepetition, _⟩
      · cases finished.isRule_unique isFirst isRule
        exact ⟨_, narrows, .refl⟩
      · exact absurd isRepetition (finished.not_isRepetition isRule)
  | head passes _ ih =>
      rcases finished.step owns passes with ⟨first, isFirst, narrows⟩ | ⟨_, isRepetition, _, through⟩
      · obtain ⟨body, defined, ownsBody⟩ := finished.exists_body isFirst
        obtain ⟨second, narrowsBody, becomes⟩ := ih ownsBody
        exact ⟨first, narrows, becomes.head ⟨body, defined, narrowsBody⟩⟩
      · obtain ⟨first, narrows, becomes⟩ := ih (.repetition isRepetition)
        exact ⟨first, through first narrows, becomes⟩

theorem Finished.not_cycle_of_isRule (isRule : IsRule grammar root expansion number id) :
    ¬ Relation.TransGen expansion.flat.Passes number number := by
  intro cycle
  obtain ⟨body, defined, owns⟩ := finished.exists_body isRule
  obtain ⟨first, narrows, becomes⟩ := finished.exists_narrows owns cycle isRule
  have unitCycle : Relation.TransGen grammar.Becomes id id :=
    Relation.TransGen.head'_iff.mpr ⟨first, ⟨body, defined, narrows⟩, becomes⟩
  exact finished.valid id isRule.1 .unitCycle unitCycle

theorem Finished.meets_rule_or_deeper (owns : Owns grammar root expansion number ops)
    (path : Relation.TransGen expansion.flat.Passes number other) :
    (∃ met id, IsRule grammar root expansion met id ∧
      Relation.TransGen expansion.flat.Passes number met ∧
        Relation.ReflTransGen expansion.flat.Passes met other) ∨
      ∃ inner, IsRepetition grammar root expansion other inner ∧ sizeOf inner < sizeOf ops := by
  induction path using Relation.TransGen.head_induction_on generalizing ops with
  | single passes =>
      rcases finished.step owns passes with ⟨id, isRule, _⟩ | ⟨inner, isRepetition, less, _⟩
      · exact .inl ⟨_, id, isRule, .single passes, .refl⟩
      · exact .inr ⟨inner, isRepetition, less⟩
  | head passes rest ih =>
      rcases finished.step owns passes with ⟨id, isRule, _⟩ | ⟨inner, isRepetition, less, _⟩
      · exact .inl ⟨_, id, isRule, .single passes, rest.to_reflTransGen⟩
      · rcases ih (.repetition isRepetition) with
          ⟨met, id, isRule, there, back⟩ | ⟨deeper, found, lesser⟩
        · exact .inl ⟨met, id, isRule, there.head passes, back⟩
        · exact .inr ⟨deeper, found, lesser.trans less⟩

theorem Finished.not_cycle {ops : List Op} (owns : Owns grammar root expansion number ops) :
    ¬ Relation.TransGen expansion.flat.Passes number number := by
  intro cycle
  rcases finished.meets_rule_or_deeper owns cycle with
    ⟨met, id, isRule, there, back⟩ | ⟨inner, isRepetition, less⟩
  -- A cycle through a rule is one that begins at the rule. Any other comes back to operations that
  -- are smaller than those it began with.
  · exact finished.not_cycle_of_isRule isRule (Relation.TransGen.trans_right back there)
  · exact Finished.not_cycle (.repetition isRepetition) cycle
termination_by sizeOf ops

theorem Finished.number?_head {production : Production}
    (produces : expansion.flat.HasProduction number production)
    (unlike : production.head ≠ Rule.startName) :
    expansion.number? production.head = some number := by
  have owner := produces.2
  rw [(finished.invariant.augmented finished.apart).head,
    finished.invariant.tidy.nonterminalIndex?_eq_some_iff finished.apart] at owner
  exact owner.resolve_right fun same => unlike same.1

theorem Finished.isRepetition {production : Production}
    (produces : expansion.flat.HasProduction number production) {repetition : Nat}
    (less : repetition < expansion.repetitions)
    (named : production.head = repetitionName repetition) :
    ∃ inner, IsRepetition grammar root expansion number inner := by
  obtain ⟨inner, repeated, repeats⟩ := finished.sourced.repetitions repetition less
  have unlike : production.head ≠ Rule.startName := by
    rw [named]
    exact (startName_ne_repetitionName repetition).symm
  have numbered := finished.number?_head produces unlike
  rw [named] at numbered
  exact ⟨inner, repeated, repetition, numbered, repeats⟩

theorem Finished.exists_owns {production : Production}
    (produces : expansion.flat.HasProduction number production)
    (unlike : production.head ≠ Rule.startName) :
    ∃ ops, Owns grammar root expansion number ops := by
  rcases finished.sourced.heads production produces.1 with same | ⟨id, rule, reached, found, named⟩ |
    ⟨repetition, less, named⟩
  · exact absurd same unlike
  · have numbered := finished.number?_head produces unlike
    rw [named] at numbered
    obtain ⟨body, _, owns⟩ := finished.exists_body ⟨reached, rule, found, numbered⟩
    exact ⟨body, owns⟩
  · obtain ⟨inner, isRepetition⟩ := finished.isRepetition produces less named
    exact ⟨inner, .repetition isRepetition⟩

theorem Finished.acyclic : expansion.flat.Acyclic := by
  intro number cycle
  obtain ⟨_, ⟨production, produces, _⟩, _⟩ := Relation.TransGen.head'_iff.mp cycle
  by_cases start : production.head = Rule.startName
  · -- No body holds the start symbol, so nothing comes back to it.
    obtain ⟨_, _, source, produced, leaves⟩ := Relation.TransGen.tail'_iff.mp cycle
    obtain ⟨_, occurs, rfl⟩ := leaves.exists_mem
    have numbered := produces.2
    rw [start] at numbered
    exact finished.invariant.startUnused finished.apart finished.few source produced.1 number
      numbered occurs
  · obtain ⟨ops, owns⟩ := finished.exists_owns produces start
    exact finished.not_cycle owns cycle

theorem Finished.rounds_not_vanish {production : Production} {front : List Symbol}
    (produces : expansion.flat.HasProduction number production)
    (isRepetition : Rule.isRepetition production.head = true)
    (round : production.body = front ++ [.nonterminal number]) :
    ¬ expansion.flat.Vanishes front := by
  have marked : ∃ repetition < expansion.repetitions,
      production.head = repetitionName repetition := by
    rcases finished.sourced.heads production produces.1 with same | ⟨id, rule, _, found, named⟩ |
      repetition
    · rw [same] at isRepetition
      cases isRepetition
    · rw [named, plain_name finished.apart found] at isRepetition
      cases isRepetition
    · exact repetition
  obtain ⟨repetition, less, named⟩ := marked
  obtain ⟨inner, isRepetition⟩ := finished.isRepetition produces less named
  obtain ⟨rounds, compiled, member⟩ := finished.mem_rounds isRepetition produces
  rw [round] at member
  rcases (Language.mem_add _ _ _).mp member with one | again
  · have none := (Language.mem_one _).mp one
    simp at none
  · obtain ⟨first, inRounds, _, rfl, same⟩ := Language.mem_mul.mp again
    rw [← List.append_cancel_right same]
    exact finished.not_vanishes isRepetition.1 compiled inRounds

end Finished

end Expansion

namespace Grammar
open Expansion

variable {grammar : Grammar} {root : RuleId} {flat : FlatGrammar}

theorem finished_of_flatten (constructed : grammar.Constructed)
    (flattened : (grammar.flatten root).1 = .ok flat) (few : flat.nonterminals.length ≤ 90000) :
    ∃ expansion start all left, flat = expansion.flat ∧
      Finished grammar root expansion start all left := by
  have apart := constructed.namesApart
  obtain ⟨passed, rule, expansion, found, rfl, runs⟩ := run_of_flatten flattened
  obtain ⟨start, all, invariant, rootIn, _⟩ := flattened_of_run apart found runs
  obtain ⟨left, sourced⟩ := sourced_of_run apart found runs
  exact ⟨expansion, start, all, left, rfl, apart, few, validate_ok_iff.mp passed, invariant, rootIn,
    sourced⟩

/-- No nonterminal of a flattened grammar derives itself, and no round of a repetition derives
nothing. So there are finitely many trees with given leaves. -/
theorem flatten_acyclic (constructed : grammar.Constructed)
    (flattened : (grammar.flatten root).1 = .ok flat) (few : flat.nonterminals.length ≤ 90000) :
    (∀ number, ¬ Relation.TransGen flat.Rewrites [.nonterminal number] [.nonterminal number]) ∧
    (∀ number production front, flat.HasProduction number production →
      Rule.isRepetition production.head = true →
      production.body = front ++ [.nonterminal number] → ¬ flat.RewritesTo front []) ∧
    ∀ number tokens,
      {tree | flat.Derives [.nonterminal number] [tree] ∧ tree.leaves = tokens}.Finite := by
  obtain ⟨expansion, start, all, left, rfl, finished⟩ :=
    finished_of_flatten constructed flattened few
  refine ⟨fun number cycle => ?_, ?_, finished.acyclic.finite_treesOf⟩
  · exact finished.acyclic number (FlatGrammar.transGen_passes cycle)
  · intro number production front produces isRepetition round steps
    exact finished.rounds_not_vanish produces isRepetition round
      (FlatGrammar.vanishes_iff.mpr steps)

theorem flatten_acyclic_itemList :
    itemList.Constructed ∧ (itemList.flatten 0).1 = .ok flatItemList ∧
      flatItemList.nonterminals.length = 3 ∧ flatItemList.RewritesTo [.nonterminal 10001] [] ∧
      ¬ Relation.TransGen flatItemList.Rewrites [.nonterminal 10001] [.nonterminal 10001] ∧
      ¬ flatItemList.RewritesTo [.terminal 1, .terminal 0] [] ∧
      ∃ trees : Set Tree, trees.Finite ∧
        .node "list" [.leaf (FlatGrammar.tokenOfKind 0), .node "MANY_0" []] ∈ trees ∧
        ∀ tree, flatItemList.Derives [.nonterminal 10000] [tree] →
          tree.leaves = [FlatGrammar.tokenOfKind 0] → tree ∈ trees := by
  obtain ⟨acyclic, rounds, finite⟩ :=
    flatten_acyclic constructed_itemList flatten_itemList (by decide)
  have empty : flatItemList.HasProduction 10001 ⟨"MANY_0", []⟩ := by decide +kernel
  have again : flatItemList.HasProduction 10001
      ⟨"MANY_0", [.terminal 1, .terminal 0, .nonterminal 10001]⟩ := by decide +kernel
  have list : flatItemList.HasProduction 10000 ⟨"list", [.terminal 0, .nonterminal 10001]⟩ := by
    decide +kernel
  refine ⟨constructed_itemList, flatten_itemList, rfl, .single (.expand [] [] empty), acyclic 10001,
    rounds 10001 _ [.terminal 1, .terminal 0] again (by decide) rfl, _,
    finite 10000 [FlatGrammar.tokenOfKind 0], ⟨?_, rfl⟩, fun tree derives leaves => ⟨derives, leaves⟩⟩
  exact .nonterminal list (.terminal (FlatGrammar.tokenOfKind 0) (.nonterminal empty .nil .nil)) .nil

end Grammar

end CanonicalLR
