import CanonicalLR.Grammar.Arena
import CanonicalLR.Proofs.Grammar.Constructed

namespace CanonicalLR

namespace Grammar

variable {grammar : Grammar} {id : RuleId} {rule : Rule}

theorem find?_eq (grammar : Grammar) (name : String) :
    grammar.find? name = (grammar.rules.toList.map (·.name)).findIdx? (· == name) := by
  rw [find?, List.findIdx?_map]
  rfl

theorem find?_push {name : String} (unknown : grammar.find? name = none) (body : Option (List Op))
    (other : String) :
    (Grammar.mk (grammar.rules.push { name, body })).find? other =
      if name = other then some grammar.rules.size else grammar.find? other := by
  simp only [find?, Array.toList_push, List.findIdx?_append] at unknown ⊢
  split
  · rename_i same
    subst same
    simp [unknown]
  · rename_i differs
    simp [differs]

theorem find?_set (found : grammar.get? id = some rule) (body : List Op) (name : String) :
    (Grammar.mk (grammar.rules.set! id { rule with body := some body })).find? name =
      grammar.find? name := by
  rw [find?_eq, find?_eq, names_set found]

end Grammar

namespace Arena

def Call.added? : Call → Option Rule
  | .declare name => some { name, body := none }
  | .define _ _ => none
  | .rule name body => some { name, body := some body }

theorem Call.eq_define_of_added? {call : Call} (old : call.added? = none) :
    ∃ id body, call = .define id body := by
  cases call with
  | define id body => exact ⟨id, body, rfl⟩
  | declare | rule => cases old

/-- The call on a grammar without a table of names. -/
def Call.onGrammar (grammar : Grammar) : Call → Except GrammarError (RuleId × Grammar)
  | .declare name => grammar.declare name
  | .define id body => grammar.define id body
  | .rule name body => grammar.rule name body

def push (arena : Arena) (rule : Rule) : Arena :=
  ⟨arena.rules.push rule, arena.names.insert rule.name arena.rules.size⟩

def fill (arena : Arena) (id : RuleId) (rule : Rule) (body : List Op) : Arena :=
  { arena with rules := arena.rules.set! id { rule with body := some body } }

variable {arena next : Arena} {call : Call} {id : RuleId} {rule : Rule} {body : List Op}

/-! ### What calls answer -/

theorem answer_declare (arena : Arena) (name : String) :
    arena.answer (.declare name) =
      if Rule.isReserved name then (.error (.reservedName name), arena)
      else if arena.names.contains name then (.error (.duplicateRule name), arena)
      else (.ok arena.rules.size, arena.push { name, body := none }) := by
  simp only [answer, Call.session, declare, on_ite, on_bind, on_get, on_modify, on_throw, on_pure]
  rfl

theorem answer_define (arena : Arena) (id : RuleId) (body : List Op) :
    arena.answer (.define id body) =
      match arena.get? id with
      | none => (.error (.unknownRule id), arena)
      | some rule =>
          if rule.isDefined then (.error (.alreadyDefined rule.name), arena)
          else (.ok id, arena.fill id rule body) := by
  simp only [answer, Call.session, define, on_bind, on_get]
  cases arena.get? id with
  | none => rfl
  | some rule =>
      simp only [on_ite, on_bind, on_modify, on_throw, on_pure]
      rfl

theorem answer_rule (arena : Arena) (name : String) (body : List Op) :
    arena.answer (.rule name body) =
      match arena.answer (.declare name) with
      | (.ok id, next) => next.answer (.define id body)
      | (.error error, next) => (.error error, next) := by
  simp only [answer, Call.session, Arena.rule, on_bind]
  obtain ⟨answered, left⟩ := (declare name).on arena
  cases answered <;> rfl

theorem get?_push (arena : Arena) (rule : Rule) (id : RuleId) :
    (arena.push rule).get? id = if id = arena.rules.size then some rule else arena.get? id :=
  Array.getElem?_push

theorem fill_push (arena : Arena) (name : String) (body : List Op) :
    (arena.push { name, body := none }).fill arena.rules.size { name, body := none } body =
      arena.push { name, body := some body } := by
  simp [push, fill, Array.setIfInBounds_def, Array.set_push]

theorem answer_of_added (arena : Arena) (added : call.added? = some rule) :
    arena.answer call =
      if Rule.isReserved rule.name then (.error (.reservedName rule.name), arena)
      else if arena.names.contains rule.name then (.error (.duplicateRule rule.name), arena)
      else (.ok arena.rules.size, arena.push rule) := by
  cases call with
  | declare name =>
      cases added
      exact answer_declare arena name
  | define => cases added
  | rule name body =>
      cases added
      rw [answer_rule, answer_declare]
      by_cases reserved : Rule.isReserved name
      · rw [if_pos reserved, if_pos reserved]
      · rw [if_neg reserved, if_neg reserved]
        by_cases taken : arena.names.contains name
        · rw [if_pos taken, if_pos taken]
        · rw [if_neg taken, if_neg taken]
          dsimp only
          rw [answer_define, get?_push, if_pos rfl]
          exact congrArg (Prod.mk _) (fill_push arena name body)

/-! ### The grammar in an arena -/

theorem onGrammar_of_added (grammar : Grammar) (added : call.added? = some rule) :
    call.onGrammar grammar =
      if Rule.isReserved rule.name then .error (.reservedName rule.name)
      else if (grammar.find? rule.name).isSome then .error (.duplicateRule rule.name)
      else .ok (grammar.rules.size, ⟨grammar.rules.push rule⟩) := by
  cases call with
  | declare name =>
      cases added
      rfl
  | define => cases added
  | rule name body =>
      cases added
      rw [Call.onGrammar, Grammar.rule, Grammar.declare]
      by_cases reserved : Rule.isReserved name
      · rw [if_pos reserved, if_pos reserved]
        rfl
      · rw [if_neg reserved, if_neg reserved]
        by_cases taken : (grammar.find? name).isSome
        · rw [if_pos taken, if_pos taken]
          rfl
        · rw [if_neg taken, if_neg taken]
          exact Grammar.define_push grammar name body

theorem constructed_of_onGrammar {grammar more : Grammar} (constructed : grammar.Constructed)
    (added : call.onGrammar grammar = .ok (id, more)) : more.Constructed := by
  cases call with
  | declare => exact constructed.declare added
  | define => exact constructed.define added
  | rule => exact constructed.rule added

/-- The rules are those of a grammar that declarations and definitions lead to, and the table says of
every name what a search says. -/
structure Consistent (arena : Arena) : Prop where
  constructed : arena.grammar.Constructed
  find?_eq : ∀ name, arena.find? name = arena.grammar.find? name

theorem consistent_empty : ({} : Arena).Consistent :=
  ⟨.empty, fun _ => Std.HashMap.getElem?_empty⟩

theorem Consistent.contains_eq (consistent : arena.Consistent) (name : String) :
    arena.names.contains name = (arena.grammar.find? name).isSome := by
  rw [← consistent.find?_eq, find?, Std.HashMap.contains_eq_isSome_getElem?]

theorem Consistent.find?_push (consistent : arena.Consistent)
    (unknown : arena.grammar.find? rule.name = none) (name : String) :
    (arena.push rule).find? name = (arena.push rule).grammar.find? name := by
  refine Eq.trans ?_ (Grammar.find?_push unknown rule.body name).symm
  rw [find?, push, Std.HashMap.getElem?_insert]
  simp only [beq_iff_eq]
  split
  · rfl
  · exact consistent.find?_eq name

theorem Consistent.answer_cases (consistent : arena.Consistent) (call : Call) :
    (∃ error, call.onGrammar arena.grammar = .error error ∧
      arena.answer call = (.error error, arena)) ∨
    ∃ id next, call.onGrammar arena.grammar = .ok (id, next.grammar) ∧
      arena.answer call = (.ok id, next) ∧ next.Consistent := by
  cases added : call.added? with
  | some rule =>
      have searched := onGrammar_of_added arena.grammar added
      rw [← consistent.contains_eq] at searched
      rw [answer_of_added arena added, searched]
      split
      · exact .inl ⟨_, rfl, rfl⟩
      · rename_i plain
        split
        · exact .inl ⟨_, rfl, rfl⟩
        · rename_i unknown
          rw [if_neg plain, if_neg unknown] at searched
          rw [consistent.contains_eq, Option.not_isSome_iff_eq_none] at unknown
          exact .inr ⟨_, arena.push rule, rfl, rfl,
            constructed_of_onGrammar consistent.constructed searched, consistent.find?_push unknown⟩
  | none =>
      obtain ⟨id, body, rfl⟩ := Call.eq_define_of_added? added
      have searched : (Call.define id body).onGrammar arena.grammar =
          match arena.get? id with
          | none => .error (.unknownRule id)
          | some rule =>
              if rule.isDefined then .error (.alreadyDefined rule.name)
              else .ok (id, (arena.fill id rule body).grammar) := rfl
      rw [answer_define, searched]
      cases found : arena.get? id with
      | none => exact .inl ⟨_, rfl, rfl⟩
      | some rule =>
          dsimp only
          split
          · exact .inl ⟨_, rfl, rfl⟩
          · rename_i bare
            rw [found] at searched
            dsimp only at searched
            rw [if_neg bare] at searched
            have within : arena.grammar.get? id = some rule := found
            exact .inr ⟨_, arena.fill id rule body, rfl, rfl,
              constructed_of_onGrammar consistent.constructed searched,
              fun name => (consistent.find?_eq name).trans (Grammar.find?_set within body name).symm⟩

theorem Consistent.answer (consistent : arena.Consistent) (call : Call) :
    (arena.answer call).2.Consistent := by
  obtain ⟨_, _, same⟩ | ⟨_, _, _, same, later⟩ := consistent.answer_cases call
  · rw [same]
    exact consistent
  · rw [same]
    exact later

theorem Consistent.answers (consistent : arena.Consistent) (calls : List Call) :
    (arena.answers calls).2.Consistent := by
  induction calls generalizing arena with
  | nil => exact consistent
  | cons call later ih => exact ih (consistent.answer call)

theorem Consistent.find?_eq_some_iff (consistent : arena.Consistent) {name : String} :
    arena.find? name = some id ↔ ∃ rule, arena.get? id = some rule ∧ rule.name = name := by
  rw [consistent.find?_eq]
  constructor
  · intro found
    obtain ⟨within, same, _⟩ := List.findIdx?_eq_some_iff_getElem.mp found
    have within : id < arena.rules.size := within
    exact ⟨arena.rules[id], Array.getElem?_eq_getElem within, eq_of_beq same⟩
  · rintro ⟨rule, found, rfl⟩
    exact consistent.constructed.namesApart.find?_name found

theorem Consistent.contains_eq_false_iff (consistent : arena.Consistent) {name : String} :
    arena.names.contains name = false ↔
      ∀ id rule, arena.get? id = some rule → rule.name ≠ name := by
  rw [consistent.contains_eq, ← consistent.find?_eq, Option.isSome_eq_false_iff,
    Option.isNone_iff_eq_none, Option.eq_none_iff_forall_ne_some]
  constructor
  · intro unknown id rule found same
    exact unknown id (consistent.find?_eq_some_iff.mpr ⟨rule, found, same⟩)
  · intro apart id known
    obtain ⟨rule, found, same⟩ := consistent.find?_eq_some_iff.mp known
    exact apart id rule found same

/-! ### What calls change -/

/-- The rule that a call leaves at the handle that it answers: a new one behind all others, or one that
had no body before. -/
def Call.Leaves (arena : Arena) (id : RuleId) (rule : Rule) : Call → Prop
  | .declare name => id = arena.rules.size ∧ rule = { name, body := none }
  | .define handle body => id = handle ∧
      ∃ old, arena.get? id = some old ∧ old.body = none ∧ rule = { old with body := some body }
  | .rule name body => id = arena.rules.size ∧ rule = { name, body := some body }

/-- Whether a call may be made: a new name is neither reserved nor taken, and a body is given to a rule
of the arena that has none. -/
def Call.Admissible (arena : Arena) : Call → Prop
  | .declare name | .rule name _ => Rule.isReserved name = false ∧
      ∀ id rule, arena.get? id = some rule → rule.name ≠ name
  | .define id _ => ∃ rule, arena.get? id = some rule ∧ rule.body = none

theorem get?_fill (found : arena.get? id = some rule) (body : List Op) (other : RuleId) :
    (arena.fill id rule body).get? other =
      if other = id then some { rule with body := some body } else arena.get? other := by
  have within := (Array.getElem?_eq_some_iff.mp found).1
  simp only [get?, fill, Array.set!_eq_setIfInBounds, Array.getElem?_setIfInBounds, within, if_true,
    eq_comm]

theorem not_isDefined_iff : ¬ rule.isDefined ↔ rule.body = none := by
  rw [Rule.isDefined, Option.not_isSome_iff_eq_none]

theorem answer_added_eq_ok_iff (added : call.added? = some rule) :
    arena.answer call = (.ok id, next) ↔ (Rule.isReserved rule.name = false ∧
      arena.names.contains rule.name = false) ∧ arena.rules.size = id ∧ arena.push rule = next := by
  rw [answer_of_added arena added, ← Bool.not_eq_true, ← Bool.not_eq_true]
  split
  · rename_i reserved
    exact iff_of_false nofun (fun goes => goes.1.1 reserved)
  · rename_i plain
    split
    · rename_i taken
      exact iff_of_false nofun (fun goes => goes.1.2 taken)
    · rename_i unknown
      rw [Prod.mk.injEq, Except.ok.injEq]
      exact (and_iff_right ⟨plain, unknown⟩).symm

theorem answer_define_eq_ok_iff {handle : RuleId} :
    arena.answer (.define handle body) = (.ok id, next) ↔ ∃ rule, arena.get? handle = some rule ∧
      rule.body = none ∧ handle = id ∧ arena.fill handle rule body = next := by
  rw [answer_define]
  cases arena.get? handle with
  | none => exact iff_of_false nofun nofun
  | some rule =>
      simp only [Option.some.injEq, exists_eq_left', ← not_isDefined_iff]
      split
      · rename_i full
        exact iff_of_false nofun (fun goes => goes.1 full)
      · rename_i bare
        rw [Prod.mk.injEq, Except.ok.injEq]
        exact (and_iff_right bare).symm

theorem leaves_of_answer (answered : arena.answer call = (.ok id, next)) :
    ∃ rule, call.Leaves arena id rule ∧
      ∀ other, next.get? other = if other = id then some rule else arena.get? other := by
  cases call with
  | declare | rule =>
      obtain ⟨_, rfl, rfl⟩ := (answer_added_eq_ok_iff rfl).mp answered
      exact ⟨_, ⟨rfl, rfl⟩, get?_push arena _⟩
  | define handle body =>
      obtain ⟨rule, found, bare, rfl, rfl⟩ := answer_define_eq_ok_iff.mp answered
      exact ⟨_, ⟨rfl, rule, found, bare, rfl⟩, get?_fill found body⟩

theorem Consistent.admissible_iff_of_added (consistent : arena.Consistent)
    (added : call.added? = some rule) : call.Admissible arena ↔
      Rule.isReserved rule.name = false ∧ arena.names.contains rule.name = false := by
  cases call with
  | declare | rule =>
      cases added
      rw [consistent.contains_eq_false_iff]
      rfl
  | define => cases added

theorem Consistent.exists_answer_eq_ok_iff (consistent : arena.Consistent) :
    (∃ id next, arena.answer call = (.ok id, next)) ↔ call.Admissible arena := by
  cases added : call.added? with
  | some rule =>
      simp only [answer_added_eq_ok_iff added, consistent.admissible_iff_of_added added,
        exists_and_left, exists_eq', and_true]
  | none =>
      obtain ⟨id, body, rfl⟩ := Call.eq_define_of_added? added
      simp [answer_define_eq_ok_iff, Call.Admissible]

/-! ### What stays -/

/-- No rule gets lost or changes its name, and no body gets lost or changes. -/
def Keeps (arena next : Arena) : Prop :=
  ∀ id rule, arena.get? id = some rule → ∃ later, next.get? id = some later ∧
    later.name = rule.name ∧ ∀ body, rule.body = some body → later.body = some body

theorem Keeps.refl (arena : Arena) : Keeps arena arena :=
  fun _ rule found => ⟨rule, found, rfl, fun _ same => same⟩

theorem Keeps.trans {last : Arena} (first : Keeps arena next) (second : Keeps next last) :
    Keeps arena last := by
  intro id rule found
  obtain ⟨middle, found, named, kept⟩ := first id rule found
  obtain ⟨later, found, renamed, stays⟩ := second id middle found
  exact ⟨later, found, renamed.trans named, fun body same => stays body (kept body same)⟩

theorem keeps_of_leaves (leaves : call.Leaves arena id rule)
    (others : ∀ other, next.get? other = if other = id then some rule else arena.get? other) :
    Keeps arena next := by
  intro other old found
  by_cases here : other = id
  · subst here
    cases call with
    | declare | rule =>
        obtain ⟨rfl, rfl⟩ := leaves
        exact absurd (Array.getElem?_eq_some_iff.mp found).1 (Nat.lt_irrefl _)
    | define handle body =>
        obtain ⟨rfl, same, present, bare, rfl⟩ := leaves
        obtain rfl : old = same := Option.some_inj.mp (found.symm.trans present)
        refine ⟨_, (others _).trans (if_pos rfl), rfl, fun body full => ?_⟩
        rw [bare] at full
        cases full
  · exact ⟨old, ((others other).trans (if_neg here)).trans found, rfl, fun _ same => same⟩

theorem Consistent.keeps_answer (consistent : arena.Consistent) (call : Call) :
    Keeps arena (arena.answer call).2 := by
  obtain ⟨_, _, same⟩ | ⟨_, _, _, same, _⟩ := consistent.answer_cases call
  · rw [same]
    exact .refl arena
  · rw [same]
    obtain ⟨rule, leaves, others⟩ := leaves_of_answer same
    exact keeps_of_leaves leaves others

theorem Consistent.keeps_answers (consistent : arena.Consistent) (calls : List Call) :
    Keeps arena (arena.answers calls).2 := by
  induction calls generalizing arena with
  | nil => exact .refl arena
  | cons call later ih => exact (consistent.keeps_answer call).trans (ih (consistent.answer call))

/-! ### Handles -/

def declared? (call : Call) (answer : Except GrammarError RuleId) : Option (String × RuleId) := do
  return ((← call.added?).name, ← answer.toOption)

def declarations (calls : List Call) (answers : List (Except GrammarError RuleId)) :
    List (String × RuleId) :=
  (calls.zip answers).filterMap fun made => declared? made.1 made.2

def places (arena : Arena) : List (String × RuleId) :=
  (arena.rules.toList.map (·.name)).zipIdx

theorem Consistent.places_answer (consistent : arena.Consistent) (call : Call) :
    (arena.answer call).2.places = arena.places ++ (declared? call (arena.answer call).1).toList := by
  obtain ⟨_, _, same⟩ | ⟨id, next, _, same, _⟩ := consistent.answer_cases call
  · rw [same]
    cases added : call.added? <;> simp [declared?, added, Except.toOption]
  · rw [same]
    cases added : call.added? with
    | some rule =>
        obtain ⟨_, rfl, rfl⟩ := (answer_added_eq_ok_iff added).mp same
        simp [places, push, declared?, added, Except.toOption, List.zipIdx_append]
    | none =>
        obtain ⟨handle, body, rfl⟩ := Call.eq_define_of_added? added
        obtain ⟨rule, found, _, rfl, rfl⟩ := answer_define_eq_ok_iff.mp same
        have kept := Grammar.names_set (show arena.grammar.get? handle = some rule from found) body
        rw [declared?, added]
        exact (congrArg List.zipIdx kept).trans (List.append_nil _).symm

theorem declarations_cons (call : Call) (calls : List Call) (answer : Except GrammarError RuleId)
    (answers : List (Except GrammarError RuleId)) : declarations (call :: calls) (answer :: answers) =
      (declared? call answer).toList ++ declarations calls answers := by
  rw [declarations, List.zip_cons_cons, List.filterMap_cons]
  cases declared? call answer <;> rfl

theorem Consistent.places_answers (consistent : arena.Consistent) (calls : List Call) :
    (arena.answers calls).2.places = arena.places ++ declarations calls (arena.answers calls).1 := by
  induction calls generalizing arena with
  | nil => exact (List.append_nil _).symm
  | cons call later ih =>
      calc ((arena.answer call).2.answers later).2.places
          = (arena.answer call).2.places ++
              declarations later ((arena.answer call).2.answers later).1 :=
            ih (consistent.answer call)
        _ = arena.places ++ ((declared? call (arena.answer call).1).toList ++
              declarations later ((arena.answer call).2.answers later).1) := by
            rw [consistent.places_answer, List.append_assoc]
        _ = arena.places ++ declarations (call :: later) (arena.answers (call :: later)).1 :=
            congrArg (arena.places ++ ·) (declarations_cons ..).symm

/-! ### Histories of calls -/

theorem Consistent.handle_eq (consistent : arena.Consistent) {first second : RuleId} {other : Rule}
    (found : arena.get? first = some rule) (present : arena.get? second = some other)
    (same : rule.name = other.name) : first = second := by
  have known := consistent.find?_eq_some_iff.mpr ⟨rule, found, same⟩
  rw [consistent.find?_eq_some_iff.mpr ⟨other, present, rfl⟩] at known
  exact (Option.some_inj.mp known).symm

theorem Consistent.unreserved (consistent : arena.Consistent) (found : arena.get? id = some rule) :
    rule.name ≠ "S'" ∧ ¬ "MANY_".toList <+: rule.name.toList := by
  have free := consistent.constructed.namesApart.unreserved rule (Array.mem_of_getElem? found)
  rw [Rule.isReserved, Bool.or_eq_false_iff, beq_eq_false_iff_ne, Rule.isRepetition,
    ← Bool.not_eq_true, List.isPrefixOf_iff_prefix] at free
  exact free

theorem Consistent.answer_eq_error (consistent : arena.Consistent) {error : GrammarError}
    (answered : arena.answer call = (.error error, next)) :
    next = arena ∧ call.onGrammar arena.grammar = .error error := by
  obtain ⟨_, onGrammar, same⟩ | ⟨_, _, _, same, _⟩ := consistent.answer_cases call
  · cases answered.symm.trans same
    exact ⟨rfl, onGrammar⟩
  · cases answered.symm.trans same

theorem Consistent.answer_eq_ok (consistent : arena.Consistent)
    (answered : arena.answer call = (.ok id, next)) :
    call.onGrammar arena.grammar = .ok (id, next.grammar) := by
  obtain ⟨_, _, same⟩ | ⟨_, _, onGrammar, same, _⟩ := consistent.answer_cases call
  · cases answered.symm.trans same
  · cases answered.symm.trans same
    exact onGrammar

/-- Whatever calls come first, names and handles belong together, handles count the declarations, later
calls take nothing away, and a call either fails and changes nothing or leaves a single rule. -/
theorem answers_consistent (calls : List Call) :
    let arena := (({} : Arena).answers calls).2
    (∀ name id, arena.find? name = some id ↔ ∃ rule, arena.get? id = some rule ∧ rule.name = name) ∧
    (∀ first second rule other, arena.get? first = some rule → arena.get? second = some other →
      rule.name = other.name → first = second) ∧
    (∀ id rule, arena.get? id = some rule →
      rule.name ≠ "S'" ∧ ¬ "MANY_".toList <+: rule.name.toList) ∧
    declarations calls (({} : Arena).answers calls).1 = (arena.rules.toList.map (·.name)).zipIdx ∧
    (∀ later, Keeps arena (arena.answers later).2) ∧
    ∀ call : Call,
      ((∃ id next, arena.answer call = (.ok id, next)) ↔ call.Admissible arena) ∧
      (∀ error next, arena.answer call = (.error error, next) →
        next = arena ∧ call.onGrammar arena.grammar = .error error) ∧
      ∀ id next, arena.answer call = (.ok id, next) →
        call.onGrammar arena.grammar = .ok (id, next.grammar) ∧
        ∃ rule, call.Leaves arena id rule ∧
          ∀ other, next.get? other = if other = id then some rule else arena.get? other := by
  intro arena
  have consistent : arena.Consistent := consistent_empty.answers calls
  exact ⟨fun name id => consistent.find?_eq_some_iff,
    fun first second rule other => consistent.handle_eq, fun id rule => consistent.unreserved,
    (consistent_empty.places_answers calls).symm, consistent.keeps_answers,
    fun call => ⟨consistent.exists_answer_eq_ok_iff,
      fun error next answered => consistent.answer_eq_error answered,
      fun id next answered => ⟨consistent.answer_eq_ok answered, leaves_of_answer answered⟩⟩⟩

end Arena

end CanonicalLR
