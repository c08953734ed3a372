import CanonicalLR.Proofs.Grammar.Validation

/-!
Rules that begin with themselves. A body begins with a rule if it unfolds to a row with that rule in
front. The search for such rules never looks behind a choice, not even behind one that can stand for
nothing: it judges a body as if a token stood behind each of its choices (`bodyStartsWith_iff`). What
it finds is left recursive, and it finds all such rules in whose bodies no choice can stand for nothing
(`leftRecursion_noticed`).
-/

namespace CanonicalLR

def Begins (body : List Op) (id : RuleId) : Prop :=
  ∃ row, Unfolds body (.rule id :: row)

variable {id : RuleId} {op : Op} {body rest front back : List Op} {alternatives : List (List Op)}
  {row : List Constituent}

/-! ### Beginnings of sequences -/

theorem unfolds_append_iff : Unfolds (front ++ back) row ↔
    ∃ first second, row = first ++ second ∧ Unfolds front first ∧ Unfolds back second := by
  induction front generalizing row with
  | nil =>
      constructor
      · exact fun unfolds => ⟨[], row, rfl, .nil, unfolds⟩
      · rintro ⟨first, second, rfl, nothing, unfolds⟩
        cases nothing
        exact unfolds
  | cons op rest ih =>
      constructor
      · intro unfolds
        obtain ⟨first, second, rfl, here, later⟩ := Grammar.unfolds_cons_iff.mp unfolds
        obtain ⟨middle, last, rfl, inFront, inBack⟩ := ih.mp later
        exact ⟨first ++ middle, last, (List.append_assoc ..).symm, here.append inFront, inBack⟩
      · rintro ⟨first, second, rfl, inFront, inBack⟩
        exact inFront.append inBack

theorem begins_append : Begins (front ++ back) id ↔
    Begins front id ∧ (∃ row, Unfolds back row) ∨ Unfolds front [] ∧ Begins back id := by
  constructor
  · rintro ⟨row, unfolds⟩
    obtain ⟨first, second, whole, inFront, inBack⟩ := unfolds_append_iff.mp unfolds
    cases first with
    | nil => exact .inr ⟨inFront, row, whole ▸ inBack⟩
    | cons part first =>
        cases whole
        exact .inl ⟨⟨first, inFront⟩, second, inBack⟩
  · rintro (⟨⟨first, inFront⟩, second, inBack⟩ | ⟨nothing, row, inBack⟩)
    · exact ⟨first ++ second, inFront.append inBack⟩
    · exact ⟨row, nothing.append inBack⟩

theorem not_begins_nil : ¬ Begins [] id := by
  rintro ⟨_, unfolds⟩
  cases unfolds

theorem not_begins_consume (terminal : Terminal) (rest : List Op) :
    ¬ Begins (.consume terminal :: rest) id := by
  rintro ⟨_, unfolds⟩
  cases unfolds

theorem not_begins_group (name : String) (members : List Terminal) (rest : List Op) :
    ¬ Begins (.group name members :: rest) id := by
  rintro ⟨_, unfolds⟩
  cases unfolds

theorem begins_subRule {other : RuleId} : Begins [.subRule other] id ↔ other = id := by
  constructor
  · rintro ⟨_, unfolds⟩
    cases unfolds
    rfl
  · rintro rfl
    exact ⟨[], .subRule other .nil⟩

theorem begins_option : Begins [.option body] id ↔ Begins body id := by
  constructor
  · rintro ⟨row, unfolds⟩
    generalize whole : Constituent.rule id :: row = all at unfolds
    cases unfolds with
    | optionNone tail =>
        cases tail
        cases whole
    | optionSome inner tail =>
        cases tail
        rw [List.append_nil] at whole
        exact ⟨row, whole ▸ inner⟩
  · rintro ⟨row, inner⟩
    exact ⟨row, by simpa using Unfolds.optionSome inner .nil⟩

theorem begins_many : Begins [.many body] id ↔ Begins body id := by
  constructor
  · rintro ⟨row, unfolds⟩
    generalize whole : Constituent.rule id :: row = all, only : [Op.many body] = ops at unfolds
    induction unfolds generalizing row with
    | manyEnd tail =>
        cases only
        cases tail
        cases whole
    | @manyRound _ _ first _ inner _ _ ih =>
        cases only
        cases first with
        | nil => exact ih row whole rfl
        | cons part first =>
            cases whole
            exact ⟨first, inner⟩
    | _ => cases only
  · rintro ⟨row, inner⟩
    exact ⟨row, by simpa using Unfolds.manyRound inner (.manyEnd .nil)⟩

theorem begins_choice :
    Begins [.choice alternatives] id ↔ ∃ alternative ∈ alternatives, Begins alternative id := by
  constructor
  · rintro ⟨row, unfolds⟩
    generalize whole : Constituent.rule id :: row = all at unfolds
    cases unfolds with
    | choice member inner tail =>
        cases tail
        rw [List.append_nil] at whole
        exact ⟨_, member, row, whole ▸ inner⟩
  · rintro ⟨alternative, member, row, inner⟩
    exact ⟨row, by simpa using Unfolds.choice member inner .nil⟩

/-! ### Rows of bodies that leave something to choose -/

mutual

theorem exists_row_op : (op : Op) → op.hasEmptyChoice = false → ∃ row, Unfolds [op] row
  | .consume terminal, _ => ⟨_, .consume terminal .nil⟩
  | .option _, _ => ⟨_, .optionNone .nil⟩
  | .many _, _ => ⟨_, .manyEnd .nil⟩
  | .subRule id, _ => ⟨_, .subRule id .nil⟩
  | .group name members, offers => by
      obtain ⟨terminal, member⟩ :=
        List.exists_mem_of_ne_nil members (List.isEmpty_eq_false_iff.mp offers)
      exact ⟨_, .group member .nil⟩
  | .choice [], offers => nomatch offers
  | .choice (body :: _), offers => by
      rw [Op.hasEmptyChoice, choiceHasEmptyChoice, Bool.or_eq_false_iff, Bool.or_eq_false_iff] at offers
      obtain ⟨row, unfolds⟩ := exists_row_body body offers.2.1
      exact ⟨_, .choice List.mem_cons_self unfolds .nil⟩

theorem exists_row_body : (body : List Op) → bodyHasEmptyChoice body = false →
    ∃ row, Unfolds body row
  | [], _ => ⟨[], .nil⟩
  | op :: rest, offers => by
      rw [bodyHasEmptyChoice, Bool.or_eq_false_iff] at offers
      obtain ⟨first, here⟩ := exists_row_op op offers.1
      obtain ⟨second, later⟩ := exists_row_body rest offers.2
      exact ⟨_, here.append later⟩

end

/-! ### The search -/

mutual

theorem begins_of_startsWith : (op : Op) → op.hasEmptyChoice = false → op.startsWith id = true →
    Begins [op] id
  | .consume _, _, starts | .group _ _, _, starts => nomatch starts
  | .option body, offers, starts => begins_option.mpr (begins_of_bodyStartsWith body offers starts)
  | .many body, offers, starts => begins_many.mpr (begins_of_bodyStartsWith body offers starts)
  | .subRule _, _, starts => begins_subRule.mpr (eq_of_beq starts)
  | .choice alternatives, offers, starts =>
      begins_choice.mpr (exists_begins_of_choiceStartsWith alternatives
        (Bool.or_eq_false_iff.mp offers).2 starts)

theorem begins_of_bodyStartsWith : (body : List Op) → bodyHasEmptyChoice body = false →
    bodyStartsWith id body = true → Begins body id
  | [], _, starts => nomatch starts
  | op :: rest, offers, starts => by
      rw [bodyHasEmptyChoice, Bool.or_eq_false_iff] at offers
      rw [bodyStartsWith, Bool.or_eq_true, Bool.and_eq_true] at starts
      change Begins ([op] ++ rest) id
      rw [begins_append]
      rcases starts with here | ⟨passed, later⟩
      · exact .inl ⟨begins_of_startsWith op offers.1 here, exists_row_body rest offers.2⟩
      · refine .inr ⟨?_, begins_of_bodyStartsWith rest offers.2 later⟩
        cases op with
        | option => exact .optionNone .nil
        | many => exact .manyEnd .nil
        | _ => cases passed

theorem exists_begins_of_choiceStartsWith : (alternatives : List (List Op)) →
    choiceHasEmptyChoice alternatives = false → choiceStartsWith id alternatives = true →
      ∃ alternative ∈ alternatives, Begins alternative id
  | [], _, starts => nomatch starts
  | body :: rest, offers, starts => by
      rw [choiceHasEmptyChoice, Bool.or_eq_false_iff] at offers
      rw [choiceStartsWith, Bool.or_eq_true] at starts
      rw [List.exists_mem_cons_iff]
      exact starts.imp (begins_of_bodyStartsWith body offers.1)
        (exists_begins_of_choiceStartsWith rest offers.2)

end

/-! ### Tokens behind choices -/

mutual

def Op.fenced (fence : Terminal) : Op → List Op
  | .consume terminal => [.consume terminal]
  | .option body => [.option (bodyFenced fence body)]
  | .many body => [.many (bodyFenced fence body)]
  | .choice alternatives => [.choice (choiceFenced fence alternatives), .consume fence]
  | .subRule id => [.subRule id]
  | .group name members => [.group name members]

def bodyFenced (fence : Terminal) : List Op → List Op
  | [] => []
  | op :: rest => op.fenced fence ++ bodyFenced fence rest

def choiceFenced (fence : Terminal) : List (List Op) → List (List Op)
  | [] => []
  | body :: rest => bodyFenced fence body :: choiceFenced fence rest

end

theorem mem_choiceFenced {alternative : List Op} (fence : Terminal)
    (member : alternative ∈ alternatives) :
    bodyFenced fence alternative ∈ choiceFenced fence alternatives := by
  induction alternatives with
  | nil => cases member
  | cons body rest ih =>
      rcases List.mem_cons.mp member with rfl | later
      · exact List.mem_cons_self
      · exact List.mem_cons_of_mem _ (ih later)

mutual

theorem hasEmptyChoice_fenced (fence : Terminal) : (op : Op) →
    bodyHasEmptyChoice (op.fenced fence) = op.hasEmptyChoice
  | .consume _ | .subRule _ => rfl
  | .group _ _ => Bool.or_false _
  | .option body | .many body => (Bool.or_false _).trans (bodyHasEmptyChoice_fenced fence body)
  | .choice [] => rfl
  | .choice (body :: rest) =>
      (Bool.or_false _).trans (choiceHasEmptyChoice_fenced fence (body :: rest))

theorem bodyHasEmptyChoice_fenced (fence : Terminal) : (body : List Op) →
    bodyHasEmptyChoice (bodyFenced fence body) = bodyHasEmptyChoice body
  | [] => rfl
  | op :: rest => by
      rw [bodyFenced, bodyHasEmptyChoice_eq_any, List.any_append, ← bodyHasEmptyChoice_eq_any,
        ← bodyHasEmptyChoice_eq_any, hasEmptyChoice_fenced fence op,
        bodyHasEmptyChoice_fenced fence rest, bodyHasEmptyChoice]

theorem choiceHasEmptyChoice_fenced (fence : Terminal) : (alternatives : List (List Op)) →
    choiceHasEmptyChoice (choiceFenced fence alternatives) = choiceHasEmptyChoice alternatives
  | [] => rfl
  | body :: rest => by
      rw [choiceFenced, choiceHasEmptyChoice, bodyHasEmptyChoice_fenced fence body,
        choiceHasEmptyChoice_fenced fence rest, choiceHasEmptyChoice]

end

theorem unfolds_fenced_nil (fence : Terminal) (op : Op) :
    Unfolds (op.fenced fence) [] ↔ op.isPassedOver = true := by
  cases op with
  | consume | subRule | group => exact iff_of_false nofun nofun
  | option => exact iff_of_true (.optionNone .nil) rfl
  | many => exact iff_of_true (.manyEnd .nil) rfl
  | choice alternatives =>
      refine iff_of_false (fun unfolds => ?_) nofun
      obtain ⟨_, _, nothing, _, fenced⟩ := Grammar.unfolds_cons_iff.mp unfolds
      rw [(List.append_eq_nil_iff.mp nothing.symm).2] at fenced
      cases fenced

mutual

theorem startsWith_iff (fence : Terminal) : (op : Op) → op.hasEmptyChoice = false →
    (op.startsWith id = true ↔ Begins (op.fenced fence) id)
  | .consume terminal, _ => iff_of_false nofun (not_begins_consume terminal [])
  | .group name members, _ => iff_of_false nofun (not_begins_group name members [])
  | .option body, offers => (bodyStartsWith_iff fence body offers).trans begins_option.symm
  | .many body, offers => (bodyStartsWith_iff fence body offers).trans begins_many.symm
  | .subRule _, _ => beq_iff_eq.trans begins_subRule.symm
  | .choice alternatives, offers => by
      have choice := choiceStartsWith_iff fence alternatives (Bool.or_eq_false_iff.mp offers).2
      change _ ↔ Begins ([.choice (choiceFenced fence alternatives)] ++ [.consume fence]) id
      rw [begins_append, begins_choice, Op.startsWith, choice]
      exact ⟨fun here => .inl ⟨here, _, .consume fence .nil⟩,
        fun begins => begins.elim And.left fun later => absurd later.2 (not_begins_consume fence [])⟩

theorem bodyStartsWith_iff (fence : Terminal) : (body : List Op) →
    bodyHasEmptyChoice body = false →
      (bodyStartsWith id body = true ↔ Begins (bodyFenced fence body) id)
  | [], _ => iff_of_false nofun not_begins_nil
  | op :: rest, offers => by
      rw [bodyHasEmptyChoice, Bool.or_eq_false_iff] at offers
      have row := exists_row_body (bodyFenced fence rest)
        ((bodyHasEmptyChoice_fenced fence rest).trans offers.2)
      rw [bodyFenced, begins_append, and_iff_left row, ← startsWith_iff fence op offers.1,
        unfolds_fenced_nil, ← bodyStartsWith_iff fence rest offers.2, bodyStartsWith, Bool.or_eq_true,
        Bool.and_eq_true]

theorem choiceStartsWith_iff (fence : Terminal) : (alternatives : List (List Op)) →
    choiceHasEmptyChoice alternatives = false → (choiceStartsWith id alternatives = true ↔
      ∃ alternative ∈ choiceFenced fence alternatives, Begins alternative id)
  | [], _ => iff_of_false nofun nofun
  | body :: rest, offers => by
      rw [choiceHasEmptyChoice, Bool.or_eq_false_iff] at offers
      rw [choiceFenced, List.exists_mem_cons_iff, ← bodyStartsWith_iff fence body offers.1,
        ← choiceStartsWith_iff fence rest offers.2, choiceStartsWith, Bool.or_eq_true]

end

/-! ### Choices that stand for something -/

/-- No choice in the body can stand for nothing. -/
def Busy (body : List Op) : Prop :=
  ∀ alternatives, Written (.choice alternatives) body →
    ∀ alternative ∈ alternatives, ¬ Unfolds alternative []

theorem Busy.tail (busy : Busy (op :: rest)) : Busy rest :=
  fun alternatives written => busy alternatives (written.mono (List.subset_cons_self op rest))

theorem Busy.inner {inner : List Op} (busy : Busy (op :: rest)) (encloses : op.Encloses inner) :
    Busy inner :=
  fun alternatives written => busy alternatives (.inside List.mem_cons_self encloses written)

theorem Unfolds.fenced (unfolds : Unfolds body row) (busy : Busy body) (fence : Terminal) :
    ∃ marked, Unfolds (bodyFenced fence body) marked ∧ marked.head? = row.head? := by
  induction unfolds with
  | nil => exact ⟨[], .nil, rfl⟩
  | consume terminal _ ih =>
      obtain ⟨_, tail, _⟩ := ih busy.tail
      exact ⟨_, .consume terminal tail, rfl⟩
  | subRule id _ ih =>
      obtain ⟨_, tail, _⟩ := ih busy.tail
      exact ⟨_, .subRule id tail, rfl⟩
  | group member _ ih =>
      obtain ⟨_, tail, _⟩ := ih busy.tail
      exact ⟨_, .group member tail, rfl⟩
  | optionNone _ ih =>
      obtain ⟨marked, tail, same⟩ := ih busy.tail
      exact ⟨marked, .optionNone tail, same⟩
  | manyEnd _ ih =>
      obtain ⟨marked, tail, same⟩ := ih busy.tail
      exact ⟨marked, .manyEnd tail, same⟩
  | optionSome _ _ ihInner ihTail =>
      obtain ⟨_, inner, here⟩ := ihInner (busy.inner (.option _))
      obtain ⟨_, tail, later⟩ := ihTail busy.tail
      refine ⟨_, .optionSome inner tail, ?_⟩
      rw [List.head?_append, here, later, List.head?_append]
  | manyRound _ _ ihInner ihTail =>
      obtain ⟨_, inner, here⟩ := ihInner (busy.inner (.many _))
      obtain ⟨_, tail, later⟩ := ihTail busy
      refine ⟨_, .manyRound inner tail, ?_⟩
      rw [List.head?_append, here, later, List.head?_append]
  | @choice _ _ _ first _ member inner _ ihInner ihTail =>
      obtain ⟨_, inside, here⟩ := ihInner (busy.inner (.choice member))
      obtain ⟨_, tail, _⟩ := ihTail busy.tail
      refine ⟨_, .choice (mem_choiceFenced fence member) inside (.consume fence tail), ?_⟩
      cases first with
      | nil => exact absurd inner (busy _ (.here List.mem_cons_self) _ member)
      | cons part first => rw [List.head?_append, here, List.head?_append, List.head?_cons]; rfl

theorem Begins.fenced (begins : Begins body id) (busy : Busy body) (fence : Terminal) :
    Begins (bodyFenced fence body) id := by
  obtain ⟨_, unfolds⟩ := begins
  obtain ⟨marked, fenced, same⟩ := unfolds.fenced busy fence
  obtain ⟨row, rfl⟩ := List.head?_eq_some_iff.mp same
  exact ⟨row, fenced⟩

/-! ### Notices -/

/-- The rule that a notice calls left recursive. -/
def Notice.leftRecursive? : Notice → Option String
  | .leftRecursion name => some name
  | _ => none

namespace Grammar

/-- Whether the body of a rule begins with the rule itself. -/
def LeftRecursive (grammar : Grammar) (id : RuleId) : Prop :=
  ∃ body, grammar.bodyOf? id = some body ∧ Begins body id

def startsWithItself (grammar : Grammar) (id : RuleId) : Bool :=
  (grammar.bodyOf? id).any (bodyStartsWith id)

variable {grammar : Grammar} {root : RuleId}

theorem validate_snd (passed : (grammar.validate root).1 = .ok ()) : (grammar.validate root).2 =
    grammar.unreachableNotices (grammar.reachable root) ++
      grammar.leftRecursionNotices (grammar.reachable root) := by
  unfold validate at passed ⊢
  split at passed
  · cases passed
  · rename_i known
    rw [if_neg known]
    dsimp only at passed ⊢
    split at passed
    · cases passed
    · split at passed
      · cases passed
      · rfl

theorem leftRecursive?_unreachableNotices (ids : OrderedSet RuleId) :
    (grammar.unreachableNotices ids).filterMap Notice.leftRecursive? = [] := by
  rw [List.filterMap_eq_nil_iff]
  intro notice member
  obtain ⟨id, _, notices⟩ := List.mem_filterMap.mp member
  cases found : grammar.get? id with
  | none => simp [found] at notices
  | some rule =>
      obtain ⟨_, rfl⟩ : id ∉ ids ∧ Notice.unreachableRule rule.name = notice := by
        simpa [found] using notices
      rfl

theorem leftRecursive?_leftRecursionNotices (ids : OrderedSet RuleId) :
    ((grammar.leftRecursionNotices ids).filterMap Notice.leftRecursive?).map some =
      (ids.members.filter grammar.startsWithItself).map fun id => (grammar.get? id).map (·.name) := by
  rw [leftRecursionNotices]
  induction ids.members with
  | nil => rfl
  | cons id rest ih =>
      cases found : grammar.get? id with
      | none => simpa [found, startsWithItself, bodyOf?] using ih
      | some rule =>
          cases written : rule.body with
          | none => simpa [found, written, startsWithItself, bodyOf?] using ih
          | some body =>
              cases starts : bodyStartsWith id body with
              | false => simpa [found, written, starts, startsWithItself, bodyOf?] using ih
              | true =>
                  simpa [found, written, starts, startsWithItself, bodyOf?, Notice.leftRecursive?]
                    using ih

theorem startsWithItself_iff : grammar.startsWithItself id = true ↔
    ∃ body, grammar.bodyOf? id = some body ∧ bodyStartsWith id body = true := by
  rw [startsWithItself]
  cases grammar.bodyOf? id <;> simp

theorem bodyHasEmptyChoice_of_validate (passed : (grammar.validate root).1 = .ok ())
    (reached : grammar.Reaches root id) (defined : grammar.bodyOf? id = some body) :
    bodyHasEmptyChoice body = false := by
  rw [← Bool.not_eq_true, bodyHasEmptyChoice_iff]
  exact fun found => validate_ok_iff.mp passed id reached .emptyChoice ⟨body, defined, found⟩

theorem startsWithItself_iff_fenced (passed : (grammar.validate root).1 = .ok ())
    (reached : grammar.Reaches root id) (fence : Terminal) : grammar.startsWithItself id = true ↔
      ∃ body, grammar.bodyOf? id = some body ∧ Begins (bodyFenced fence body) id := by
  rw [startsWithItself_iff]
  refine exists_congr fun body => and_congr_right fun defined => ?_
  exact bodyStartsWith_iff fence body (bodyHasEmptyChoice_of_validate passed reached defined)

theorem leftRecursive_of_startsWithItself (passed : (grammar.validate root).1 = .ok ())
    (reached : grammar.Reaches root id) (starts : grammar.startsWithItself id = true) :
    grammar.LeftRecursive id := by
  obtain ⟨body, defined, starts⟩ := startsWithItself_iff.mp starts
  exact ⟨body, defined,
    begins_of_bodyStartsWith body (bodyHasEmptyChoice_of_validate passed reached defined) starts⟩

/-- A grammar that passes is left with notices on the left recursion of some of the rules within reach,
by increasing handles. These are the rules that would begin with themselves if a token stood behind
every choice. All of them begin with themselves as they are, and a rule that does so is among them
unless its body has a choice that can stand for nothing. -/
theorem leftRecursion_noticed (passed : (grammar.validate root).1 = .ok ()) :
    ∃ noticed : List RuleId, noticed.Pairwise (· < ·) ∧
      ((grammar.validate root).2.filterMap Notice.leftRecursive?).map some =
        noticed.map (fun id => (grammar.get? id).map (·.name)) ∧
      ∀ id, (∀ fence, id ∈ noticed ↔ grammar.Reaches root id ∧
          ∃ body, grammar.bodyOf? id = some body ∧ Begins (bodyFenced fence body) id) ∧
        (id ∈ noticed → grammar.LeftRecursive id) ∧
        (grammar.Reaches root id → grammar.LeftRecursive id →
          (∀ body, grammar.bodyOf? id = some body → Busy body) → id ∈ noticed) := by
  have member_iff (id : RuleId) :
      id ∈ (grammar.reachable root).members.filter grammar.startsWithItself ↔
        grammar.Reaches root id ∧ grammar.startsWithItself id = true := by
    rw [List.mem_filter, OrderedSet.mem_members, mem_reachable]
  refine ⟨(grammar.reachable root).members.filter grammar.startsWithItself,
    (grammar.reachable root).increasing.filter _, ?_, fun id => ⟨fun fence => ?_, ?_, ?_⟩⟩
  · rw [validate_snd passed, List.filterMap_append, leftRecursive?_unreachableNotices, List.nil_append,
      leftRecursive?_leftRecursionNotices]
  · rw [member_iff]
    exact and_congr_right fun reached => startsWithItself_iff_fenced passed reached fence
  · rw [member_iff]
    exact fun ⟨reached, starts⟩ => leftRecursive_of_startsWithItself passed reached starts
  · rintro reached ⟨body, defined, begins⟩ busy
    rw [member_iff, startsWithItself_iff_fenced passed reached 0]
    exact ⟨reached, body, defined, begins.fenced (busy body defined) 0⟩

/-- Sums with a sign in front that can be left out. -/
def signedSum (sign : Op) : Grammar :=
  ⟨#[{ name := "sum", body := some [.choice [[sign, .subRule 0, .consume 1], [.consume 2]]] }]⟩

theorem leftRecursion_noticed_option :
    ((signedSum (.option [.consume 0])).validate 0).1 = .ok () ∧
      ∃ noticed : List RuleId, 0 ∈ noticed ∧
        (((signedSum (.option [.consume 0])).validate 0).2.filterMap Notice.leftRecursive?).map some =
          noticed.map fun id => ((signedSum (.option [.consume 0])).get? id).map (·.name) := by
  have passed : ((signedSum (.option [.consume 0])).validate 0).1 = .ok () := by decide
  obtain ⟨noticed, _, names, each⟩ := leftRecursion_noticed passed
  refine ⟨passed, noticed, ((each 0).1 3).mpr ⟨.refl, _, rfl, [.token 1, .token 3], ?_⟩, names⟩
  exact .choice List.mem_cons_self (.optionNone (.subRule 0 (.consume 1 .nil))) (.consume 3 .nil)

/-- Where the sign is a choice between a token and nothing, it can be left out just as well, but the
search does not look behind it. -/
theorem not_leftRecursion_noticed_choice :
    ((signedSum (.choice [[.consume 0], []])).validate 0).1 = .ok () ∧
      (signedSum (.choice [[.consume 0], []])).Reaches 0 0 ∧
      (signedSum (.choice [[.consume 0], []])).LeftRecursive 0 ∧
      ((signedSum (.choice [[.consume 0], []])).validate 0).2 = [] := by
  refine ⟨by decide, .refl, ⟨_, rfl, [.token 1], ?_⟩, by decide⟩
  have sign : Unfolds [.choice [[.consume 0], []], .subRule 0, .consume 1] [.rule 0, .token 1] :=
    .choice (List.mem_cons_of_mem _ List.mem_cons_self) .nil (.subRule 0 (.consume 1 .nil))
  exact .choice List.mem_cons_self sign .nil

end Grammar

end CanonicalLR
