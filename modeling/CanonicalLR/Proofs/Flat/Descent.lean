import CanonicalLR.Flat.Descent
import CanonicalLR.Proofs.Flat.Success
import CanonicalLR.Proofs.Grammar.Loop

namespace CanonicalLR

namespace Grammar
open Expansion

variable {grammar : Grammar} {root id : RuleId} {rule : Rule} {body : List Op}
  {ids todo flattened middle done : List RuleId} {before after : Expansion} {depth : Nat}
  {visit : RuleId → List RuleId × Expansion →
    Option (Except GrammarError (List RuleId × Expansion))}

/-! ### Work without a count of steps -/

/-- What working off rules comes to, with as many steps as it takes. -/
def work (grammar : Grammar) (todo flattened : List RuleId) (before : Expansion) :
    Except GrammarError Expansion :=
  grammar.flattenRules (todo.length + pendingReferences grammar flattened) todo flattened before

theorem flattenRules_eq_work {steps : Nat}
    (enough : todo.length + pendingReferences grammar flattened ≤ steps) :
    grammar.flattenRules steps todo flattened before = grammar.work todo flattened before :=
  flattenRules_of_le le_rfl enough

theorem work_nil : grammar.work [] flattened before = .ok before := by
  rw [work]
  generalize pendingReferences grammar flattened = more
  cases more <;> rfl

theorem work_cons : grammar.work (id :: todo) flattened before =
    if id ∈ flattened then grammar.work todo flattened before
    else match grammar.get? id with
      | none => .error (.unknownRule id)
      | some rule => match rule.body with
        | none => .error (.invalid (.undefined rule.name))
        | some body =>
            match expandBody grammar [[]] (before.number rule.name).2 body with
            | .error error => .error error
            | .ok (bodies, middle) => grammar.work (bodyReferences body ++ todo) (id :: flattened)
                (middle.push rule.name bodies) := by
  have steps : (id :: todo).length + pendingReferences grammar flattened =
      todo.length + pendingReferences grammar flattened + 1 := by
    rw [List.length_cons]
    omega
  rw [work, steps, flattenRules]
  split
  · rfl
  · rename_i new
    cases found : grammar.get? id with
    | none => rfl
    | some rule =>
        cases defined : rule.body with
        | none => simp only [defined]
        | some body =>
            have enough := enough_flattenRule new found defined (Nat.le_of_eq steps)
            simp only [defined]
            cases expandBody grammar [[]] (before.number rule.name).2 body with
            | error error => rfl
            | ok result => exact flattenRules_eq_work enough

/-! ### One call of the descent -/

theorem descend_cases (grammar : Grammar) (depth : Nat) (id : RuleId) (flattened : List RuleId)
    (before : Expansion) :
    (id ∈ flattened ∧
      grammar.descend (depth + 1) id (flattened, before) = some (.ok (flattened, before))) ∨
    (∃ error, grammar.descend (depth + 1) id (flattened, before) = some (.error error) ∧
      ∀ todo, grammar.work (id :: todo) flattened before = .error error) ∨
    ∃ after, id ∉ flattened ∧
      grammar.descend (depth + 1) id (flattened, before) =
        visitEach (grammar.descend depth) (grammar.references id) (id :: flattened, after) ∧
      ∀ todo, grammar.work (id :: todo) flattened before =
        grammar.work (grammar.references id ++ todo) (id :: flattened) after := by
  simp only [work_cons, references, bodyOf?, descend]
  by_cases done : id ∈ flattened
  · exact .inl ⟨done, if_pos done⟩
  · simp only [if_neg done]
    refine .inr ?_
    cases found : grammar.get? id with
    | none => exact .inl ⟨_, rfl, fun _ => rfl⟩
    | some rule =>
        cases defined : rule.body with
        | none =>
            simp only [defined]
            exact .inl ⟨_, rfl, fun _ => rfl⟩
        | some body =>
            simp only [defined, Option.bind_eq_bind, Option.bind_some]
            cases expandBody grammar [[]] (before.number rule.name).2 body with
            | error error => exact .inl ⟨_, rfl, fun _ => rfl⟩
            | ok expanded => exact .inr ⟨_, done, rfl, fun _ => rfl⟩

/-! ### Agreement with the list of rules to do -/

theorem work_visitEach
    (agrees : ∀ id flattened before result todo, visit id (flattened, before) = some result →
      grammar.work (id :: todo) flattened before =
        result >>= fun (done, after) => grammar.work todo done after)
    {result : Except GrammarError (List RuleId × Expansion)}
    (ends : visitEach visit ids (flattened, before) = some result) :
    grammar.work (ids ++ todo) flattened before =
      result >>= fun (done, after) => grammar.work todo done after := by
  induction ids generalizing flattened before with
  | nil =>
      cases ends
      rfl
  | cons id rest ih =>
      rw [List.cons_append]
      cases visited : visit id (flattened, before) with
      | none =>
          simp only [visitEach, visited] at ends
          cases ends
      | some first =>
          rw [agrees id flattened before first (rest ++ todo) visited]
          cases first with
          | error error =>
              simp only [visitEach, visited] at ends
              cases ends
              rfl
          | ok next =>
              simp only [visitEach, visited] at ends
              exact ih ends

theorem work_descend {result : Except GrammarError (List RuleId × Expansion)}
    (ends : grammar.descend depth id (flattened, before) = some result) :
    grammar.work (id :: todo) flattened before =
      result >>= fun (done, after) => grammar.work todo done after := by
  induction depth generalizing id flattened before todo result with
  | zero => cases ends
  | succ depth ih =>
      rcases descend_cases grammar depth id flattened before with
        ⟨old, returns⟩ | ⟨error, returns, fails⟩ | ⟨after, _, visits, same⟩
      · rw [returns] at ends
        cases ends
        rw [work_cons, if_pos old]
        rfl
      · rw [returns] at ends
        cases ends
        exact fails todo
      · rw [visits] at ends
        rw [same]
        exact work_visitEach (fun _ _ _ _ _ inner => ih inner) ends

/-! ### What has been flattened -/

structure Descended (grammar : Grammar) (starts flattened done : List RuleId) : Prop where
  kept : flattened ⊆ done
  covered : starts ⊆ done
  closed : ∀ id ∈ done, id ∉ flattened → grammar.references id ⊆ done
  reached : ∀ id ∈ done, id ∉ flattened → ∃ first ∈ starts, grammar.Reaches first id
  nodup : flattened.Nodup → done.Nodup

theorem descended_nil : grammar.Descended [] flattened flattened where
  kept := List.Subset.refl _
  covered := List.nil_subset _
  closed _ member new := absurd member new
  reached _ member new := absurd member new
  nodup distinct := distinct

theorem descended_of_mem (old : id ∈ flattened) : grammar.Descended [id] flattened flattened where
  kept := List.Subset.refl _
  covered _ member := List.mem_singleton.mp member ▸ old
  closed _ member new := absurd member new
  reached _ member new := absurd member new
  nodup distinct := distinct

theorem Descended.cons (first : grammar.Descended [id] flattened middle)
    (later : grammar.Descended ids middle done) : grammar.Descended (id :: ids) flattened done where
  kept := List.Subset.trans first.kept later.kept
  covered := List.cons_subset.mpr
    ⟨later.kept (first.covered List.mem_cons_self), later.covered⟩
  closed other member new := by
    by_cases early : other ∈ middle
    · exact List.Subset.trans (first.closed other early new) later.kept
    · exact later.closed other member early
  reached other member new := by
    by_cases early : other ∈ middle
    · obtain ⟨start, listed, reached⟩ := first.reached other early new
      exact ⟨start, List.mem_cons.mpr (.inl (List.mem_singleton.mp listed)), reached⟩
    · obtain ⟨start, listed, reached⟩ := later.reached other member early
      exact ⟨start, List.mem_cons_of_mem _ listed, reached⟩
  nodup distinct := later.nodup (first.nodup distinct)

theorem Descended.of_references (new : id ∉ flattened)
    (inner : grammar.Descended (grammar.references id) (id :: flattened) done) :
    grammar.Descended [id] flattened done where
  kept := List.Subset.trans (List.subset_cons_self _ _) inner.kept
  covered _ member := List.mem_singleton.mp member ▸ inner.kept List.mem_cons_self
  closed other member newOther := by
    by_cases same : other = id
    · rw [same]
      exact inner.covered
    · exact inner.closed other member (List.not_mem_cons_of_ne_of_not_mem same newOther)
  reached other member newOther := by
    refine ⟨id, List.mem_singleton_self id, ?_⟩
    by_cases same : other = id
    · rw [same]
      exact .refl
    · obtain ⟨first, refers, reached⟩ :=
        inner.reached other member (List.not_mem_cons_of_ne_of_not_mem same newOther)
      exact .head (mem_references_iff.mp refers) reached
  nodup distinct := inner.nodup (List.nodup_cons.mpr ⟨new, distinct⟩)

theorem descended_of_visitEach
    (descends : ∀ id flattened before done after,
      visit id (flattened, before) = some (.ok (done, after)) →
        grammar.Descended [id] flattened done)
    (ends : visitEach visit ids (flattened, before) = some (.ok (done, after))) :
    grammar.Descended ids flattened done := by
  induction ids generalizing flattened before with
  | nil =>
      cases ends
      exact descended_nil
  | cons id rest ih =>
      simp only [visitEach] at ends
      split at ends
      · rename_i next visited
        exact (descends id flattened before _ _ visited).cons (ih ends)
      · rename_i failed
        exact absurd ends (failed _)

theorem descended_of_descend
    (ends : grammar.descend depth id (flattened, before) = some (.ok (done, after))) :
    grammar.Descended [id] flattened done := by
  induction depth generalizing id flattened before done after with
  | zero => cases ends
  | succ depth ih =>
      rcases descend_cases grammar depth id flattened before with
        ⟨old, returns⟩ | ⟨_, returns, _⟩ | ⟨_, new, visits, _⟩
      · rw [returns] at ends
        cases ends
        exact descended_of_mem old
      · rw [returns] at ends
        cases ends
      · rw [visits] at ends
        exact .of_references new (descended_of_visitEach (fun _ _ _ _ _ inner => ih inner) ends)

/-! ### The depth is enough -/

theorem exists_visitEach (holds : List RuleId → Prop)
    (answers : ∀ id ∈ ids, ∀ flattened before, holds flattened →
      ∃ result, visit id (flattened, before) = some result)
    (keeps : ∀ id flattened before done after,
      visit id (flattened, before) = some (.ok (done, after)) → holds flattened → holds done)
    (start : holds flattened) :
    ∃ result, visitEach visit ids (flattened, before) = some result := by
  induction ids generalizing flattened before with
  | nil => exact ⟨_, rfl⟩
  | cons id rest ih =>
      obtain ⟨here, others⟩ := List.forall_mem_cons.mp answers
      obtain ⟨first, visited⟩ := here flattened before start
      simp only [visitEach, visited]
      cases first with
      | error error => exact ⟨_, rfl⟩
      | ok next => exact ih others (keeps id flattened before _ _ visited start)

theorem exists_descend (bound : Finset RuleId)
    (closed : ∀ id ∈ bound, ∀ other ∈ grammar.references id, other ∈ bound) (member : id ∈ bound)
    (enough : (bound.filter (· ∉ flattened)).card < depth) :
    ∃ result, grammar.descend depth id (flattened, before) = some result := by
  induction depth generalizing id flattened before with
  | zero => exact absurd enough (Nat.not_lt_zero _)
  | succ depth ih =>
      rcases descend_cases grammar depth id flattened before with
        ⟨_, returns⟩ | ⟨_, returns, _⟩ | ⟨_, new, visits, _⟩
      · exact ⟨_, returns⟩
      · exact ⟨_, returns⟩
      · rw [visits]
        have fewer : (bound.filter (· ∉ id :: flattened)).card < depth := by
          have less := @card_missing_lt _ bound {other | other ∈ flattened}
            {other | other ∈ id :: flattened} _ _ (List.subset_cons_self id flattened) id member
            List.mem_cons_self new
          exact Nat.lt_of_lt_of_le less (Nat.le_of_lt_succ enough)
        apply exists_visitEach (fun done => (bound.filter (· ∉ done)).card < depth) _ _ fewer
        · exact fun other refers _ _ => ih (closed id member other refers)
        · intro other flattened before done after ends fewer
          refine Nat.lt_of_le_of_lt (Finset.card_le_card ?_) fewer
          exact Finset.monotone_filter_right _ fun _ _ missing old =>
            missing ((descended_of_descend ends).kept old)

/-! ### Flattening a grammar -/

theorem flatten_of_error {error : ValidationError}
    (failed : (grammar.validate root).1 = .error error) :
    (grammar.flatten root).1 = .error (.invalid error) := by
  rw [flatten, ← Prod.eta (grammar.validate root), failed]

theorem flatten_of_work (passed : (grammar.validate root).1 = .ok ())
    (found : grammar.get? root = some rule)
    (works : grammar.work [root] [] (begun rule) = .ok after) :
    (grammar.flatten root).1 = .ok after.flat := by
  have runs := (flattenRules_eq_work (enough_root grammar root)).trans works
  apply flatten_of_expand passed
  rw [expand, found]
  dsimp only
  rw [runs]
  rfl

theorem exists_descend_of_validate (passed : (grammar.validate root).1 = .ok ()) :
    ∃ rule done after, grammar.get? root = some rule ∧
      grammar.descend ((grammar.reachable root).size + 1) root ([], begun rule) =
        some (.ok (done, after)) ∧
      grammar.work [root] [] (begun rule) = .ok after := by
  obtain ⟨rule, found⟩ := Option.isSome_iff_exists.mp (get?_isSome_of_validate passed)
  obtain ⟨result, ends⟩ : ∃ result, grammar.descend ((grammar.reachable root).size + 1) root
      ([], begun rule) = some result := by
    apply exists_descend (grammar.reachable root).members.toFinset
    · intro id member other refers
      rw [List.mem_toFinset] at member ⊢
      exact closed_reachable id member other refers
    · exact List.mem_toFinset.mpr (mem_reachable.mpr .refl)
    · exact Nat.lt_succ_of_le
        ((Finset.card_filter_le _ _).trans (List.toFinset_card_le _))
  have agrees : grammar.work [root] [] (begun rule) = _ := work_descend ends
  obtain ⟨after, works⟩ : ∃ after, grammar.work [root] [] (begun rule) = .ok after := by
    apply exists_flattenRules fun id reached => validate_ok_iff.mp passed id reached .undefined
    intro id member
    rw [List.mem_singleton.mp member]
    exact .refl
  rw [works] at agrees
  cases result with
  | error error => cases agrees
  | ok last =>
      obtain ⟨done, last⟩ := last
      have same : Except.ok after = grammar.work [] done last := agrees
      rw [work_nil] at same
      cases same
      exact ⟨rule, done, after, found, ends, works⟩

/-- Flattening fails where validation does, with its error, and nowhere else. The searches of a
validation end; and if it passes, the descent from the root ends without an error, has flattened just
the rules within reach, each of them once, and they refer to no others at any depth. -/
theorem flatten_of_validate (grammar : Grammar) (root : RuleId) :
    grammar.SearchesEnd root ∧
    match (grammar.validate root).1 with
    | .error error => (grammar.flatten root).1 = .error (.invalid error)
    | .ok () => ∃ rule done after, grammar.get? root = some rule ∧
        grammar.descend ((grammar.reachable root).size + 1) root ([], begun rule) =
          some (.ok (done, after)) ∧
        (grammar.flatten root).1 = .ok after.flat ∧
        done.Nodup ∧ (∀ id, id ∈ done ↔ id ∈ grammar.reachable root) ∧
        ∀ id ∈ done, ∃ rule body, grammar.get? id = some rule ∧ rule.body = some body ∧
          ∀ other, Written (.subRule other) body → other ∈ done := by
  refine ⟨searchesEnd grammar root, ?_⟩
  cases validated : (grammar.validate root).1 with
  | error error => exact flatten_of_error validated
  | ok =>
      obtain ⟨rule, done, after, found, ends, works⟩ := exists_descend_of_validate validated
      have descended := descended_of_descend ends
      have reached (id : RuleId) : id ∈ done ↔ grammar.Reaches root id := by
        constructor
        · intro member
          obtain ⟨_, same, reached⟩ := descended.reached id member List.not_mem_nil
          rwa [List.mem_singleton.mp same] at reached
        · intro reached
          induction reached with
          | refl => exact descended.covered List.mem_cons_self
          | tail _ cites ih =>
              exact descended.closed _ ih List.not_mem_nil (mem_references_iff.mpr cites)
      refine ⟨rule, done, after, found, ends, flatten_of_work validated found works,
        descended.nodup List.nodup_nil, fun id => (reached id).trans mem_reachable.symm, ?_⟩
      intro id member
      obtain ⟨rule, body, found, defined, references⟩ := ((reached id).mp member).exists_rule
        fun other reachedOther => validate_ok_iff.mp validated other reachedOther .undefined
      exact ⟨rule, body, found, defined, fun other written =>
        (reached other).mpr (references other (mem_bodyReferences_iff.mpr written))⟩

end Grammar

end CanonicalLR
