import CanonicalLR.Grammar.Loop
import CanonicalLR.Proofs.Grammar.Validation

namespace CanonicalLR

section Pursuing

variable {next : RuleId → List RuleId} {goal : Option RuleId} {start stack : List RuleId}
  {seen : OrderedSet RuleId} {id : RuleId}

def LedTo (next : RuleId → List RuleId) (start : List RuleId) (id : RuleId) : Prop :=
  ∃ first ∈ start, Relation.ReflTransGen (fun key other => other ∈ next key) first id

/-- What holds of the handles gone through and those on the stack. -/
structure Pursuit (next : RuleId → List RuleId) (goal : Option RuleId) (start : List RuleId)
    (seen : OrderedSet RuleId) (stack : List RuleId) : Prop where
  begun : ∀ id ∈ start, id ∈ seen ∨ id ∈ stack
  closed : ∀ id ∈ seen, ∀ other ∈ next id, other ∈ seen ∨ other ∈ stack
  ledTo : ∀ id, id ∈ seen ∨ id ∈ stack → LedTo next start id
  missed : ∀ id ∈ seen, goal ≠ some id

theorem pursuit_start (next : RuleId → List RuleId) (goal : Option RuleId) (start : List RuleId) :
    Pursuit next goal start .empty start where
  begun _ member := .inr member
  closed id member := absurd member (OrderedSet.not_mem_empty id)
  ledTo id waits := ⟨id, waits.resolve_left (OrderedSet.not_mem_empty id), .refl⟩
  missed id member := absurd member (OrderedSet.not_mem_empty id)

theorem Pursuit.skip (pursuit : Pursuit next goal start seen (id :: stack)) (old : id ∈ seen) :
    Pursuit next goal start seen stack := by
  have known {other : RuleId} (waits : other ∈ seen ∨ other ∈ id :: stack) :
      other ∈ seen ∨ other ∈ stack := by
    rcases waits with seen | waits
    · exact .inl seen
    · rcases List.mem_cons.mp waits with rfl | later
      · exact .inl old
      · exact .inr later
  exact ⟨fun first member => known (pursuit.begun first member),
    fun key member other leads => known (pursuit.closed key member other leads),
    fun key waits => pursuit.ledTo key (waits.imp_right (List.mem_cons_of_mem id)),
    pursuit.missed⟩

theorem Pursuit.follow (pursuit : Pursuit next goal start seen (id :: stack))
    (misses : goal ≠ some id) :
    Pursuit next goal start (seen.insert id) ((next id).reverse ++ stack) := by
  have known {other : RuleId} (waits : other ∈ seen ∨ other ∈ id :: stack) :
      other ∈ seen.insert id ∨ other ∈ (next id).reverse ++ stack := by
    rcases waits with seen | waits
    · exact .inl (OrderedSet.mem_insert.mpr (.inr seen))
    · rcases List.mem_cons.mp waits with rfl | later
      · exact .inl (OrderedSet.mem_insert.mpr (.inl rfl))
      · exact .inr (List.mem_append_right _ later)
  refine ⟨fun first member => known (pursuit.begun first member), ?_, ?_, ?_⟩
  · intro key member other leads
    rcases OrderedSet.mem_insert.mp member with rfl | old
    · exact .inr (List.mem_append_left _ (List.mem_reverse.mpr leads))
    · exact known (pursuit.closed key old other leads)
  · have here := pursuit.ledTo id (.inr List.mem_cons_self)
    rintro key (member | waits)
    · rcases OrderedSet.mem_insert.mp member with rfl | old
      · exact here
      · exact pursuit.ledTo key (.inl old)
    · rcases List.mem_append.mp waits with new | later
      · obtain ⟨first, listed, path⟩ := here
        exact ⟨first, listed, path.tail (List.mem_reverse.mp new)⟩
      · exact pursuit.ledTo key (.inr (List.mem_cons_of_mem id later))
  · intro key member
    rcases OrderedSet.mem_insert.mp member with rfl | old
    · exact misses
    · exact pursuit.missed key old

theorem Pursuit.mem_iff (pursuit : Pursuit next goal start seen []) :
    id ∈ seen ↔ LedTo next start id := by
  refine ⟨fun member => pursuit.ledTo id (.inl member), ?_⟩
  rintro ⟨first, listed, path⟩
  induction path with
  | refl => exact (pursuit.begun first listed).resolve_right List.not_mem_nil
  | tail _ leads ih => exact (pursuit.closed _ ih _ leads).resolve_right List.not_mem_nil

theorem Pursuit.exists_pursue (bound : Finset RuleId)
    (within : ∀ id, LedTo next start id → id ∈ bound)
    (pursuit : Pursuit next goal start seen stack) :
    ∃ turns found met, pursue next goal turns seen stack = some (found, met) ∧
      (met = true ∧ (∃ id, goal = some id ∧ LedTo next start id) ∨
        met = false ∧ Pursuit next goal start found []) := by
  -- A turn goes through a new handle or takes one off the stack, whose handles are all known then.
  induction count : (bound.filter (· ∉ seen)).card using Nat.strongRecOn
    generalizing seen stack with
  | _ missing ih =>
      induction stack with
      | nil => exact ⟨0, seen, false, rfl, .inr ⟨rfl, pursuit⟩⟩
      | cons id stack ihStack =>
          have here := pursuit.ledTo id (.inr List.mem_cons_self)
          by_cases meets : goal = some id
          · exact ⟨1, seen, true, if_pos meets, .inl ⟨rfl, id, meets, here⟩⟩
          by_cases old : id ∈ seen
          · obtain ⟨turns, found, met, ends, outcome⟩ := ihStack (pursuit.skip old)
            refine ⟨turns + 1, found, met, ?_, outcome⟩
            rw [pursue, if_neg meets, if_pos old]
            exact ends
          · have fewer : (bound.filter (· ∉ seen.insert id)).card < missing := by
              rw [← count]
              apply @card_missing_lt _ bound {key | key ∈ seen} {key | key ∈ seen.insert id} _ _ _
                id (within id here) _ old
              · exact fun key member => OrderedSet.mem_insert.mpr (.inr member)
              · exact OrderedSet.mem_insert.mpr (.inl rfl)
            obtain ⟨turns, found, met, ends, outcome⟩ := ih _ fewer (pursuit.follow meets) rfl
            refine ⟨turns + 1, found, met, ?_, outcome⟩
            rw [pursue, if_neg meets, if_neg old]
            exact ends

end Pursuing

namespace Grammar

variable {grammar : Grammar} {root id : RuleId} {ids known : OrderedSet RuleId}
  {rules : List RuleId}

theorem exists_pursue_reachable (grammar : Grammar) (root : RuleId) :
    ∃ turns, pursue grammar.references none turns .empty [root] =
      some (grammar.reachable root, false) := by
  have reaches {id : RuleId} : LedTo grammar.references [root] id ↔ grammar.Reaches root id := by
    simp only [LedTo, List.mem_singleton, exists_eq_left, mem_references_iff]
    rfl
  obtain ⟨turns, found, met, ends, ⟨_, _, ⟨⟩, _⟩ | ⟨rfl, pursuit⟩⟩ :=
    (pursuit_start grammar.references none [root]).exists_pursue
      (grammar.reachable root).members.toFinset
      fun id led => List.mem_toFinset.mpr (mem_reachable.mpr (reaches.mp led))
  have same : found = grammar.reachable root := by
    apply OrderedSet.ext
    intro id
    rw [pursuit.mem_iff, reaches, mem_reachable]
  rw [same] at ends
  exact ⟨turns, ends⟩

theorem exists_pursue_unitEdges (reached : id ∈ grammar.reachable root) :
    ∃ turns found,
      pursue (grammar.unitEdges (grammar.nullableRules (grammar.reachable root))) (some id) turns
          .empty (grammar.unitEdges (grammar.nullableRules (grammar.reachable root)) id).reverse =
        some (found, grammar.derivesItself (grammar.reachable root)
          (grammar.nullableRules (grammar.reachable root)) id) := by
  have cycles := derivesItself_iff_exists_path reached
  have closed := @closed_unitTargets grammar root
  generalize grammar.nullableRules (grammar.reachable root) = nullable at cycles closed ⊢
  have led {other : RuleId} :
      LedTo (grammar.unitEdges nullable) (grammar.unitEdges nullable id).reverse other ↔
        ∃ first ∈ grammar.unitTargets nullable id, Relation.ReflTransGen
          (fun key other => other ∈ grammar.unitTargets nullable key) first other := by
    simp only [LedTo, unitEdges, List.mem_reverse, OrderedSet.mem_members, OrderedSet.mem_ofList]
  have inReach (other : RuleId) (leads : LedTo (grammar.unitEdges nullable)
      (grammar.unitEdges nullable id).reverse other) : other ∈ grammar.reachable root := by
    obtain ⟨first, target, path⟩ := led.mp leads
    clear leads
    induction path with
    | refl => exact closed id reached first target
    | tail _ target ih => exact closed _ ih _ target
  obtain ⟨turns, found, met, ends, outcome⟩ :=
    (pursuit_start (grammar.unitEdges nullable) (some id) _).exists_pursue
      (grammar.reachable root).members.toFinset
      fun other leads => List.mem_toFinset.mpr (inReach other leads)
  have same : met = grammar.derivesItself (grammar.reachable root) nullable id := by
    rw [Bool.eq_iff_iff, cycles, ← led]
    rcases outcome with ⟨rfl, _, ⟨⟩, leads⟩ | ⟨rfl, pursuit⟩
    · exact iff_of_true rfl leads
    · refine iff_of_false Bool.false_ne_true fun leads => ?_
      exact pursuit.missed id (pursuit.mem_iff.mpr leads) rfl
  rw [same] at ends
  exact ⟨turns, found, ends⟩

/-! ### Rounds over the rules -/

theorem nullableRound_fst (rules : List RuleId) (known : OrderedSet RuleId) :
    (grammar.nullableRound rules known).1 = rules.foldl grammar.noteNullable known := by
  induction rules generalizing known with
  | nil => rfl
  | cons id rest ih =>
      rw [List.foldl_cons, ← ih, nullableRound, noteNullable]
      cases grammar.bodyOf? id with
      | none => rfl
      | some body =>
          dsimp only
          by_cases nullable : bodyNullable (· ∈ known) body = true
          · by_cases old : id ∈ known
            · have same : known.insert id = known :=
                OrderedSet.ext fun other => by
                  rw [OrderedSet.mem_insert]
                  exact or_iff_right_of_imp fun equal => equal ▸ old
              rw [if_neg fun both => both.1 old, if_pos nullable, same]
            · rw [if_pos ⟨old, nullable⟩, if_pos nullable]
          · rw [if_neg fun both => nullable both.2, if_neg nullable]

theorem nullableRound_snd (rules : List RuleId) (known : OrderedSet RuleId) :
    ((grammar.nullableRound rules known).2 = true →
      ∃ id ∈ (grammar.nullableRound rules known).1, id ∉ known) ∧
    ((grammar.nullableRound rules known).2 = false →
      (grammar.nullableRound rules known).1 = known) := by
  induction rules generalizing known with
  | nil => exact ⟨nofun, fun _ => rfl⟩
  | cons id rest ih =>
      rw [nullableRound]
      cases grammar.bodyOf? id with
      | none => exact ih known
      | some body =>
          dsimp only
          split
          · rename_i new
            refine ⟨fun _ => ⟨id, ?_, new.1⟩, nofun⟩
            rw [nullableRound_fst]
            exact subset_foldl subset_noteNullable rest _ (OrderedSet.mem_insert.mpr (.inl rfl))
          · exact ih known

theorem exists_repeatWhile_nullableRound (grammar : Grammar) (ids : OrderedSet RuleId) :
    ∃ rounds, repeatWhile (grammar.nullableRound ids.members) rounds .empty =
      some (grammar.nullableRules ids) := by
  let grow (known : OrderedSet RuleId) := ids.members.foldl grammar.noteNullable known
  have round (known : OrderedSet RuleId) :
      (grammar.nullableRound ids.members known).1 = grow known := nullableRound_fst _ _
  have within {known : OrderedSet RuleId} (listed : ∀ id ∈ known, id ∈ ids) :
      ∀ id ∈ grow known, id ∈ ids :=
    fun id member => (mem_round member).elim (listed id) fun new => new
  obtain ⟨rounds, before, ended, ⟨_, count, rfl⟩, still⟩ :=
    exists_repeatWhile (grammar.nullableRound ids.members)
      (fun known => (∀ id ∈ known, id ∈ ids) ∧ ∃ count, known = grow^[count] .empty)
      (fun known => (ids.members.toFinset.filter (· ∉ known)).card)
      (by
        rintro _ ⟨listed, count, rfl⟩
        rw [round]
        exact ⟨within listed, count + 1, by rw [Function.iterate_succ_apply']⟩)
      (by
        rintro known ⟨listed, _⟩ changed
        obtain ⟨id, found, new⟩ := (nullableRound_snd _ _).1 changed
        rw [round] at found ⊢
        exact @card_missing_lt _ ids.members.toFinset {key | key ∈ known} {key | key ∈ grow known}
          _ _ (subset_foldl subset_noteNullable _ _) id
          (List.mem_toFinset.mpr (within listed id found)) found new)
      ⟨fun id member => absurd member (OrderedSet.not_mem_empty id), 0, rfl⟩
  refine ⟨rounds, ended.trans (congrArg some ?_)⟩
  -- Both the loop and the definition end with an iterate of the round that it leaves as it is.
  have restHere := (nullableRound_snd _ _).2 still
  rw [restHere]
  rw [round] at restHere
  obtain ⟨total, defined⟩ := exists_settle_eq_iterate grow (ids.size + 1) .empty
  have restThere := round_nullableRules grammar ids
  rw [nullableRules_eq, defined] at restThere
  rw [nullableRules_eq, defined]
  exact iterate_eq_of_rest restHere restThere

/-- The searches of a validation, as loops, end with what validation goes on with. -/
structure SearchesEnd (grammar : Grammar) (root : RuleId) : Prop where
  reachable : ∃ turns, pursue grammar.references none turns .empty [root] =
    some (grammar.reachable root, false)
  nullable : ∃ rounds,
    repeatWhile (grammar.nullableRound (grammar.reachable root).members) rounds .empty =
      some (grammar.nullableRules (grammar.reachable root))
  unitCycle : ∀ id ∈ grammar.reachable root, ∃ turns found,
    pursue (grammar.unitEdges (grammar.nullableRules (grammar.reachable root))) (some id) turns
        .empty (grammar.unitEdges (grammar.nullableRules (grammar.reachable root)) id).reverse =
      some (found, grammar.derivesItself (grammar.reachable root)
        (grammar.nullableRules (grammar.reachable root)) id)

theorem searchesEnd (grammar : Grammar) (root : RuleId) : grammar.SearchesEnd root :=
  ⟨exists_pursue_reachable grammar root,
    exists_repeatWhile_nullableRound grammar (grammar.reachable root),
    fun _ => exists_pursue_unitEdges⟩

end Grammar

end CanonicalLR
