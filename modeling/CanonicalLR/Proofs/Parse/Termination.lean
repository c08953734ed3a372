import CanonicalLR.Proofs.Parse.Simulation
import CanonicalLR.Proofs.Table.Built

/-!
Runs of the engine end if the table has no conflicts. A reduction on a token needs an item with the
token as a lookahead, and `settles_of_item` follows what justified the lookahead: the reductions on
the token come to what the lookahead was found in the first set of, and the token is shifted there,
or they come to the start and the run ends.
-/

namespace CanonicalLR

namespace Table
open FlatGrammar ItemSystem

variable {mode : Mode} {vocabulary : Vocabulary} {grammar : FlatGrammar} {root : Nat}
  {path : List Symbol} {states : List Nat} {trees : List Tree} {core : Core} {token : Token}

def OnTrail (grammar : FlatGrammar) (configuration : Configuration) : Prop :=
  ∃ path, grammar.Trail path configuration.states ∧ configuration.trees.length = path.length

def Settles (mode : Mode) (table : Table) (grammar : FlatGrammar) (configuration : Configuration) :
    Prop :=
  Ends mode table configuration ∨ ∃ later, Reaches mode table configuration later ∧
    OnTrail grammar later ∧ later.rest.length < configuration.rest.length

theorem Settles.of_reaches {table : Table} {before after : Configuration}
    (reaches : Reaches mode table before after) (same : after.rest = before.rest)
    (settles : Settles mode table grammar after) : Settles mode table grammar before := by
  rcases settles with ends | ⟨later, further, trail, fewer⟩
  · exact .inl (ends.of_reaches reaches)
  · refine .inr ⟨later, reaches.trans further, trail, ?_⟩
    rw [← same]
    exact fewer

theorem settles_of_begins (rest : List Token) (errors : List SyntaxError)
    (augmented : grammar.Augmented root) (free : (canonical vocabulary grammar).conflicts = []) {symbols : List Symbol}
    {terminal : Terminal} (begins : grammar.Begins symbols terminal)
    (kind : token.kind = terminal) (trail : grammar.Trail path states)
    (length : trees.length = path.length) (valid : grammar.ValidCore path core)
    (remains : (ofGrammar grammar).remaining core = symbols) :
    Settles mode (canonical vocabulary grammar) grammar ⟨states, trees, token :: rest, errors⟩ := by
  induction begins generalizing path states trees core with
  | terminal terminal after =>
      subst kind
      obtain ⟨state, below, rfl⟩ := nonempty_of_trail trail
      obtain ⟨target, leads, further⟩ := trail.exists_move valid remains
      have acts := action?_of_claims free trail (.shift valid remains leads)
      refine .inr ⟨_, .single (step_shift mode below trees rest errors acts), ⟨_, further, ?_⟩,
        Nat.lt_succ_self _⟩
      exact congrArg Nat.succ length
  | @nonterminal number production after terminal produces _ ih =>
      -- The item that begins here begins with the token too, so nothing has to happen yet.
      obtain ⟨index, found, predicts⟩ := produces.predicts remains
      exact ih kind trail length (.begun valid predicts)
        (remaining_of_production ⟨index, 0⟩ found)
  | @skip number after terminal vanishes tail ih =>
      obtain ⟨forest, derives, leaves⟩ := vanishes
      have follows : grammar.MayFollow path core after token.kind := by
        rw [kind]
        exact .inl tail
      have simulated := simulate mode rest errors augmented free
        derives trail length valid remains follows
      rw [leaves, List.nil_append] at simulated
      rcases simulated with ⟨above, trailAbove, _, reaches⟩ | ⟨_, accepts⟩
      · apply Settles.of_reaches reaches rfl
        apply ih kind trailAbove _ (valid.moved remains) (remaining_next remains)
        rw [List.length_append, List.length_reverse, derives.length_eq, List.length_append,
          List.length_reverse, length]
      · exact .inl accepts.ends

theorem reduces_begun (mode : Mode) (rest : List Token) (errors : List SyntaxError)
    (augmented : grammar.Augmented root)
    (free : (canonical vocabulary grammar).conflicts = []) {begun : Core} {after : List Symbol}
    (valid : grammar.ValidItem path begun token.kind)
    (predicts : (ofGrammar grammar).Predicts core begun after)
    (trail : grammar.Trail (((ofGrammar grammar).remaining begun).reverse ++ path) states)
    (length : trees.length = (((ofGrammar grammar).remaining begun).reverse ++ path).length) :
    Ends mode (canonical vocabulary grammar) ⟨states, trees, token :: rest, errors⟩ ∨
    ∃ number below lower, (ofGrammar grammar).remaining core = .nonterminal number :: after ∧
      grammar.Trail (.nonterminal number :: path) below ∧ lower.length = path.length + 1 ∧
      Reaches mode (canonical vocabulary grammar) ⟨states, trees, token :: rest, errors⟩
        ⟨below, lower, token :: rest, errors⟩ := by
  obtain ⟨number, production, remains, found, produces⟩ := predicts.exists_production
  have body : (ofGrammar grammar).remaining begun = production.body :=
    predicts.remaining_begun found
  obtain ⟨moved, same, complete, further⟩ := valid.advance (List.append_nil _).symm
  have foundMoved : grammar.productions[moved.production]? = some production := by
    rw [same]
    exact found
  rw [body] at trail length further
  rcases step_completion mode rest errors augmented free trail
    length foundMoved complete further with ⟨_, other, target, reduced, stepped⟩ | ⟨_, halts⟩
  · obtain rfl := HasProduction.unique produces reduced.produces
    refine .inr ⟨number, _, _, remains, reduced.trail_below, ?_, .single stepped⟩
    rw [List.length_cons, List.length_drop, length, List.length_append, List.length_reverse,
      Nat.add_sub_cancel_left]
  · exact .inl (.of_halt halts)

theorem expected_next {symbol : Symbol} {after : List Symbol}
    (remains : (ofGrammar grammar).remaining core = symbol :: after) :
    ((ofGrammar grammar).remaining core).reverse ++ path =
      ((ofGrammar grammar).remaining core.next).reverse ++ symbol :: path := by
  rw [remaining_next remains, remains, List.reverse_cons, List.append_assoc]
  rfl

theorem settles_of_item (rest : List Token) (errors : List SyntaxError)
    (augmented : grammar.Augmented root) (free : (canonical vocabulary grammar).conflicts = []) {terminal : Terminal}
    (valid : grammar.ValidItem path core terminal) (kind : token.kind = terminal)
    (trail : grammar.Trail (((ofGrammar grammar).remaining core).reverse ++ path) states)
    (length : trees.length = (((ofGrammar grammar).remaining core).reverse ++ path).length) :
    Settles mode (canonical vocabulary grammar) grammar ⟨states, trees, token :: rest, errors⟩ := by
  -- A cycle of reductions would need a cycle in what justified the lookahead.
  induction valid generalizing states trees with
  | start =>
      obtain ⟨moved, same, complete, further⟩ := ValidItem.start.advance (List.append_nil _).symm
      have found : grammar.productions[moved.production]? =
          some ⟨Rule.startName, [.nonterminal root]⟩ := by
        rw [same]
        exact augmented.start
      rw [← kind] at further
      rcases step_completion mode rest errors augmented free trail
        length found complete further with ⟨other, _⟩ | ⟨_, halts⟩
      · exact absurd rfl other
      · exact .inl (.of_halt halts)
  | @first path after core begun terminal valid predicts begins =>
      have item : grammar.ValidItem path begun token.kind := by
        rw [kind]
        exact .first valid predicts begins
      rcases reduces_begun mode rest errors augmented free item
        predicts trail length with
        ends | ⟨number, below, lower, remains, trailBelow, longer, reaches⟩
      · exact .inl ends
      · apply Settles.of_reaches reaches rfl
        exact settles_of_begins rest errors augmented free begins kind trailBelow longer
          (valid.moved remains) (remaining_next remains)
  | @inherited path after core begun terminal valid predicts vanishes ih =>
      have item : grammar.ValidItem path begun token.kind := by
        rw [kind]
        exact .inherited valid predicts vanishes
      rcases reduces_begun mode rest errors augmented free item
        predicts trail length with
        ends | ⟨number, below, lower, remains, trailBelow, longer, reaches⟩
      · exact .inl ends
      · apply Settles.of_reaches reaches rfl
        obtain ⟨forest, derives, leaves⟩ := vanishes
        have follows : grammar.MayFollow (.nonterminal number :: path) core.next [] token.kind := by
          rw [kind]
          exact .inr ⟨vanishes_nil, valid.moved remains⟩
        have left : (ofGrammar grammar).remaining core.next = after ++ [] := by
          rw [List.append_nil]
          exact remaining_next remains
        have simulated := simulate mode rest errors augmented
          free derives trailBelow longer (valid.moved remains).validCore left follows
        rw [leaves, List.nil_append] at simulated
        rcases simulated with ⟨above, trailAbove, _, reaches⟩ | ⟨_, accepts⟩
        · apply Settles.of_reaches reaches rfl
          apply ih kind
          · rw [expected_next remains, remaining_next remains]
            exact trailAbove
          · rw [expected_next remains, remaining_next remains, List.length_append,
              List.length_append, List.length_reverse, List.length_reverse, derives.length_eq,
              longer]
            rfl
        · exact .inl accepts.ends
  | @moved path after core symbol terminal valid remains ih =>
      rw [← expected_next remains] at trail length
      exact ih kind trail length

theorem settles_of_onTrail (augmented : grammar.Augmented root)
    (free : (canonical vocabulary grammar).conflicts = []) {configuration : Configuration}
    (onTrail : OnTrail grammar configuration) :
    Settles mode (canonical vocabulary grammar) grammar configuration := by
  obtain ⟨path, trail, length⟩ := onTrail
  obtain ⟨states, trees, tokens, errors⟩ := configuration
  obtain ⟨state, below, rfl⟩ := nonempty_of_trail trail
  cases tokens with
  | nil => exact .inl (.of_halt rfl)
  | cons token rest =>
      cases acts : (canonical vocabulary grammar).action? state token.kind with
      | none =>
          cases mode with
          | probe => exact .inl (.of_halt (by simp only [step, acts]; rfl))
          | recover =>
              cases stepped : step .recover (canonical vocabulary grammar)
                  ⟨state :: below, trees, token :: rest, errors⟩ with
              | halt last reason => exact .inl (.of_halt stepped)
              | next after =>
                  obtain rfl := step_recover acts stepped
                  refine .inr ⟨_, .single stepped, ⟨path, trail, length⟩, ?_⟩
                  exact Nat.lt_succ_of_le (List.dropWhile_sublist _).length_le
      | some action =>
          have claims := claims_of_action? trail acts
          cases claims with
          | shift valid remains leads =>
              refine .inr ⟨_, .single (step_shift mode below trees rest errors acts),
                ⟨_, trail.move leads, ?_⟩, Nat.lt_succ_self _⟩
              exact congrArg Nat.succ length
          | completion found complete valid =>
              apply settles_of_item rest errors augmented free valid rfl
              · rw [complete]
                exact trail
              · rw [complete]
                exact length

theorem ends_of_onTrail (augmented : grammar.Augmented root)
    (free : (canonical vocabulary grammar).conflicts = []) {configuration : Configuration}
    (onTrail : OnTrail grammar configuration) :
    Ends mode (canonical vocabulary grammar) configuration := by
  induction tokens : configuration.rest.length using Nat.strong_induction_on
    generalizing configuration with
  | _ count ih =>
      rcases settles_of_onTrail augmented free onTrail with ends | ⟨later, reaches, trail, fewer⟩
      · exact ends
      · exact (ih _ (tokens ▸ fewer) trail rfl).of_reaches reaches

theorem Built.ends {table : Table} {rule : Rule} {start : Nat}
    (built : Built vocabulary table rule start) (free : table.conflicts = []) (mode : Mode)
    (tokens : List Token) : Ends mode table (.start tokens) := by
  have canonical := built.canonical
  rw [canonical] at free ⊢
  exact ends_of_onTrail built.augmented free ⟨[], .start, rfl⟩

/-- Without conflicts every run ends, whatever the tokens are: parsing and suggesting have answers. -/
theorem terminates {source : Grammar} {id : RuleId} {table : Table}
    (constructed : source.Constructed) (ok : (build vocabulary source id).1 = .ok table)
    (free : table.conflicts = []) (tokens : List Token) :
    (∀ mode, ∃ steps outcome, run mode table steps (.start tokens) = some outcome) ∧
      (∃ steps answer, table.parse steps tokens = some answer) ∧
      ∃ steps answer, table.suggest steps tokens = some answer := by
  obtain ⟨rule, start, _, built⟩ := built_of_build constructed ok
  refine ⟨fun mode => built.ends free mode tokens, ?_, ?_⟩
  · obtain ⟨steps, outcome, last⟩ := built.ends free .recover tokens
    exact ⟨steps, _, by rw [parse, last]; rfl⟩
  · obtain ⟨steps, outcome, last⟩ := built.ends free .probe (dropEof tokens)
    exact ⟨steps, _, by rw [suggest, last]; rfl⟩

theorem terminates_itemList :
    Grammar.itemList.Constructed ∧ (build {} Grammar.itemList 0).1 = .ok itemListTable ∧
      itemListTable.conflicts = [] ∧ ∀ tokens : List Token,
        (∀ mode, ∃ steps outcome, run mode itemListTable steps (.start tokens) = some outcome) ∧
          (∃ steps answer, itemListTable.parse steps tokens = some answer) ∧
          ∃ steps answer, itemListTable.suggest steps tokens = some answer :=
  ⟨Grammar.constructed_itemList, build_itemList, conflicts_itemListTable,
    terminates Grammar.constructed_itemList build_itemList conflicts_itemListTable⟩

end Table

end CanonicalLR
