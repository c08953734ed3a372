import CanonicalLR.Proofs.Flat.Reachable
import CanonicalLR.Proofs.Parse.Termination
import CanonicalLR.Proofs.Parse.Turns
import CanonicalLR.Lexical.Lexer

namespace CanonicalLR

namespace Table
open FlatGrammar ItemSystem

/-- The symbol that a tree on the stack stands for. -/
def symbolOf? (table : Table) : Tree → Option Symbol
  | .leaf token => some (.terminal token.kind)
  | .node name _ => (table.nonterminalIndex? name).map .nonterminal

variable {mode : Mode} {vocabulary : Vocabulary} {grammar : FlatGrammar} {root : Nat}
  {path symbols : List Symbol} {trees : List Tree} {configuration : Configuration}

theorem map_symbolOf? (vocabulary : Vocabulary) (augmented : grammar.Augmented root)
    (derives : grammar.Derives symbols trees) :
    trees.map (canonical vocabulary grammar).symbolOf? = symbols.map some := by
  induction derives with
  | nil => rfl
  | terminal token _ ih => rw [List.map_cons, List.map_cons, ih, symbolOf?]
  | nonterminal produces _ _ _ ih =>
      have numbered := produces.2
      rw [augmented.head] at numbered
      rw [List.map_cons, List.map_cons, ih, symbolOf?, nonterminalIndex?]
      exact congrArg (· :: _) (congrArg (Option.map Symbol.nonterminal) numbered)

theorem Sound.spells (vocabulary : Vocabulary) (augmented : grammar.Augmented root)
    (sound : Sound grammar path configuration) :
    configuration.trees.map (canonical vocabulary grammar).symbolOf? = path.map some := by
  have spelled := map_symbolOf? vocabulary augmented sound.derives
  rw [List.map_reverse, List.map_reverse] at spelled
  exact List.reverse_injective spelled

theorem Turn.ne_failed {table : Table} {result : Step}
    (turn : Turn mode table configuration result) (last : Configuration) (error : ParseError) :
    result ≠ .halt last (.failed error) := by
  rintro rfl
  cases turn

/-! ### The end mark -/

theorem Turn.keeps_last {table : Table} {after : Configuration} {last : Token}
    (turn : Turn mode table configuration (.next after))
    (unshifted : ∀ target, table.nextAction? configuration = some (.shift target) →
      configuration.rest ≠ [last])
    (ends : configuration.rest.getLast? = some last) : after.rest.getLast? = some last := by
  cases turn with
  | @shift target token rest acts split =>
      rw [split] at ends
      cases rest with
      | nil =>
          cases ends
          exact absurd split (unshifted target acts)
      | cons next rest => rwa [List.getLast?_cons_cons] at ends
  | reduce _ rest _ _ _ => rwa [rest]
  | skip _ _ split _ =>
      rw [split, List.getLast?_append, List.getLast?_cons, Option.some_or] at ends
      rw [List.getLast?_cons]
      exact ends

variable {source : Grammar} {id : RuleId} {table : Table}

theorem mentions_of_shift (constructed : source.Constructed)
    (ok : (build vocabulary source id).1 = .ok table) {state target : Nat} {below : List Nat}
    {terminal : Terminal} (trail : table.grammar.Trail path (state :: below))
    (acts : table.action? state terminal = some (.shift target)) :
    source.Mentions id terminal := by
  have apart := constructed.namesApart
  obtain ⟨expansion, start, all, rule, rfl, invariant, rootIn, found, numbered⟩ :=
    flattened_of_build constructed ok
  rw [grammar_canonical] at trail
  have hereditary := invariant.hereditary_leads apart rootIn found numbered
  have claims := claims_of_action? trail acts
  generalize chosen : Action.shift target = action at claims
  cases claims with
  | completion _ _ _ => exact absurd chosen.symm completion_ne_shift
  | shift valid remains leads =>
      have leadsTo := hereditary.validCore (invariant.augmented apart)
        (.rule .refl found numbered) valid (.terminal terminal)
      rw [remains] at leadsTo
      cases leadsTo List.mem_cons_self with
      | terminal mentioned => exact mentioned

theorem getLast?_of_reaches (constructed : source.Constructed)
    (ok : (build vocabulary source id).1 = .ok table)
    (unmentioned : ¬ source.Mentions id Terminal.eof) {tokens : List Token} {eof : Token}
    (ends : tokens.getLast? = some eof) (atEnd : eof.isEof = true)
    (reaches : Reaches mode table (.start tokens) configuration) :
    configuration.rest.getLast? = some eof := by
  obtain ⟨rule, start, _, built⟩ := built_of_build constructed ok
  induction reaches with
  | refl => exact ends
  | @tail between _ earlier stepped ih =>
      obtain ⟨path, sound, turn⟩ := built.reached earlier
      rw [stepped] at turn
      refine turn.keeps_last ?_ ih
      -- To lose the end mark a step would have to shift it, so some rule would mention it.
      intro target acts single
      obtain ⟨state, below, top⟩ := nonempty_of_trail sound.trail
      have trail := sound.trail
      rw [top] at trail
      rw [nextAction?, top, single] at acts
      have mentioned := mentions_of_shift constructed ok trail acts
      rw [eq_of_beq atEnd] at mentioned
      exact unmentioned mentioned

theorem parse_error (constructed : source.Constructed)
    (ok : (build vocabulary source id).1 = .ok table) {tokens : List Token} {steps : Nat}
    {error : ParseError} (answers : table.parse steps tokens = some (.error error)) :
    (∃ index, error = .inputExhausted index tokens.length) ∧
      (¬ source.Mentions id Terminal.eof → ¬ ∃ eof, tokens.getLast? = some eof ∧ eof.isEof) := by
  obtain ⟨rule, start, _, built⟩ := built_of_build constructed ok
  obtain ⟨⟨last, reason⟩, ran, answer⟩ := Option.map_eq_some_iff.mp answers
  obtain ⟨before, reached, halts⟩ := exists_halt_of_run ran
  obtain ⟨path, sound, turn⟩ := built.reached reached
  rw [halts] at turn
  cases turn with
  | accept _ => cases answer
  | lost _ _ => cases answer
  | probed _ _ => cases answer
  | exhausted _ empty =>
      cases answer
      refine ⟨⟨_, rfl⟩, ?_⟩
      rintro unmentioned ⟨eof, ends, atEnd⟩
      have still := getLast?_of_reaches constructed ok unmentioned ends atEnd reached
      rw [empty] at still
      cases still

theorem suggest_ok (constructed : source.Constructed)
    (ok : (build vocabulary source id).1 = .ok table) {tokens : List Token} {steps : Nat}
    {answer : Except ParseError Suggestion} (answers : table.suggest steps tokens = some answer) :
    ∃ suggestion, answer = .ok suggestion := by
  obtain ⟨rule, start, _, built⟩ := built_of_build constructed ok
  obtain ⟨⟨last, reason⟩, ran, rfl⟩ := Option.map_eq_some_iff.mp answers
  obtain ⟨before, reached, halts⟩ := exists_halt_of_run ran
  obtain ⟨path, sound, turn⟩ := built.reached reached
  cases reason with
  | failed error => exact absurd halts (turn.ne_failed last error)
  | _ => exact ⟨_, rfl⟩

theorem getLast?_tokenize {lexer : Lexer} {text : String}
    (accepted : (lexer.tokenize text).errors = []) :
    ∃ eof, (lexer.tokenize text).tokens.getLast? = some eof ∧ eof.isEof := by
  simp only [Lexer.tokenize] at accepted ⊢
  split at accepted
  · exact ⟨_, List.getLast?_concat, rfl⟩
  · cases accepted

/-- A table that was built is consistent in itself: the states of a run are always a trail that
spells the trees, and no look-up fails. Without mentions of the end of the input, every text that a
lexer accepts has a result. -/
theorem consistent (constructed : source.Constructed)
    (ok : (build vocabulary source id).1 = .ok table) :
    (∀ mode tokens configuration, Reaches mode table (.start tokens) configuration →
      (∃ path, table.grammar.Trail path configuration.states ∧
        configuration.trees.map table.symbolOf? = path.map some) ∧
      ∀ last error, step mode table configuration ≠ .halt last (.failed error)) ∧
    (∀ tokens steps error, table.parse steps tokens = some (.error error) →
      ∃ index, error = .inputExhausted index tokens.length) ∧
    (∀ tokens steps answer, table.suggest steps tokens = some answer →
      ∃ suggestion, answer = .ok suggestion) ∧
    (¬ source.Mentions id Terminal.eof →
      (∀ tokens eof, tokens.getLast? = some eof → eof.isEof = true →
        ∀ steps answer, table.parse steps tokens = some answer → ∃ result, answer = .ok result) ∧
      ∀ (lexer : Lexer) (text : String), (lexer.tokenize text).errors = [] →
        (∀ steps answer, table.parse steps (lexer.tokenize text).tokens = some answer →
          ∃ result, answer = .ok result) ∧
        (table.conflicts = [] → ∃ steps result,
          table.parse steps (lexer.tokenize text).tokens = some (.ok result))) := by
  obtain ⟨rule, start, _, built⟩ := built_of_build constructed ok
  have succeeds {tokens : List Token} {eof : Token} {steps : Nat}
      {answer : Except ParseError ParseResult} (unmentioned : ¬ source.Mentions id Terminal.eof)
      (ends : tokens.getLast? = some eof) (atEnd : eof.isEof = true)
      (answers : table.parse steps tokens = some answer) : ∃ result, answer = .ok result := by
    cases answer with
    | ok result => exact ⟨result, rfl⟩
    | error error =>
        have lacks := (parse_error constructed ok answers).2 unmentioned
        exact absurd ⟨eof, ends, atEnd⟩ lacks
  refine ⟨?_, ?_, ?_, ?_⟩
  · intro mode tokens configuration reached
    obtain ⟨path, sound, turn⟩ := built.reached reached
    refine ⟨⟨path, sound.trail, ?_⟩, turn.ne_failed⟩
    rw [built.canonical]
    exact sound.spells vocabulary built.augmented
  · intro tokens steps error answers
    exact (parse_error constructed ok answers).1
  · intro tokens steps answer answers
    exact suggest_ok constructed ok answers
  · intro unmentioned
    refine ⟨fun tokens eof ends atEnd steps answer => succeeds unmentioned ends atEnd, ?_⟩
    intro lexer text accepted
    obtain ⟨eof, ends, atEnd⟩ := getLast?_tokenize accepted
    refine ⟨fun steps answer => succeeds unmentioned ends atEnd, fun free => ?_⟩
    obtain ⟨steps, outcome, ran⟩ := built.ends free .recover (lexer.tokenize text).tokens
    have answers : table.parse steps (lexer.tokenize text).tokens =
        some (parseAnswer (lexer.tokenize text).tokens.length outcome) := by
      rw [parse, ran, Option.map_some]
    obtain ⟨result, isOk⟩ := succeeds unmentioned ends atEnd answers
    rw [isOk] at answers
    exact ⟨steps, result, answers⟩

theorem not_mentions_itemList : ¬ Grammar.itemList.Mentions 0 Terminal.eof := by
  rintro ⟨id, body, _, defined, member⟩
  cases id with
  | zero =>
      cases defined
      revert member
      decide
  | succ id => cases defined

theorem consistent_itemList :
    Grammar.itemList.Constructed ∧ (build {} Grammar.itemList 0).1 = .ok itemListTable ∧
      ¬ Grammar.itemList.Mentions 0 Terminal.eof ∧
      (∀ tokens configuration, Reaches .probe itemListTable (.start tokens) configuration →
        ∃ path, itemListTable.grammar.Trail path configuration.states ∧
          configuration.trees.map itemListTable.symbolOf? = path.map some) ∧
      ∃ result, itemListTable.parse 20
        ([0, 0, 1].map tokenOfKind ++ [tokenOfKind Terminal.eof]) = some (.ok result) := by
  obtain ⟨invariant, _, _, succeeds⟩ := consistent Grammar.constructed_itemList build_itemList
  refine ⟨Grammar.constructed_itemList, build_itemList, not_mentions_itemList, ?_, ?_⟩
  · intro tokens configuration reached
    exact (invariant .probe tokens configuration reached).1
  · have ended : (itemListTable.parse 20
        ([0, 0, 1].map tokenOfKind ++ [tokenOfKind Terminal.eof])).isSome := by decide +kernel
    obtain ⟨answer, answers⟩ := Option.isSome_iff_exists.mp ended
    obtain ⟨result, rfl⟩ := (succeeds not_mentions_itemList).1 _ _ rfl rfl _ _ answers
    exact ⟨result, answers⟩

end Table

end CanonicalLR
