import CanonicalLR.Proofs.Parse.Consistency
import CanonicalLR.Proofs.Parse.Detection
import CanonicalLR.Proofs.Parse.Expected
import CanonicalLR.Proofs.Parse.Recovery

namespace CanonicalLR

namespace Table
open FlatGrammar ItemSystem

variable {vocabulary : Vocabulary} {source : Grammar} {id : RuleId} {table : Table}
  {tokens : List Token} {eof : Token} {configuration after last : Configuration} {reason : Halt}

def withEof (eof : Token) (configuration : Configuration) : Configuration :=
  { configuration with
    rest := configuration.rest ++ [eof]
    errors := [] }

theorem place_withEof (tokens : List Token) (eof : Token) (configuration : Configuration) :
    place (tokens ++ [eof]) (withEof eof configuration) = place tokens configuration := by
  simp only [place, withEof, List.length_append, List.length_singleton, Nat.add_sub_add_right]

theorem nextAction?_withEof (eof : Token) {token : Token} {rest : List Token}
    (split : configuration.rest = token :: rest) :
    table.nextAction? (withEof eof configuration) = table.nextAction? configuration := by
  obtain ⟨states, trees, tokens, errors⟩ := configuration
  cases split
  cases states <;> rfl

theorem rest_withEof (none : table.nextAction? configuration = none)
    (acts : (table.nextAction? (withEof eof configuration)).isSome) :
    (withEof eof configuration).rest = [eof] := by
  cases left : configuration.rest with
  | nil => rw [withEof, left, List.nil_append]
  | cons token rest =>
      rw [nextAction?_withEof eof left, none] at acts
      cases acts

/-! ### Errors along a run -/

section Errors

variable {mode : Mode} {result : Step}

theorem Change.errors_grow (change : Change mode table configuration result) :
    configuration.errors <+: result.configuration.errors := by
  rcases change.errors_cases with same | ⟨_, _, _, added⟩
  · rw [same]
  · rw [added]
    exact List.prefix_append _ _

theorem Change.errors_of_acts (change : Change mode table configuration result)
    (acts : (table.nextAction? configuration).isSome) :
    result.configuration.errors = configuration.errors := by
  rcases change.errors_cases with same | ⟨_, _, reports, _⟩
  · exact same
  · rw [reports.nextAction?] at acts
    cases acts

theorem errors_prefix_of_run {steps : Nat}
    (ran : run mode table steps configuration = some (last, reason)) :
    (step mode table configuration).configuration.errors <+: last.errors := by
  induction steps generalizing configuration with
  | zero => cases ran
  | succ steps ih =>
      rw [run] at ran
      cases stepped : step mode table configuration with
      | next after =>
          rw [stepped] at ran
          exact (change_step mode table after).errors_grow.trans (ih ran)
      | halt halted why =>
          rw [stepped] at ran
          cases ran
          exact List.prefix_rfl

theorem errors_of_run {steps : Nat} (ran : run mode table steps configuration = some (last, reason))
    (acts : ∀ later, Reaches mode table configuration later → (table.nextAction? later).isSome) :
    last.errors = configuration.errors := by
  induction steps generalizing configuration with
  | zero => cases ran
  | succ steps ih =>
      have same := (change_step mode table configuration).errors_of_acts (acts _ .refl)
      rw [run] at ran
      cases stepped : step mode table configuration with
      | next after =>
          rw [stepped] at ran same
          exact (ih ran fun later reached => acts later (.head stepped reached)).trans same
      | halt halted why =>
          rw [stepped] at ran same
          cases ran
          exact same

end Errors

/-! ### The same steps in both modes -/

variable {rule : Rule} {start : Nat}

theorem Built.recovers_withEof (built : Built vocabulary table rule start) (eof : Token)
    (reaches : Reaches .probe table (.start tokens) configuration) :
    Recovers table (tokens ++ [eof]) [] (withEof eof configuration) := by
  induction reaches with
  | refl => exact .start
  | @tail before after earlier stepped ih =>
      obtain ⟨path, sound, turn⟩ := built.reached earlier
      rw [stepped] at turn
      cases turn with
      | @shift target token rest acts split =>
          have shifts := step_of_shift .recover acts split (rest ++ [eof]) []
          refine ih.keep ?_ rfl
          rw [withEof, split]
          exact shifts
      | reduce acts same _ _ anew =>
          obtain ⟨_, _, token, rest, _, split, _⟩ := exists_of_nextAction? acts
          refine ih.keep ?_ rfl
          rw [withEof, withEof, same, split]
          exact anew .recover token rest (rest ++ [eof]) [] split
      | skip recovers _ _ _ => cases recovers

theorem Built.exists_stop (built : Built vocabulary table rule start) {steps : Nat}
    (ran : run .probe table steps (.start tokens) = some (last, reason)) :
    Reaches .probe table (.start tokens) last ∧
      (table.nextAction? last = none ∨
        step .probe table last = .halt last .accepted ∧ table.nextAction? last = some .accept) := by
  obtain ⟨before, reached, halts⟩ := exists_halt_of_run ran
  obtain ⟨path, sound, turn⟩ := built.reached reached
  rw [halts] at turn
  cases turn with
  | accept acts => exact ⟨reached, .inr ⟨halts, acts⟩⟩
  | exhausted none _ => exact ⟨reached, .inl none⟩
  | probed _ none => exact ⟨reached, .inl none⟩
  | lost recovers _ => cases recovers

theorem acts_on_eof (constructed : source.Constructed) (ok : (build vocabulary source id).1 = .ok table)
    (unmentioned : ¬ source.Mentions id Terminal.eof) (atEnd : eof.isEof = true)
    (reached : Reaches .recover table (.start (tokens ++ [eof])) configuration)
    (left : configuration.rest = [eof]) (acts : (table.nextAction? configuration).isSome)
    {later : Configuration} (further : Reaches .recover table configuration later) :
    later.rest = [eof] ∧ (table.nextAction? later).isSome := by
  obtain ⟨rule, start, _, built⟩ := built_of_build constructed ok
  have kept := getLast?_of_reaches constructed ok unmentioned List.getLast?_concat atEnd
    (reached.trans further)
  obtain ⟨path, sound, _⟩ := built.reached reached
  have canonical := built.canonical
  have augmented := built.augmented
  generalize table.grammar = grammar at sound canonical augmented
  subst canonical
  rcases sound.keeps_action augmented acts further with fewer | ⟨same, again⟩
  · rw [left, List.length_singleton, Nat.lt_one_iff, List.length_eq_zero_iff] at fewer
    rw [fewer] at kept
    cases kept
  · exact ⟨same.trans left, again⟩

theorem reports_of_none {state : Nat} {below : List Nat} {token : Token} {rest : List Token}
    (top : configuration.states = state :: below) (split : configuration.rest = token :: rest)
    (none : table.nextAction? configuration = none) :
    Reports table configuration state (.ofToken token (table.expected state)) := by
  refine ⟨below, token, rest, top, split, ?_, rfl⟩
  rw [nextAction?, top, split] at none
  exact none

theorem errors_of_report {gaps : List Gap} {state : Nat} {error : SyntaxError} {steps : Nat}
    (recovers : Recovers table tokens gaps configuration) (clean : configuration.errors = [])
    (reports : Reports table configuration state error)
    (ran : run .recover table steps configuration = some (last, reason)) :
    ∃ later, last.errors = error :: later := by
  have grown := errors_prefix_of_run ran
  have single : (step .recover table configuration).configuration.errors = [error] := by
    obtain ⟨_, ⟨_, _, _, goesOn⟩ | ⟨_, halts⟩⟩ := recovers.accounts.report reports
    · rw [goesOn, Step.configuration, clean]
      rfl
    · rw [halts, Step.configuration, clean]
      rfl
  rw [single] at grown
  obtain ⟨later, whole⟩ := grown
  exact ⟨later, whole.symm⟩

section Stop

variable (built : Built vocabulary table rule start)
  (reached : Reaches .probe table (.start tokens) configuration)
include built reached

theorem Built.exists_report (eof : Token)
    (none : table.nextAction? (withEof eof configuration) = none) :
    ∃ error, Reports table (withEof eof configuration) (configuration.states.head?.getD 0) error := by
  obtain ⟨path, sound, _⟩ := built.reached reached
  obtain ⟨state, below, top⟩ := nonempty_of_trail sound.trail
  rw [top]
  cases left : configuration.rest with
  | nil => exact ⟨_, reports_of_none top (by rw [withEof, left]; rfl) none⟩
  | cons token rest => exact ⟨_, reports_of_none top (by rw [withEof, left]; rfl) none⟩

theorem Built.not_accepted (few : table.nonterminals.length ≤ 90000)
    (inner : ∀ token ∈ tokens, token.isEof = false) :
    step .probe table configuration ≠ .halt last .accepted := by
  intro halts
  obtain ⟨shifted, shifts⟩ := exists_shifts reached
  obtain ⟨path, sound, _⟩ := built.reached reached
  have canonical := built.canonical
  have augmented := built.augmented
  have unused := built.unused few
  generalize table.grammar = grammar at sound canonical augmented unused
  subst canonical
  obtain ⟨_, none⟩ := nextAction?_of_probe augmented unused inner shifts halts
  obtain ⟨_, state, below, token, rest, top, split, acts⟩ := halt_accepted halts
  rw [nextAction?, top, split] at none
  cases none.symm.trans acts

end Stop

theorem step_withEof (eof : Token) (accepts : table.nextAction? configuration = some .accept) :
    step .recover table (withEof eof configuration) = .halt (withEof eof configuration) .accepted := by
  obtain ⟨state, below, token, rest, top, split, here⟩ := exists_of_nextAction? accepts
  rw [withEof, top, split, List.cons_append]
  exact step_accept here

theorem errors_of_undecided (constructed : source.Constructed)
    (ok : (build vocabulary source id).1 = .ok table) (unmentioned : ¬ source.Mentions id Terminal.eof)
    (atEnd : eof.isEof = true)
    (reached : Reaches .recover table (.start (tokens ++ [eof])) (withEof eof configuration))
    (undecided : table.nextAction? configuration = none ∨
      table.nextAction? configuration = some .accept)
    (acts : (table.nextAction? (withEof eof configuration)).isSome) {steps : Nat}
    (ran : run .recover table steps (withEof eof configuration) = some (last, reason)) :
    last.errors = [] := by
  rcases undecided with none | accepts
  · exact errors_of_run ran fun later further =>
      (acts_on_eof constructed ok unmentioned atEnd reached (rest_withEof none acts) acts further).2
  · have accepted := run_of_halt (step_withEof eof accepts)
    obtain ⟨rfl, _⟩ := Prod.ext_iff.mp (run_unique accepted ran)
    rfl

theorem parse_of_run (constructed : source.Constructed)
    (ok : (build vocabulary source id).1 = .ok table) (unmentioned : ¬ source.Mentions id Terminal.eof)
    (atEnd : eof.isEof = true) {steps : Nat}
    (ran : run .recover table steps (.start (tokens ++ [eof])) = some (last, reason)) :
    table.parse steps (tokens ++ [eof]) = some (.ok last.result) := by
  have answers : ∃ answer, table.parse steps (tokens ++ [eof]) = some answer :=
    ⟨_, by rw [parse, ran]; rfl⟩
  obtain ⟨answer, answers⟩ := answers
  cases answer with
  | error error =>
      exact absurd ⟨eof, List.getLast?_concat, atEnd⟩
        ((parse_error constructed ok answers).2 unmentioned)
  | ok result =>
      obtain ⟨other, why, again, rfl⟩ := run_of_parse answers
      obtain ⟨rfl, _⟩ := Prod.ext_iff.mp (run_unique again ran)
      exact answers

theorem suggest_of_run (constructed : source.Constructed)
    (ok : (build vocabulary source id).1 = .ok table)
    (inner : ∀ token ∈ tokens, token.isEof = false) {steps : Nat}
    (ran : run .probe table steps (.start tokens) = some (last, reason)) :
    table.suggest steps tokens = some (.ok (table.suggestionIn tokens.length last)) := by
  have answers : ∃ answer, table.suggest steps tokens = some answer :=
    ⟨_, by rw [suggest, dropEof_eq_self inner, ran]; rfl⟩
  obtain ⟨answer, answers⟩ := answers
  obtain ⟨suggestion, rfl⟩ := suggest_ok constructed ok answers
  obtain ⟨other, why, again, rfl⟩ := suggestion_of_run inner answers
  obtain ⟨rfl, _⟩ := Prod.ext_iff.mp (run_unique again ran)
  exact answers

theorem accepts_of_clean (constructed : source.Constructed)
    (ok : (build vocabulary source id).1 = .ok table) (unmentioned : ¬ source.Mentions id Terminal.eof)
    (atEnd : eof.isEof = true)
    (reached : Reaches .recover table (.start (tokens ++ [eof])) configuration) {steps : Nat}
    (ran : run .recover table steps configuration = some (last, reason)) (clean : last.errors = []) :
    Reaches .recover table configuration last ∧ step .recover table last = .halt last .accepted := by
  obtain ⟨rule, start, _, built⟩ := built_of_build constructed ok
  obtain ⟨before, further, halts⟩ := exists_halt_of_run ran
  obtain ⟨path, sound, turn⟩ := built.reached (reached.trans further)
  rw [halts] at turn
  cases turn with
  | accept _ => exact ⟨further, halts⟩
  | exhausted _ empty =>
      have kept := getLast?_of_reaches constructed ok unmentioned List.getLast?_concat atEnd
        (reached.trans further)
      rw [empty] at kept
      cases kept
  | probed probes _ => cases probes
  | lost _ _ => exact absurd clean (List.append_ne_nil_of_right_ne_nil _ (List.cons_ne_nil _ _))

theorem place_eq_length_iff (constructed : source.Constructed)
    (ok : (build vocabulary source id).1 = .ok table) (unmentioned : ¬ source.Mentions id Terminal.eof)
    (atEnd : eof.isEof = true)
    (reached : Reaches .recover table (.start (tokens ++ [eof])) configuration) :
    place (tokens ++ [eof]) configuration = tokens.length ↔ configuration.rest = [eof] := by
  have kept := getLast?_of_reaches constructed ok unmentioned List.getLast?_concat atEnd reached
  obtain ⟨gaps, recovers⟩ := exists_recovers reached
  have short : configuration.rest.length ≤ tokens.length + 1 := by
    rw [recovers.accounts.rest, List.length_drop, List.length_append, List.length_singleton]
    exact Nat.sub_le _ _
  rw [place, List.length_append, List.length_singleton]
  constructor
  · intro behind
    have single : configuration.rest.length = 1 := by
      have := List.length_pos_of_mem (List.mem_of_getLast? kept)
      omega
    obtain ⟨token, only⟩ := List.length_eq_one_iff.mp single
    rw [only] at kept ⊢
    exact congrArg (List.cons · []) (Option.some.inj kept)
  · intro only
    rw [only, List.length_singleton, Nat.add_sub_cancel]

theorem accepts_where_stopped (constructed : source.Constructed)
    (ok : (build vocabulary source id).1 = .ok table) (unmentioned : ¬ source.Mentions id Terminal.eof)
    (inner : ∀ token ∈ tokens, token.isEof = false) (atEnd : eof.isEof = true)
    (reached : Reaches .probe table (.start tokens) configuration)
    (undecided : table.nextAction? configuration = none ∨
      step .probe table configuration = .halt configuration .accepted ∧
        table.nextAction? configuration = some .accept) {steps : Nat}
    (ran : run .recover table steps (withEof eof configuration) = some (last, reason))
    (clean : last.errors = []) :
    place (tokens ++ [eof]) last = place tokens configuration ∧
      (table.nonterminals.length ≤ 90000 → last.rest = [eof]) := by
  obtain ⟨rule, start, _, built⟩ := built_of_build constructed ok
  have recovers := built.recovers_withEof eof reached
  rcases undecided with none | ⟨halts, here⟩
  · -- A token without an action would have been reported, so no token is left but the end mark.
    have acts : (table.nextAction? (withEof eof configuration)).isSome := by
      by_contra idle
      obtain ⟨first, reports⟩ :=
        built.exists_report reached eof (Option.not_isSome_iff_eq_none.mp idle)
      obtain ⟨others, whole⟩ := errors_of_report recovers rfl reports ran
      cases clean.symm.trans whole
    have left := rest_withEof none acts
    obtain ⟨further, _⟩ :=
      accepts_of_clean constructed ok unmentioned atEnd recovers.reaches ran clean
    obtain ⟨single, _⟩ :=
      acts_on_eof constructed ok unmentioned atEnd recovers.reaches left acts further
    refine ⟨?_, fun _ => single⟩
    rw [← place_withEof tokens eof configuration, place, place, single, left]
  · obtain ⟨rfl, _⟩ := Prod.ext_iff.mp (run_unique (run_of_halt (step_withEof eof here)) ran)
    exact ⟨place_withEof tokens eof configuration,
      fun few => absurd halts (built.not_accepted reached few inner)⟩

/-- Without conflicts, a suggestion is made where the first error of a parse is found, with the same
expectations, and where the parse accepts if there is no error. That is behind all tokens exactly if
the end mark alone is left there, which is so as long as the start symbol has a number of its own. -/
theorem suggest_agrees (constructed : source.Constructed)
    (ok : (build vocabulary source id).1 = .ok table) (free : table.conflicts = [])
    (unmentioned : ¬ source.Mentions id Terminal.eof)
    (inner : ∀ token ∈ tokens, token.isEof = false) (atEnd : eof.isEof = true) :
    (∀ steps, table.suggest steps (tokens ++ [eof]) = table.suggest steps tokens) ∧
    ∃ enough result suggestion,
      (∀ steps, enough ≤ steps → table.parse steps (tokens ++ [eof]) = some (.ok result) ∧
        table.suggest steps tokens = some (.ok suggestion)) ∧
      (∀ error later, result.errors = error :: later →
        suggestion.expected = error.expected ∧
        table.reportAt (tokens ++ [eof]) suggestion.state suggestion.index = some error ∧
        ∃ configuration, Recovers table (tokens ++ [eof]) [] configuration ∧
          Reports table configuration suggestion.state error ∧
          place (tokens ++ [eof]) configuration = suggestion.index) ∧
      (result.errors = [] → ∃ last, Reaches .recover table (.start (tokens ++ [eof])) last ∧
        step .recover table last = .halt last .accepted ∧ result = last.result ∧
        place (tokens ++ [eof]) last = suggestion.index ∧
        (suggestion.index = tokens.length ↔ last.rest = [eof]) ∧
        (table.nonterminals.length ≤ 90000 → suggestion.index = tokens.length)) := by
  obtain ⟨rule, start, _, built⟩ := built_of_build constructed ok
  have dropped : dropEof (tokens ++ [eof]) = tokens := by
    rw [dropEof, List.getLast?_concat, Option.any_some, if_pos atEnd, List.dropLast_concat]
  have kept : dropEof tokens = tokens := dropEof_eq_self inner
  refine ⟨fun steps => by rw [suggest, suggest, dropped, kept], ?_⟩
  obtain ⟨probing, ⟨stop, halt⟩, probed⟩ := built.ends free .probe tokens
  obtain ⟨parsing, ⟨final, reason⟩, parsed⟩ := built.ends free .recover (tokens ++ [eof])
  obtain ⟨reached, undecided⟩ := built.exists_stop probed
  have recovers := built.recovers_withEof eof reached
  obtain ⟨fewer, ran⟩ := run_later recovers.reaches parsed
  have clean (acts : (table.nextAction? (withEof eof stop)).isSome) : final.errors = [] :=
    errors_of_undecided constructed ok unmentioned atEnd recovers.reaches
      (undecided.imp_right And.right) acts ran
  refine ⟨max parsing probing, final.result, table.suggestionIn tokens.length stop, ?_, ?_, ?_⟩
  · intro steps enough
    exact ⟨parse_of_run constructed ok unmentioned atEnd
        (run_of_le parsed (le_of_max_le_left enough)),
      suggest_of_run constructed ok inner (run_of_le probed (le_of_max_le_right enough))⟩
  · intro error later errors
    have none : table.nextAction? (withEof eof stop) = none := by
      by_contra acts
      have nothing := clean (Option.isSome_iff_ne_none.mpr acts)
      cases errors.symm.trans nothing
    obtain ⟨first, reports⟩ := built.exists_report reached eof none
    obtain ⟨others, whole⟩ := errors_of_report recovers rfl reports ran
    obtain ⟨rfl, _⟩ := List.cons.inj (errors.symm.trans whole)
    obtain ⟨reported, _⟩ := recovers.accounts.report reports
    have index := place_withEof tokens eof stop
    rw [index] at reported
    have expected : table.expected (stop.states.head?.getD 0) = error.expected := by
      obtain ⟨_, _, _, _, _, _, rfl⟩ := reports
      rfl
    exact ⟨expected, reported, _, recovers, reports, index⟩
  · intro errors
    obtain ⟨further, accepts⟩ :=
      accepts_of_clean constructed ok unmentioned atEnd recovers.reaches ran errors
    have accepted := recovers.reaches.trans further
    have ends := place_eq_length_iff constructed ok unmentioned atEnd accepted
    obtain ⟨same, alone⟩ := accepts_where_stopped constructed ok unmentioned inner atEnd reached
      undecided ran errors
    have index : place (tokens ++ [eof]) final =
        (table.suggestionIn tokens.length stop).index := same
    rw [index] at ends
    exact ⟨final, accepted, accepts, rfl, index, ends, fun few => ends.mpr (alone few)⟩

theorem suggest_agrees_itemList :
    itemListTable.conflicts = [] ∧ ¬ Grammar.itemList.Mentions 0 Terminal.eof ∧
      ∃ enough result suggestion,
        (∀ steps, enough ≤ steps →
          itemListTable.parse steps ([0, 0, 1].map tokenOfKind ++ [tokenOfKind Terminal.eof]) =
            some (.ok result) ∧
          itemListTable.suggest steps ([0, 0, 1].map tokenOfKind) = some (.ok suggestion)) ∧
        (∀ error later, result.errors = error :: later → suggestion.expected = error.expected ∧
          itemListTable.reportAt ([0, 0, 1].map tokenOfKind ++ [tokenOfKind Terminal.eof])
            suggestion.state suggestion.index = some error) ∧
        (result.errors = [] → suggestion.index = 3) := by
  have inner : ∀ token ∈ [0, 0, 1].map tokenOfKind, token.isEof = false := by decide +kernel
  have atEnd : (tokenOfKind Terminal.eof).isEof = true := rfl
  obtain ⟨_, enough, result, suggestion, answers, first, clean⟩ :=
    suggest_agrees Grammar.constructed_itemList build_itemList conflicts_itemListTable
      not_mentions_itemList inner atEnd
  refine ⟨conflicts_itemListTable, not_mentions_itemList, enough, result, suggestion, answers, ?_, ?_⟩
  · intro error later errors
    obtain ⟨expected, reported, _⟩ := first error later errors
    exact ⟨expected, reported⟩
  · intro errors
    obtain ⟨_, _, _, _, _, _, behind⟩ := clean errors
    exact behind (by decide)

end Table

end CanonicalLR
