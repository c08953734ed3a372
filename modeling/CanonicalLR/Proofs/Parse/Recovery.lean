import CanonicalLR.Proofs.Parse.Changes
import Mathlib.Data.List.Perm.Subperm

namespace CanonicalLR

namespace Table
open FlatGrammar

/-- The number of tokens behind a configuration. -/
def place (tokens : List Token) (configuration : Configuration) : Nat :=
  tokens.length - configuration.rest.length

/-- A range of tokens that were skipped, with the state that had no action on them. -/
structure Gap where
  start : Nat
  stop : Nat
  state : Nat
deriving DecidableEq, Repr

def Idle (table : Table) (tokens : List Token) (state place : Nat) (token : Token) : Prop :=
  tokens[place]? = some token ∧ table.action? state token.kind = none

/-- Whether a place is that of the first token behind a reported one that its state has an action on. -/
structure Resumes (table : Table) (tokens : List Token) (state start stop : Nat) : Prop where
  inner : ∃ token, table.Idle tokens state start token ∧ token.isEof = false
  idle : ∀ place, start < place → place < stop → ∃ token, table.Idle tokens state place token
  later : start < stop
  acts : ∃ token, tokens[stop]? = some token ∧ (table.action? state token.kind).isSome

/-- Whether a run cannot go on from a token without an action: it is an end mark, or there is no later
token to go on from. -/
def Lost (table : Table) (tokens : List Token) (state place : Nat) : Prop :=
  ∃ token, table.Idle tokens state place token ∧ (token.isEof = true ∨
    ∀ later token, place < later → tokens[later]? = some token → table.action? state token.kind = none)

/-- The report of the token at a place. -/
def reportAt (table : Table) (tokens : List Token) (state place : Nat) : Option SyntaxError :=
  tokens[place]?.map fun token => .ofToken token (table.expected state)

/-- Whether errors are the reports of tokens at increasing places, each with the state that has no
action on the token. -/
structure Blames (table : Table) (tokens : List Token) (errors : List SyntaxError)
    (blamed : List (Nat × Nat)) : Prop where
  increasing : blamed.Pairwise (·.1 < ·.1)
  reports : errors.map some = blamed.map fun entry => table.reportAt tokens entry.2 entry.1

def outside (tokens : List Token) (gaps : List Gap) (place : Nat) : List Token :=
  ((List.range place).filter fun here => gaps.all fun gap => here < gap.start || gap.stop ≤ here)
    |>.filterMap (tokens[·]?)

/-- The configurations that a run comes to, with the ranges that it has skipped on the way. -/
inductive Recovers (table : Table) (tokens : List Token) : List Gap → Configuration → Prop where
  | start : Recovers table tokens [] (.start tokens)
  | keep {gaps : List Gap} {before after : Configuration} (earlier : Recovers table tokens gaps before)
      (stepped : step .recover table before = .next after) (same : after.errors = before.errors) :
      Recovers table tokens gaps after
  | skip {gaps : List Gap} {before after : Configuration} {state : Nat} {error : SyntaxError}
      (earlier : Recovers table tokens gaps before)
      (stepped : step .recover table before = .next after)
      (reports : Reports table before state error) :
      Recovers table tokens (gaps ++ [⟨place tokens before, place tokens after, state⟩]) after

/-- What is known of a configuration when ranges have been skipped. -/
structure Accounts (table : Table) (tokens : List Token) (gaps : List Gap)
    (configuration : Configuration) : Prop where
  rest : configuration.rest = tokens.drop (place tokens configuration)
  errors : configuration.errors.map some = gaps.map fun gap => table.reportAt tokens gap.state gap.start
  resumes : ∀ gap ∈ gaps, table.Resumes tokens gap.state gap.start gap.stop ∧
    gap.stop ≤ place tokens configuration
  increasing : gaps.Pairwise fun before after => before.stop ≤ after.start
  leaves : forestLeaves configuration.trees.reverse = outside tokens gaps (place tokens configuration)

variable {table : Table} {tokens : List Token} {gaps : List Gap}
  {configuration before after : Configuration}

/-! ### Places -/

section Places

variable (whole : configuration.rest = tokens.drop (place tokens configuration))
include whole

theorem getElem?_rest (offset : Nat) :
    tokens[place tokens configuration + offset]? = configuration.rest[offset]? := by
  rw [← List.getElem?_drop, ← whole]

theorem drop_behind (front : List Token) {back : List Token}
    (split : configuration.rest = front ++ back) :
    tokens.drop (place tokens configuration + front.length) = back := by
  rw [← List.drop_drop, ← whole, split, List.drop_left]

theorem place_add_le (front : List Token) {back : List Token}
    (split : configuration.rest = front ++ back) :
    place tokens configuration + front.length ≤ tokens.length := by
  have total := congrArg List.length whole
  have inside : place tokens configuration ≤ tokens.length := Nat.sub_le _ _
  rw [split, List.length_append, List.length_drop] at total
  omega

end Places

theorem place_of_drop {stop : Nat} (inside : stop ≤ tokens.length)
    (left : after.rest = tokens.drop stop) : place tokens after = stop := by
  rw [place, left, List.length_drop, Nat.sub_sub_self inside]

/-! ### Tokens outside of ranges -/

theorem outside_succ (gaps : List Gap) {place : Nat} {token : Token}
    (behind : ∀ gap ∈ gaps, gap.stop ≤ place) (here : tokens[place]? = some token) :
    outside tokens gaps (place + 1) = outside tokens gaps place ++ [token] := by
  have free : (gaps.all fun gap => place < gap.start || gap.stop ≤ place) = true := by
    simp only [List.all_eq_true, Bool.or_eq_true, decide_eq_true_eq]
    exact fun gap member => .inr (behind gap member)
  rw [outside, outside, List.range_succ, List.filter_append, List.filterMap_append]
  simp [free, here]

theorem outside_skip (gaps : List Gap) {start stop : Nat} (state : Nat) (later : start ≤ stop) :
    outside tokens (gaps ++ [⟨start, stop, state⟩]) stop = outside tokens gaps start := by
  obtain ⟨count, rfl⟩ := Nat.exists_eq_add_of_le later
  rw [outside, outside, List.range_add, List.filter_append, List.filterMap_append]
  -- The new range covers all that is added, and nothing before it.
  have added : ((List.range count).map (start + ·)).filter (fun here =>
      (gaps ++ [(⟨start, start + count, state⟩ : Gap)]).all fun gap =>
        here < gap.start || gap.stop ≤ here) = [] := by
    rw [List.filter_eq_nil_iff]
    intro here member
    obtain ⟨offset, inside, rfl⟩ := List.mem_map.mp member
    have less := List.mem_range.mp inside
    simp [less]
  rw [added, List.filterMap_nil, List.append_nil]
  congr 1
  apply List.filter_congr
  intro here member
  have less := List.mem_range.mp member
  simp [less]

/-! ### Steps -/

theorem accounts_start (table : Table) (tokens : List Token) :
    Accounts table tokens [] (.start tokens) where
  rest := by simp [place, Configuration.start]
  errors := rfl
  resumes := fun _ member => absurd member List.not_mem_nil
  increasing := .nil
  leaves := by simp [place, outside, Configuration.start, forestLeaves]

theorem Accounts.report (accounts : Accounts table tokens gaps configuration) {state : Nat}
    {error : SyntaxError} (reports : Reports table configuration state error) :
    table.reportAt tokens state (place tokens configuration) = some error ∧
    ((∃ stop, table.Resumes tokens state (place tokens configuration) stop ∧
      stop ≤ tokens.length ∧
      step .recover table configuration = .next { configuration with
        rest := tokens.drop stop
        errors := configuration.errors ++ [error] }) ∨
    Lost table tokens state (place tokens configuration) ∧
      step .recover table configuration = .halt { configuration with
        errors := configuration.errors ++ [error] } .stuck) := by
  have none := reports.nextAction?
  obtain ⟨below, token, rest, top, split, idle, rfl⟩ := reports
  have at? := getElem?_rest accounts.rest
  have here : tokens[place tokens configuration]? = some token := by
    have found := at? 0
    rwa [split, List.getElem?_cons_zero] at found
  refine ⟨by rw [reportAt, here, Option.map_some], ?_⟩
  have change := change_step .recover table configuration
  generalize step .recover table configuration = result at change ⊢
  cases change with
  | shift acts _ => cases none.symm.trans acts
  | reduce acts _ => cases none.symm.trans acts
  | accept acts => cases none.symm.trans acts
  | failed acts _ => cases none.symm.trans acts
  | exhausted empty => cases empty.symm.trans split
  | bare bare => cases bare.symm.trans top
  | probed probes _ => cases probes
  | lost _ otherTop otherSplit _ final =>
      cases top.symm.trans otherTop
      cases split.symm.trans otherSplit
      refine .inr ⟨⟨token, ⟨here, idle⟩, ?_⟩, rfl⟩
      rcases final with atEnd | unusable
      · exact .inl atEnd
      · refine .inr fun later other beyond found => unusable other ?_
        obtain ⟨offset, rfl⟩ := Nat.exists_eq_add_of_lt beyond
        rw [Nat.add_assoc, at?, split, List.getElem?_cons_succ] at found
        exact List.mem_of_getElem? found
  | @skip _ _ _ next skipped later _ otherTop otherSplit passes inner again =>
      cases top.symm.trans otherTop
      obtain ⟨rfl, rfl⟩ : token = _ ∧ rest = skipped ++ next :: later :=
        List.cons.inj (split.symm.trans otherSplit)
      have resumed := drop_behind accounts.rest (token :: skipped) split
      have inside := place_add_le accounts.rest (token :: skipped) split
      refine .inl ⟨_, ⟨⟨token, ⟨here, idle⟩, inner⟩, ?_, ?_, ?_⟩, inside, by rw [resumed]⟩
      · intro place beyond before
        obtain ⟨offset, rfl⟩ := Nat.exists_eq_add_of_lt beyond
        have bound : offset < skipped.length := by
          rw [List.length_cons] at before
          omega
        refine ⟨skipped[offset], ?_, passes _ (List.mem_cons_of_mem _ (List.getElem_mem bound))⟩
        rw [Nat.add_assoc, at?, split, List.getElem?_cons_succ, List.getElem?_append_left bound,
          List.getElem?_eq_getElem bound]
      · exact Nat.lt_add_of_pos_right (Nat.succ_pos _)
      · refine ⟨next, ?_, again⟩
        rw [at?, split, List.length_cons, List.getElem?_cons_succ,
          List.getElem?_append_right le_rfl, Nat.sub_self, List.getElem?_cons_zero]

theorem Accounts.shift (accounts : Accounts table tokens gaps configuration) {target : Nat}
    {token : Token} {rest : List Token} (split : configuration.rest = token :: rest) :
    Accounts table tokens gaps { configuration with
      states := target :: configuration.states
      trees := .leaf token :: configuration.trees
      rest } := by
  have left := drop_behind accounts.rest [token] split
  have inside := place_add_le accounts.rest [token] split
  have here : tokens[place tokens configuration]? = some token := by
    have found := getElem?_rest accounts.rest 0
    rwa [split, List.getElem?_cons_zero] at found
  have behind : ∀ gap ∈ gaps, gap.stop ≤ place tokens configuration :=
    fun gap member => (accounts.resumes gap member).2
  have moved : place tokens { configuration with
      states := target :: configuration.states
      trees := .leaf token :: configuration.trees
      rest } = place tokens configuration + 1 := place_of_drop inside left.symm
  refine ⟨?_, accounts.errors, ?_, accounts.increasing, ?_⟩
  · rw [moved]
    exact left.symm
  · intro gap member
    rw [moved]
    exact ⟨(accounts.resumes gap member).1, Nat.le_succ_of_le (behind gap member)⟩
  · rw [moved, outside_succ gaps behind here, ← accounts.leaves, List.reverse_cons,
      forestLeaves_append]
    rfl

theorem Accounts.reduce (accounts : Accounts table tokens gaps configuration) {index : Nat}
    (reduces : table.reduce index configuration = .ok after) : Accounts table tokens gaps after := by
  have passes := passes_reduce reduces
  have rest : after.rest = configuration.rest := passes.rest
  have same : place tokens after = place tokens configuration := by rw [place, rest, place]
  have errors : after.errors = configuration.errors := by
    obtain ⟨_, _, _, _, _, _, _, _, _, _, rfl⟩ := reduce_eq_ok reduces
    rfl
  constructor
  · rw [same, rest]
    exact accounts.rest
  · rw [errors]
    exact accounts.errors
  · rw [same]
    exact accounts.resumes
  · exact accounts.increasing
  · rw [passes.leaves, same, accounts.leaves]
    exact List.append_nil _

theorem Accounts.skip (accounts : Accounts table tokens gaps configuration) {stop state : Nat}
    {error : SyntaxError} (reported : table.reportAt tokens state (place tokens configuration) = some error)
    (resumes : table.Resumes tokens state (place tokens configuration) stop)
    (inside : stop ≤ tokens.length) :
    Accounts table tokens (gaps ++ [⟨place tokens configuration, stop, state⟩]) { configuration with
      rest := tokens.drop stop
      errors := configuration.errors ++ [error] } := by
  have moved : place tokens { configuration with
      rest := tokens.drop stop
      errors := configuration.errors ++ [error] } = stop := place_of_drop inside rfl
  have later : place tokens configuration ≤ stop := resumes.later.le
  refine ⟨by rw [moved], ?_, ?_, ?_, ?_⟩
  · rw [List.map_append, accounts.errors, List.map_append, List.map_singleton, List.map_singleton,
      reported]
  · intro gap member
    rw [moved]
    rcases List.mem_append.mp member with old | new
    · obtain ⟨resumed, behind⟩ := accounts.resumes gap old
      exact ⟨resumed, behind.trans later⟩
    · obtain rfl := List.mem_singleton.mp new
      exact ⟨resumes, le_rfl⟩
  · refine List.pairwise_append.mpr ⟨accounts.increasing, List.pairwise_singleton _ _, ?_⟩
    intro before old after new
    obtain rfl := List.mem_singleton.mp new
    exact (accounts.resumes before old).2
  · rw [moved, outside_skip gaps state later]
    exact accounts.leaves

/-! ### Runs -/

theorem Recovers.accounts (recovers : Recovers table tokens gaps configuration) :
    Accounts table tokens gaps configuration := by
  induction recovers with
  | start => exact accounts_start table tokens
  | @keep gaps before after earlier stepped same ih =>
      cases change_of_step stepped with
      | shift _ split => exact ih.shift split
      | reduce _ reduces => exact ih.reduce reduces
      | skip _ _ _ _ _ _ => simp at same
  | @skip gaps before after state error earlier stepped reports ih =>
      obtain ⟨reported, ⟨stop, resumes, inside, goesOn⟩ | ⟨_, halts⟩⟩ := ih.report reports
      · obtain rfl := Step.next.inj (stepped.symm.trans goesOn)
        have skipped := ih.skip reported resumes inside
        have moved : place tokens { before with
            rest := tokens.drop stop
            errors := before.errors ++ [error] } = stop := place_of_drop inside rfl
        rwa [moved]
      · cases stepped.symm.trans halts

theorem Recovers.reaches (recovers : Recovers table tokens gaps configuration) :
    Reaches .recover table (.start tokens) configuration := by
  induction recovers with
  | start => exact .refl
  | keep _ stepped _ ih => exact ih.tail stepped
  | skip _ stepped _ ih => exact ih.tail stepped

theorem exists_recovers (reaches : Reaches .recover table (.start tokens) configuration) :
    ∃ gaps, Recovers table tokens gaps configuration := by
  induction reaches with
  | refl => exact ⟨[], .start⟩
  | @tail before after _ stepped ih =>
      obtain ⟨gaps, earlier⟩ := ih
      rcases (change_of_step stepped).errors_cases with same | ⟨state, error, reports, _⟩
      · exact ⟨gaps, earlier.keep stepped same⟩
      · exact ⟨_, earlier.skip stepped reports⟩

theorem Accounts.blames (accounts : Accounts table tokens gaps configuration) :
    Blames table tokens configuration.errors (gaps.map fun gap => (gap.start, gap.state)) := by
  constructor
  · rw [List.pairwise_map]
    refine accounts.increasing.imp_of_mem fun member _ before => ?_
    exact (accounts.resumes _ member).1.later.trans_le before
  · rw [accounts.errors, List.map_map]
    rfl

theorem Blames.length_le {errors : List SyntaxError} {blamed : List (Nat × Nat)}
    (blames : Blames table tokens errors blamed) : errors.length ≤ tokens.length := by
  have same := congrArg List.length blames.reports
  rw [List.length_map, List.length_map] at same
  have distinct : (blamed.map (·.1)).Nodup :=
    (List.pairwise_map.mpr blames.increasing).imp Nat.ne_of_lt
  have inside : blamed.map (·.1) ⊆ List.range tokens.length := by
    intro place member
    obtain ⟨entry, blamed, rfl⟩ := List.mem_map.mp member
    have reported := List.mem_map_of_mem
      (f := fun entry : Nat × Nat => table.reportAt tokens entry.2 entry.1) blamed
    rw [← blames.reports] at reported
    obtain ⟨error, _, here⟩ := List.mem_map.mp reported
    obtain ⟨token, found, _⟩ := Option.map_eq_some_iff.mp here.symm
    exact List.mem_range.mpr (List.getElem?_eq_some_iff.mp found).1
  have bound := (distinct.subperm inside).length_le
  rwa [List.length_map, List.length_range, ← same] at bound

end Table

end CanonicalLR
