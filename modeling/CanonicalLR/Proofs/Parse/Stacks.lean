import CanonicalLR.Proofs.Parse.Changes

namespace CanonicalLR

namespace Table

structure Stacked (tokens : List Token) (configuration : Configuration) : Prop where
  height : configuration.states.length = configuration.trees.length + 1
  bottom : configuration.states.getLast? = some 0
  suffix : configuration.rest <:+ tokens

variable {mode : Mode} {table : Table} {tokens : List Token} {configuration after : Configuration}
  {index head : Nat} {production : Production}

theorem stacked_start (tokens : List Token) : Stacked tokens (.start tokens) :=
  ⟨rfl, rfl, List.suffix_refl tokens⟩

theorem Stacked.reduce (stacked : Stacked tokens configuration)
    (reduces : table.reduce index configuration = .ok after) : Stacked tokens after := by
  obtain ⟨production, _, uncovered, below, target, _, _, enough, left, _, rfl⟩ :=
    reduce_eq_ok reduces
  have height := stacked.height
  have bottom := stacked.bottom
  have lengths := congrArg List.length left
  rw [List.length_drop, List.length_cons] at lengths
  constructor
  · simp only [List.length_cons, List.length_drop]
    omega
  · have same : (uncovered :: below).getLast? = configuration.states.getLast? := by
      rw [← left, List.getLast?_drop, if_neg (by omega)]
    rw [List.getLast?_cons, same, bottom]
    rfl
  · exact stacked.suffix

theorem Change.stacked {result : Step} (change : Change mode table configuration result)
    (stacked : Stacked tokens configuration) : Stacked tokens result.configuration := by
  obtain ⟨height, bottom, suffix⟩ := stacked
  cases change with
  | shift acts split =>
      refine ⟨congrArg Nat.succ height, ?_, ?_⟩
      · simp only [Step.configuration, List.getLast?_cons, bottom, Option.getD_some]
      · rw [split] at suffix
        exact (List.suffix_cons _ _).trans suffix
  | reduce acts reduces => exact Stacked.reduce ⟨height, bottom, suffix⟩ reduces
  | skip recovers top split idle inner again =>
      refine ⟨height, bottom, ?_⟩
      rw [split] at suffix
      exact (List.suffix_append _ _).trans suffix
  | _ => exact ⟨height, bottom, suffix⟩

theorem stacked_of_reaches (reaches : Reaches mode table (.start tokens) configuration) :
    Stacked tokens configuration := by
  induction reaches with
  | refl => exact stacked_start tokens
  | tail _ stepped ih => exact (change_of_step stepped).stacked ih

theorem stacked_of_run {steps : Nat} {last : Configuration} {reason : Halt}
    (ran : run mode table steps (.start tokens) = some (last, reason)) : Stacked tokens last := by
  obtain ⟨before, reaches, halts⟩ := exists_halt_of_run ran
  exact (change_of_step halts).stacked (stacked_of_reaches reaches)

/-! ### Reductions -/

/-- Both stacks cut below `count` entries, with a state left to go on from. -/
structure Cuts (configuration : Configuration) (count uncovered : Nat) (above below : List Nat)
    (taken left : List Tree) : Prop where
  states : configuration.states = above ++ uncovered :: below
  trees : configuration.trees = taken ++ left
  length_above : above.length = count
  length_taken : taken.length = count

theorem Stacked.exists_cuts (stacked : Stacked tokens configuration) {count : Nat}
    (enough : count ≤ configuration.trees.length) :
    ∃ uncovered above below taken left,
      Cuts configuration count uncovered above below taken left := by
  have height := stacked.height
  have within : count < configuration.states.length := by omega
  refine ⟨configuration.states[count], configuration.states.take count,
    configuration.states.drop (count + 1), configuration.trees.take count,
    configuration.trees.drop count, ?_, (List.take_append_drop _ _).symm, ?_, ?_⟩
  · rw [List.getElem_cons_drop, List.take_append_drop]
  · rw [List.length_take, Nat.min_eq_left within.le]
  · rw [List.length_take, Nat.min_eq_left enough]

theorem Cuts.reduce_eq {uncovered : Nat} {above below : List Nat} {taken left : List Tree}
    (cuts : Cuts configuration production.body.length uncovered above below taken left)
    (found : table.productions[index]? = some production)
    (numbered : table.nonterminalIndex? production.head = some head) :
    table.reduce index configuration =
      match table.goto? uncovered head with
      | none => .error (.missingGoto uncovered production.head)
      | some target => .ok { configuration with
          states := target :: uncovered :: below
          trees := .node production.head taken.reverse :: left } := by
  have lower : configuration.states.drop production.body.length = uncovered :: below := by
    rw [cuts.states, ← cuts.length_above, List.drop_left]
  have front : configuration.trees.take production.body.length = taken := by
    rw [cuts.trees, ← cuts.length_taken, List.take_left]
  have back : configuration.trees.drop production.body.length = left := by
    rw [cuts.trees, ← cuts.length_taken, List.drop_left]
  have enough : ¬ taken.length < production.body.length := Nat.not_lt.mpr cuts.length_taken.ge
  cases leads : table.goto? uncovered head <;>
    simp only [Table.reduce, found, numbered, lower, front, back, if_neg enough, leads]

theorem Stacked.reduce_eq_underflow_iff (stacked : Stacked tokens configuration)
    (found : table.productions[index]? = some production)
    (numbered : table.nonterminalIndex? production.head = some head) {other : Nat} :
    table.reduce index configuration = .error (.stackUnderflow other) ↔
      other = index ∧ configuration.trees.length < production.body.length := by
  by_cases longer : configuration.trees.length < production.body.length
  · have height := stacked.height
    have nothing : configuration.states.drop production.body.length = [] :=
      List.drop_eq_nil_of_le (by omega)
    simp [Table.reduce, found, numbered, nothing, longer, eq_comm]
  · obtain ⟨uncovered, above, below, taken, left, cuts⟩ :=
      stacked.exists_cuts (Nat.not_lt.mp longer)
    rw [cuts.reduce_eq found numbered]
    cases table.goto? uncovered head <;> simp [longer]

theorem reduce_of_unknown (unknown : table.productions[index]? = none)
    (configuration : Configuration) :
    table.reduce index configuration = .error (.unknownProduction index) := by
  simp only [Table.reduce, unknown]

theorem reduce_of_unnumbered (found : table.productions[index]? = some production)
    (unnumbered : table.nonterminalIndex? production.head = none) (configuration : Configuration) :
    table.reduce index configuration = .error (.unknownNonterminal production.head) := by
  simp only [Table.reduce, found, unnumbered]

theorem Stacked.eq_of_underflow (stacked : Stacked tokens configuration) {other : Nat}
    (fails : table.reduce index configuration = .error (.stackUnderflow other)) :
    other = index := by
  cases found : table.productions[index]? with
  | none =>
      rw [reduce_of_unknown found] at fails
      cases fails
  | some production =>
      cases numbered : table.nonterminalIndex? production.head with
      | none =>
          rw [reduce_of_unnumbered found numbered] at fails
          cases fails
      | some head => exact ((stacked.reduce_eq_underflow_iff found numbered).mp fails).1

theorem step_of_reduce_error {error : ParseError}
    (acts : table.nextAction? configuration = some (.reduce index))
    (fails : table.reduce index configuration = .error error) :
    step mode table configuration = .halt configuration (.failed error) := by
  obtain ⟨state, below, token, rest, top, split, here⟩ := exists_of_nextAction? acts
  simp only [step, top, split, here, fails]

def Underflows (mode : Mode) (table : Table) (configuration : Configuration) (index : Nat) : Prop :=
  ∃ last, step mode table configuration = .halt last (.failed (.stackUnderflow index))

theorem Stacked.underflows_iff (stacked : Stacked tokens configuration) :
    Underflows mode table configuration index ↔
      table.nextAction? configuration = some (.reduce index) ∧
        table.reduce index configuration = .error (.stackUnderflow index) := by
  constructor
  · intro underflows
    obtain ⟨last, halts⟩ := underflows
    cases change_of_step halts with
    | bare top =>
        have bottom := stacked.bottom
        rw [top] at bottom
        cases bottom
    | failed acts fails =>
        obtain rfl := stacked.eq_of_underflow fails
        exact ⟨acts, fails⟩
  · intro fails
    exact ⟨configuration, step_of_reduce_error fails.1 fails.2⟩

/-- The stacks are safe on any table. A reduction by a production that the table has, with a head
that it numbers, fails for an underflow exactly if the body is longer than the trees; a production or
a number that is missing is reported before any length is looked at. -/
theorem stacks_safe (mode : Mode) (table : Table) (tokens : List Token) :
    (∀ configuration, Reaches mode table (.start tokens) configuration →
      Stacked tokens configuration ∧
      (∀ index, Underflows mode table configuration index ↔
        table.nextAction? configuration = some (.reduce index) ∧
          table.reduce index configuration = .error (.stackUnderflow index)) ∧
      (∀ index, table.productions[index]? = none →
        table.reduce index configuration = .error (.unknownProduction index)) ∧
      (∀ index production, table.productions[index]? = some production →
        table.nonterminalIndex? production.head = none →
          table.reduce index configuration = .error (.unknownNonterminal production.head)) ∧
      ∀ index production head, table.productions[index]? = some production →
        table.nonterminalIndex? production.head = some head →
          (table.reduce index configuration = .error (.stackUnderflow index) ↔
            configuration.trees.length < production.body.length) ∧
          (production.body.length ≤ configuration.trees.length →
            ∃ uncovered above below taken left,
              Cuts configuration production.body.length uncovered above below taken left ∧
              table.reduce index configuration = match table.goto? uncovered head with
                | none => .error (.missingGoto uncovered production.head)
                | some target => .ok { configuration with
                    states := target :: uncovered :: below
                    trees := .node production.head taken.reverse :: left })) ∧
    ∀ steps result, table.parse steps tokens = some (.ok result) →
      result.states.getLast? = some 0 := by
  constructor
  · intro configuration reaches
    have stacked := stacked_of_reaches reaches
    refine ⟨stacked, fun index => stacked.underflows_iff,
      fun index unknown => reduce_of_unknown unknown configuration,
      fun index production found unnumbered => reduce_of_unnumbered found unnumbered configuration,
      ?_⟩
    intro index production head found numbered
    constructor
    · rw [stacked.reduce_eq_underflow_iff found numbered, and_iff_right rfl]
    · intro enough
      obtain ⟨uncovered, above, below, taken, left, cuts⟩ := stacked.exists_cuts enough
      exact ⟨uncovered, above, below, taken, left, cuts, cuts.reduce_eq found numbered⟩
  · intro steps result answers
    obtain ⟨last, reason, ran, rfl⟩ := run_of_parse answers
    exact (stacked_of_run ran).bottom

def unnumberedTable : Table :=
  { actions := #[#[⟨Terminal.eof, .reduce 0⟩]]
    gotos := #[#[]]
    terminals := #[]
    productions := #[⟨"item", [.terminal 0]⟩]
    nonterminals := []
    states := []
    conflicts := [] }

/-- Where the head has no number that is what a reduction fails for, however long the body is. -/
theorem not_underflow_unnumbered :
    ¬ ∀ (mode : Mode) (table : Table) (tokens : List Token) (configuration : Configuration)
      (index : Nat) (production : Production),
      Reaches mode table (.start tokens) configuration →
      table.nextAction? configuration = some (.reduce index) →
      table.productions[index]? = some production →
      (table.reduce index configuration = .error (.stackUnderflow index) ↔
        configuration.trees.length < production.body.length) := by
  intro always
  let eof : Token := ⟨"", Terminal.eofName, Terminal.eof, 1, 1, 1, 0, 0⟩
  have acts : unnumberedTable.nextAction? (.start [eof]) = some (.reduce 0) := by decide
  have fails : unnumberedTable.reduce 0 (.start [eof]) = .error (.unknownNonterminal "item") := by
    decide
  have underflows := (always .recover unnumberedTable [eof] (.start [eof]) 0
    ⟨"item", [.terminal 0]⟩ .refl acts rfl).mpr (by decide)
  rw [fails] at underflows
  cases underflows

end Table

end CanonicalLR
