import CanonicalLR.Flat.Expansion
import CanonicalLR.Item.Search
import CanonicalLR.Lexical.Vocabulary
import CanonicalLR.Table.Basic

/-!
From the canonical collection to a table. The items of a state claim the cells of its row, in the
order of the items: an item before a terminal claims it for the shift, a complete item claims each
of its lookaheads. Where claims differ the last one stands, and each change of mind is recorded.
-/

namespace CanonicalLR

/-- The action when a production is complete. -/
def completion (index : Nat) (production : Production) : Action :=
  if production.head == Rule.startName then .accept else .reduce index

def State.claimsOfItem (grammar : FlatGrammar) (state : State) (core : Core)
    (lookaheads : OrderedSet Terminal) : List (Terminal × Action) :=
  match grammar.productions[core.production]? with
  | none => []
  | some production =>
      match production.body[core.dot]? with
      | some (.terminal terminal) =>
          (state.transitions.get? (.terminal terminal)).toList.map fun target =>
            (terminal, .shift target)
      | some (.nonterminal _) => []
      | none => lookaheads.members.map fun lookahead =>
          (lookahead, completion core.production production)

def State.claims (grammar : FlatGrammar) (state : State) : List (Terminal × Action) :=
  state.items.entries.flatMap fun (core, lookaheads) =>
    state.claimsOfItem grammar core lookaheads

/-- The row that claims fill, each one taking its cell. -/
def rowOf (claims : List (Terminal × Action)) : OrderedMap Terminal Action :=
  claims.foldl (fun row (terminal, action) => row.insert terminal action) .empty

/-- The conflicts of claims with those before them, which have filled `row`. -/
def conflictsAmong (state : Nat) (row : OrderedMap Terminal Action) :
    List (Terminal × Action) → List Conflict
  | [] => []
  | (terminal, chosen) :: rest =>
      let later := conflictsAmong state (row.insert terminal chosen) rest
      match row.get? terminal with
      | none => later
      | some previous =>
          if previous = chosen then later else ⟨state, terminal, previous, chosen⟩ :: later

def actionCells (row : OrderedMap Terminal Action) : Array ActionCell :=
  (row.entries.map fun (terminal, action) => ⟨terminal, action⟩).toArray

def State.gotoCells (state : State) : Array GotoCell :=
  (state.transitions.entries.filterMap fun (symbol, target) =>
    symbol.nonterminal?.map fun nonterminal => ⟨nonterminal, target⟩).toArray

def State.record (state : State) : StateRecord :=
  { items := state.items.entries.map fun (core, lookaheads) =>
      ⟨core.production, core.dot, lookaheads.members⟩
    transitions := state.transitions.entries.map fun (symbol, target) => ⟨symbol, target⟩ }

/-- The terminals that a table knows by name: the end of the input and the kinds of a vocabulary,
each with the group that it belongs to. -/
def Vocabulary.terminalEntries (vocabulary : Vocabulary) : Array TerminalEntry :=
  #[⟨Terminal.eof, Terminal.eofName, none⟩] ++ vocabulary.kinds.map fun kind =>
    ⟨kind.index, kind.name, (vocabulary.groupOf? kind.index).map (·.name)⟩

namespace Table

def ofAutomaton (vocabulary : Vocabulary) (grammar : FlatGrammar) (automaton : Automaton) :
    Table :=
  let claims := automaton.states.map (State.claims grammar)
  { actions := claims.map fun claims => actionCells (rowOf claims)
    gotos := automaton.states.map State.gotoCells
    terminals := vocabulary.terminalEntries
    productions := grammar.productions
    nonterminals := grammar.nonterminals
    states := automaton.states.toList.map State.record
    conflicts := claims.toList.zipIdx.flatMap fun (claims, state) =>
      conflictsAmong state .empty claims }

def cellCount (table : Table) : Nat :=
  (table.actions.toList.flatMap Array.toList).length

def buildNotices (table : Table) : List Notice :=
  table.conflicts.map (fun conflict =>
    .conflict conflict.state conflict.terminal conflict.previous conflict.chosen) ++
  [.tableBuilt table.stateCount table.cellCount table.conflicts.length]

/-- Validates and flattens a grammar, and builds the table of its canonical collection. -/
def build (vocabulary : Vocabulary) (grammar : Grammar) (root : RuleId) :
    Except GrammarError Table × List Notice :=
  match grammar.flatten root with
  | (.error error, notices) => (.error error, notices)
  | (.ok flat, notices) =>
      let (automaton, stateNotices) := Automaton.ofGrammar flat
      let table := ofAutomaton vocabulary flat automaton
      (.ok table, notices ++ stateNotices ++ table.buildNotices)

end Table

end CanonicalLR
