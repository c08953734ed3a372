import CanonicalLR.Proofs.Json.Codec
import CanonicalLR.Table.Text
import Mathlib.Tactic.MkIffOfInductiveProp

namespace CanonicalLR

open JsonLibrary

/-! ### Numbers in range -/

def Action.Fits : Action → Prop
  | .shift state => IsWord state
  | .reduce production => IsWord production
  | .accept => True

def Symbol.Fits : Symbol → Prop
  | .terminal number => IsHalfWord number
  | .nonterminal number => IsWord number

@[mk_iff]
structure ActionCell.Fits (cell : ActionCell) : Prop where
  terminal : IsHalfWord cell.terminal
  action : cell.action.Fits

@[mk_iff]
structure GotoCell.Fits (cell : GotoCell) : Prop where
  nonterminal : IsWord cell.nonterminal
  state : IsWord cell.state

def Production.Fits (production : Production) : Prop :=
  ∀ symbol ∈ production.body, symbol.Fits

@[mk_iff]
structure ItemRecord.Fits (item : ItemRecord) : Prop where
  production : IsWord item.production
  dot : IsWord item.dot
  lookaheads : ∀ terminal ∈ item.lookaheads, IsHalfWord terminal

@[mk_iff]
structure TransitionRecord.Fits (transition : TransitionRecord) : Prop where
  symbol : transition.symbol.Fits
  target : IsWord transition.target

@[mk_iff]
structure StateRecord.Fits (state : StateRecord) : Prop where
  items : ∀ item ∈ state.items, item.Fits
  transitions : ∀ transition ∈ state.transitions, transition.Fits

@[mk_iff]
structure Conflict.Fits (conflict : Conflict) : Prop where
  state : IsWord conflict.state
  terminal : IsHalfWord conflict.terminal
  previous : conflict.previous.Fits
  chosen : conflict.chosen.Fits

@[mk_iff]
structure Table.Fits (table : Table) : Prop where
  actions : ∀ row ∈ table.actions, ∀ cell ∈ row, cell.Fits
  gotos : ∀ row ∈ table.gotos, ∀ cell ∈ row, cell.Fits
  terminals : ∀ entry ∈ table.terminals, IsHalfWord entry.index
  productions : ∀ production ∈ table.productions, production.Fits
  nonterminals : ∀ entry ∈ table.nonterminals, IsWord entry.index
  states : ∀ state ∈ table.states, state.Fits
  conflicts : ∀ conflict ∈ table.conflicts, conflict.Fits

instance : DecidablePred Action.Fits
  | .shift _ | .reduce _ => inferInstanceAs (Decidable (IsWord _))
  | .accept => .isTrue trivial

instance : DecidablePred Symbol.Fits
  | .terminal _ => inferInstanceAs (Decidable (IsHalfWord _))
  | .nonterminal _ => inferInstanceAs (Decidable (IsWord _))

instance : DecidablePred ActionCell.Fits :=
  fun cell => decidable_of_iff _ (ActionCell.fits_iff cell).symm

instance : DecidablePred GotoCell.Fits :=
  fun cell => decidable_of_iff _ (GotoCell.fits_iff cell).symm

instance : DecidablePred Production.Fits :=
  fun production => inferInstanceAs (Decidable (∀ symbol ∈ production.body, symbol.Fits))

instance : DecidablePred ItemRecord.Fits :=
  fun item => decidable_of_iff _ (ItemRecord.fits_iff item).symm

instance : DecidablePred TransitionRecord.Fits :=
  fun transition => decidable_of_iff _ (TransitionRecord.fits_iff transition).symm

instance : DecidablePred StateRecord.Fits :=
  fun state => decidable_of_iff _ (StateRecord.fits_iff state).symm

instance : DecidablePred Conflict.Fits :=
  fun conflict => decidable_of_iff _ (Conflict.fits_iff conflict).symm

instance : DecidablePred Table.Fits :=
  fun table => decidable_of_iff _ (Table.fits_iff table).symm

/-! ### Alternatives and records -/

theorem Action.Fits.returns {action : Action} (fits : action.Fits) : Returns action := by
  cases action with
  | shift state => exact .holder rfl (returns_nat fits)
  | reduce production => exact .holder rfl (returns_nat fits)
  | accept => exact .bare (List.mem_singleton_self _)

theorem Symbol.Fits.returns {symbol : Symbol} (fits : symbol.Fits) : Returns symbol := by
  cases symbol with
  | terminal number => exact .holder rfl (returns_int fits)
  | nonterminal number => exact .holder rfl (returns_nat fits)

theorem ActionCell.Fits.returns {cell : ActionCell} (fits : cell.Fits) : Returns cell :=
  reads_record (by decide) <|
    .cons ⟨rfl, returns_int fits.terminal⟩ <|
    .cons ⟨rfl, fits.action.returns⟩ .nil

theorem GotoCell.Fits.returns {cell : GotoCell} (fits : cell.Fits) : Returns cell :=
  reads_record (by decide) <|
    .cons ⟨rfl, returns_nat fits.nonterminal⟩ <|
    .cons ⟨rfl, returns_nat fits.state⟩ .nil

theorem returns_terminalEntry {entry : TerminalEntry} (halfWord : IsHalfWord entry.index) :
    Returns entry := by
  have group : Returns entry.group := .option (fun text _ => returns_string text) nofun
  exact reads_record (by decide) <|
    .cons ⟨rfl, returns_int halfWord⟩ <|
    .cons ⟨rfl, returns_string entry.name⟩ <|
    .cons ⟨rfl, group⟩ .nil

theorem Production.Fits.returns {production : Production} (fits : production.Fits) :
    Returns production := by
  have body : Returns production.body := .list fun symbol member => (fits symbol member).returns
  exact reads_record (by decide) <|
    .cons ⟨rfl, returns_string production.head⟩ <|
    .cons ⟨rfl, body⟩ .nil

theorem returns_nonterminalEntry {entry : NonterminalEntry} (word : IsWord entry.index) :
    Returns entry :=
  reads_record (by decide) <|
    .cons ⟨rfl, returns_string entry.name⟩ <|
    .cons ⟨rfl, returns_nat word⟩ .nil

theorem ItemRecord.Fits.returns {item : ItemRecord} (fits : item.Fits) : Returns item := by
  have lookaheads : Returns item.lookaheads := .list fun terminal member =>
    returns_int (fits.lookaheads terminal member)
  exact reads_record (by decide) <|
    .cons ⟨rfl, returns_nat fits.production⟩ <|
    .cons ⟨rfl, returns_nat fits.dot⟩ <|
    .cons ⟨rfl, lookaheads⟩ .nil

theorem TransitionRecord.Fits.returns {transition : TransitionRecord} (fits : transition.Fits) :
    Returns transition :=
  reads_record (by decide) <|
    .cons ⟨rfl, fits.symbol.returns⟩ <|
    .cons ⟨rfl, returns_nat fits.target⟩ .nil

theorem StateRecord.Fits.returns {state : StateRecord} (fits : state.Fits) : Returns state := by
  have items : Returns state.items := .list fun item member => (fits.items item member).returns
  have transitions : Returns state.transitions := .list fun transition member =>
    (fits.transitions transition member).returns
  exact reads_record (by decide) <|
    .cons ⟨rfl, items⟩ <|
    .cons ⟨rfl, transitions⟩ .nil

theorem Conflict.Fits.returns {conflict : Conflict} (fits : conflict.Fits) : Returns conflict :=
  reads_record (by decide) <|
    .cons ⟨rfl, returns_nat fits.state⟩ <|
    .cons ⟨rfl, returns_int fits.terminal⟩ <|
    .cons ⟨rfl, fits.previous.returns⟩ <|
    .cons ⟨rfl, fits.chosen.returns⟩ .nil

/-! ### Tables -/

namespace Table

theorem Fits.returns {table : Table} (fits : table.Fits) : Returns table := by
  have actions : Returns table.actions := .array fun row member =>
    .array fun cell listed => (fits.actions row member cell listed).returns
  have gotos : Returns table.gotos := .array fun row member =>
    .array fun cell listed => (fits.gotos row member cell listed).returns
  have terminals : Returns table.terminals := .array fun entry member =>
    returns_terminalEntry (fits.terminals entry member)
  have productions : Returns table.productions := .array fun production member =>
    (fits.productions production member).returns
  have nonterminals : Returns table.nonterminals := .list fun entry member =>
    returns_nonterminalEntry (fits.nonterminals entry member)
  have states : Returns table.states := .list fun state member => (fits.states state member).returns
  have conflicts : Returns table.conflicts := .list fun conflict member =>
    (fits.conflicts conflict member).returns
  exact reads_record (by decide) <|
    .cons ⟨rfl, actions⟩ <|
    .cons ⟨rfl, gotos⟩ <|
    .cons ⟨rfl, terminals⟩ <|
    .cons ⟨rfl, productions⟩ <|
    .cons ⟨rfl, nonterminals⟩ <|
    .cons ⟨rfl, states⟩ <|
    .cons ⟨rfl, conflicts⟩ .nil

/-- A table is read back from its text, whatever it holds, as long as its indices have 64 bits and its
terminals 32. -/
theorem ofText_text [library : JsonLibrary] {print : JsonValue → String}
    (documented : library.Documented print) (table : Table) (fits : table.Fits) :
    ofText table.text = .ok table := by
  rw [ofText, text, documented.read_write fits.returns]
  rfl

def odd : Table :=
  { actions := #[#[⟨-1, .accept⟩, ⟨2147483647, .shift 18446744073709551615⟩], #[],
      #[⟨-2147483648, .reduce 0⟩]]
    gotos := #[#[⟨99999, 3⟩], #[]]
    terminals := #[⟨-1, "EOF", none⟩, ⟨7, "\"\\/\n\x00\x1f\x7f é 漢", some "\t\r\x08\x0c 😀"⟩]
    productions := #[⟨"S'", [.nonterminal 0, .terminal (-5)]⟩, ⟨"", []⟩]
    nonterminals := [⟨"S'", 99999⟩, ⟨"S'", 0⟩]
    states := [⟨[⟨0, 1, [-1, 3]⟩, ⟨5, 0, []⟩], [⟨.terminal 7, 2⟩, ⟨.nonterminal 1, 0⟩]⟩, ⟨[], []⟩]
    conflicts := [⟨1, -1, .shift 2, .accept⟩] }

theorem ofText_text_odd :
    odd.Fits ∧ @ofText JsonValue.library (@text JsonValue.library odd) = .ok odd :=
  have fits : odd.Fits := by decide
  ⟨fits, ofText_text JsonValue.documented_library odd fits⟩

end Table

end CanonicalLR
