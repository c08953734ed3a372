import CanonicalLR.Json.Codec
import CanonicalLR.Table.Basic

/-!
Tables as JSON texts. The parts of a table are told to the library under the names of their fields, in
the order of the fields.
-/

namespace CanonicalLR

open Reflected (shape)

instance : Reflected Action where
  shape := .choice ["Accept"] [("Shift", shape Nat), ("Reduce", shape Nat)]
  toData
    | .shift state => .holder "Shift" (toData state)
    | .reduce production => .holder "Reduce" (toData production)
    | .accept => .bare "Accept"
  ofData?
    | .holder "Shift" state => (ofData? state).map .shift
    | .holder "Reduce" production => (ofData? production).map .reduce
    | .bare "Accept" => some .accept
    | _ => none
  ofData?_toData action := by cases action <;> simp

instance : Reflected Symbol where
  shape := .choice [] [("Terminal", shape Terminal), ("Nonterminal", shape Nat)]
  toData
    | .terminal number => .holder "Terminal" (toData number)
    | .nonterminal number => .holder "Nonterminal" (toData number)
  ofData?
    | .holder "Terminal" number => (ofData? number).map .terminal
    | .holder "Nonterminal" number => (ofData? number).map .nonterminal
    | _ => none
  ofData?_toData symbol := by cases symbol <;> simp

instance : Reflected ActionCell where
  shape := .record [("terminal", shape Terminal), ("action", shape Action)]
  toData cell := .record [("terminal", toData cell.terminal), ("action", toData cell.action)]
  ofData?
    | .record [(_, terminal), (_, action)] => return ⟨← ofData? terminal, ← ofData? action⟩
    | _ => none
  ofData?_toData := by simp

instance : Reflected GotoCell where
  shape := .record [("nonterminal", shape Nat), ("state", shape Nat)]
  toData cell := .record [("nonterminal", toData cell.nonterminal), ("state", toData cell.state)]
  ofData?
    | .record [(_, nonterminal), (_, state)] => return ⟨← ofData? nonterminal, ← ofData? state⟩
    | _ => none
  ofData?_toData := by simp

instance : Reflected TerminalEntry where
  shape := .record [("index", shape Terminal), ("name", shape String),
    ("group", shape (Option String))]
  toData entry := .record [("index", toData entry.index), ("name", toData entry.name),
    ("group", toData entry.group)]
  ofData?
    | .record [(_, index), (_, name), (_, group)] =>
        return ⟨← ofData? index, ← ofData? name, ← ofData? group⟩
    | _ => none
  ofData?_toData := by simp

instance : Reflected Production where
  shape := .record [("head", shape String), ("body", shape (List Symbol))]
  toData production := .record [("head", toData production.head), ("body", toData production.body)]
  ofData?
    | .record [(_, head), (_, body)] => return ⟨← ofData? head, ← ofData? body⟩
    | _ => none
  ofData?_toData := by simp

instance : Reflected NonterminalEntry where
  shape := .record [("name", shape String), ("index", shape Nat)]
  toData entry := .record [("name", toData entry.name), ("index", toData entry.index)]
  ofData?
    | .record [(_, name), (_, index)] => return ⟨← ofData? name, ← ofData? index⟩
    | _ => none
  ofData?_toData := by simp

instance : Reflected ItemRecord where
  shape := .record [("production", shape Nat), ("dot", shape Nat),
    ("lookaheads", shape (List Terminal))]
  toData item := .record [("production", toData item.production), ("dot", toData item.dot),
    ("lookaheads", toData item.lookaheads)]
  ofData?
    | .record [(_, production), (_, dot), (_, lookaheads)] =>
        return ⟨← ofData? production, ← ofData? dot, ← ofData? lookaheads⟩
    | _ => none
  ofData?_toData := by simp

instance : Reflected TransitionRecord where
  shape := .record [("symbol", shape Symbol), ("target", shape Nat)]
  toData transition := .record [("symbol", toData transition.symbol),
    ("target", toData transition.target)]
  ofData?
    | .record [(_, symbol), (_, target)] => return ⟨← ofData? symbol, ← ofData? target⟩
    | _ => none
  ofData?_toData := by simp

instance : Reflected StateRecord where
  shape := .record [("items", shape (List ItemRecord)),
    ("transitions", shape (List TransitionRecord))]
  toData state := .record [("items", toData state.items), ("transitions", toData state.transitions)]
  ofData?
    | .record [(_, items), (_, transitions)] => return ⟨← ofData? items, ← ofData? transitions⟩
    | _ => none
  ofData?_toData := by simp

instance : Reflected Conflict where
  shape := .record [("state", shape Nat), ("terminal", shape Terminal), ("previous", shape Action),
    ("chosen", shape Action)]
  toData conflict := .record [("state", toData conflict.state),
    ("terminal", toData conflict.terminal), ("previous", toData conflict.previous),
    ("chosen", toData conflict.chosen)]
  ofData?
    | .record [(_, state), (_, terminal), (_, previous), (_, chosen)] =>
        return ⟨← ofData? state, ← ofData? terminal, ← ofData? previous, ← ofData? chosen⟩
    | _ => none
  ofData?_toData := by simp

instance : Reflected Table where
  shape := .record [("actions", shape (Array (Array ActionCell))),
    ("gotos", shape (Array (Array GotoCell))), ("terminals", shape (Array TerminalEntry)),
    ("productions", shape (Array Production)), ("nonterminals", shape (List NonterminalEntry)),
    ("states", shape (List StateRecord)), ("conflicts", shape (List Conflict))]
  toData table := .record [("actions", toData table.actions), ("gotos", toData table.gotos),
    ("terminals", toData table.terminals), ("productions", toData table.productions),
    ("nonterminals", toData table.nonterminals), ("states", toData table.states),
    ("conflicts", toData table.conflicts)]
  ofData?
    | .record [(_, actions), (_, gotos), (_, terminals), (_, productions), (_, nonterminals),
        (_, states), (_, conflicts)] =>
        return ⟨← ofData? actions, ← ofData? gotos, ← ofData? terminals, ← ofData? productions,
          ← ofData? nonterminals, ← ofData? states, ← ofData? conflicts⟩
    | _ => none
  ofData?_toData := by simp

inductive TableError where
  /-- A text is not that of a table. -/
  | deserialize (reason : String)
deriving DecidableEq, Repr

def TableError.message : TableError → String
  | .deserialize reason => s!"failed to deserialize table: {reason}"

namespace Table

variable [JsonLibrary]

def text (table : Table) : String :=
  JsonLibrary.write table

def ofText (text : String) : Except TableError Table :=
  (JsonLibrary.read text).mapError .deserialize

def read? (text : String) : Option Table :=
  (ofText text).toOption

end Table

end CanonicalLR
