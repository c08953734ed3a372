import CanonicalLR.Table.Action

/-!
What the library reports besides its results: notices of four levels, each with a text.
-/

namespace CanonicalLR

inductive Notice.Level where
  | warn
  | info
  | debug
  | trace
deriving DecidableEq, Repr

inductive Notice where
  | lexingStopped (offset : Nat)
  | unreachableRule (name : String)
  | leftRecursion (name : String)
  | grammarFlattened (productions nonterminals : Nat)
  | statesBuilt (states : Nat)
  | conflict (state : Nat) (terminal : Terminal) (previous chosen : Action)
  | tableBuilt (states cells conflicts : Nat)
  | noAction (state : Nat) (name image : String)
  | acted (state : Nat) (name image : String) (action : Action)
deriving DecidableEq, Repr

namespace Notice

def level : Notice → Level
  | .unreachableRule _ | .conflict .. => .warn
  | .leftRecursion _ => .info
  | .lexingStopped _ | .grammarFlattened .. | .statesBuilt _ | .tableBuilt .. => .debug
  | .noAction .. | .acted .. => .trace

def text : Notice → String
  | .lexingStopped offset => s!"lexing stopped at offset {offset}"
  | .unreachableRule name => s!"unreachable rule '{name}'"
  | .leftRecursion name => s!"rule '{name}' is left recursive"
  | .grammarFlattened productions nonterminals =>
      s!"compiled {productions} productions over {nonterminals} nonterminals"
  | .statesBuilt states => s!"built {states} LR(1) states"
  | .conflict state terminal previous chosen =>
      s!"conflict in state {state} on terminal {terminal}: " ++
        s!"{previous.text} replaced by {chosen.text}"
  | .tableBuilt states cells conflicts =>
      s!"table has {states} states, {cells} action cells, {conflicts} conflicts"
  | .noAction state name image => s!"state {state}: no action on {name} '{image}'"
  | .acted state name image action => s!"state {state}, token {name} '{image}': {action.text}"

end Notice

end CanonicalLR
