import CanonicalLR.Terminal

/-!
Decisions of a parser in a state on a terminal.
-/

namespace CanonicalLR

inductive Action where
  /-- Take the token and go to a state. -/
  | shift (state : Nat)
  /-- Reduce by a production. -/
  | reduce (production : Nat)
  /-- The input is a sentence. -/
  | accept
deriving DecidableEq, Repr

def Action.text : Action → String
  | .shift state => s!"Shift({state})"
  | .reduce production => s!"Reduce({production})"
  | .accept => "Accept"

end CanonicalLR
