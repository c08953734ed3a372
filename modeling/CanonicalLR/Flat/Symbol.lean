import CanonicalLR.Terminal
import CanonicalLR.Ordered.Key

/-!
Symbols of flat grammars. Terminals come before nonterminals, and both are ordered by number.
-/

namespace CanonicalLR

inductive Symbol where
  | terminal (number : Terminal)
  | nonterminal (number : Nat)
deriving DecidableEq, Repr

namespace Symbol

def Below : Symbol → Symbol → Prop
  | .terminal a, .terminal b => a < b
  | .terminal _, .nonterminal _ => True
  | .nonterminal _, .terminal _ => False
  | .nonterminal a, .nonterminal b => a < b

instance : LT Symbol :=
  ⟨Below⟩

instance : DecidableLT Symbol
  | .terminal a, .terminal b => inferInstanceAs (Decidable (a < b))
  | .terminal _, .nonterminal _ => .isTrue trivial
  | .nonterminal _, .terminal _ => .isFalse id
  | .nonterminal a, .nonterminal b => inferInstanceAs (Decidable (a < b))

instance : Key Symbol where
  irrefl
    | .terminal a => Int.lt_irrefl a
    | .nonterminal a => Nat.lt_irrefl a
  trans := by
    intro a b c first second
    cases a <;> cases b <;> cases c <;> simp only [LT.lt, Below] at first second ⊢
    all_goals first | exact Int.lt_trans first second | exact Nat.lt_trans first second
  connected := by
    intro a b notLess notGreater
    cases a <;> cases b <;> simp only [LT.lt, Below, not_true] at notLess notGreater
    · exact congrArg _ (Key.connected notLess notGreater)
    · exact congrArg _ (Key.connected notLess notGreater)

def text : Symbol → String
  | .terminal number => s!"t{number}"
  | .nonterminal number => s!"n{number}"

def nonterminal? : Symbol → Option Nat
  | .terminal _ => none
  | .nonterminal number => some number

end Symbol

end CanonicalLR
