import CanonicalLR.Lexical.Token

/-!
Syntax trees. A leaf is a token, a node is what a rule was reduced to.
-/

namespace CanonicalLR

inductive Tree where
  | leaf (token : Token)
  | node (name : String) (children : List Tree)
deriving Repr

namespace Tree

mutual

def decEq : (a b : Tree) → Decidable (a = b)
  | .leaf a, .leaf b => decidable_of_iff (a = b) (by simp)
  | .leaf _, .node _ _ => .isFalse nofun
  | .node _ _, .leaf _ => .isFalse nofun
  | .node a as, .node b bs =>
      let _ := decEqs as bs
      decidable_of_iff (a = b ∧ as = bs) (by simp)

def decEqs : (as bs : List Tree) → Decidable (as = bs)
  | [], [] => .isTrue rfl
  | [], _ :: _ => .isFalse nofun
  | _ :: _, [] => .isFalse nofun
  | a :: as, b :: bs =>
      let _ := decEq a b
      let _ := decEqs as bs
      decidable_of_iff (a = b ∧ as = bs) (by simp)

end

instance : DecidableEq Tree :=
  decEq

end Tree

end CanonicalLR
