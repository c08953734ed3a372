import CanonicalLR.Grammar.Rule
import CanonicalLR.Tree.Basic

/-!
Splicing repetitions. In a tree fresh from the parser the rounds of a repetition nest, each one
holding the rest of them. Splicing puts the children of such nodes in their place, at every depth,
and so leaves none of them. The nesting of rounds is unrolled on a stack of pending children, while
other nodes are spliced on their own.
-/

namespace CanonicalLR

mutual

def Tree.spliceSteps : Tree → Nat
  | .leaf _ => 1
  | .node _ children => 1 + listSpliceSteps children

/-- Number of steps that splicing takes for a list of trees, its end included. -/
def listSpliceSteps : List Tree → Nat
  | [] => 1
  | tree :: rest => tree.spliceSteps + listSpliceSteps rest

end

/-- Splices the pending lists one after the other. -/
def splicePending : (steps : Nat) → (pending : List (List Tree)) → List Tree
  | 0, _ => []
  | _, [] => []
  | steps + 1, [] :: pending => splicePending steps pending
  | steps + 1, (.leaf token :: rest) :: pending =>
      .leaf token :: splicePending steps (rest :: pending)
  | steps + 1, (.node name children :: rest) :: pending =>
      if Rule.isRepetition name then splicePending steps (children :: rest :: pending)
      else .node name (splicePending steps [children]) :: splicePending steps (rest :: pending)

/-- The trees with all repetitions in them, and among them, replaced by their children. -/
def splice (trees : List Tree) : List Tree :=
  splicePending (listSpliceSteps trees) [trees]

end CanonicalLR
