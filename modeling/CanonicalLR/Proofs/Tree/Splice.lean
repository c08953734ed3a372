import CanonicalLR.Proofs.Derivation.Basic
import CanonicalLR.Tree.Splice

namespace CanonicalLR

mutual

/-- What a tree comes to among its siblings. -/
def Tree.pieces : Tree → List Tree
  | .leaf token => [.leaf token]
  | .node name children =>
      if Rule.isRepetition name then forestPieces children else [.node name (forestPieces children)]

def forestPieces : List Tree → List Tree
  | [] => []
  | tree :: rest => tree.pieces ++ forestPieces rest

end

/-- A tree with all repetitions below its root spliced out. -/
def Tree.spliced : Tree → Tree
  | .leaf token => .leaf token
  | .node name children => .node name (forestPieces children)

theorem forestPieces_eq_flatMap (trees : List Tree) :
    forestPieces trees = trees.flatMap Tree.pieces := by
  induction trees with
  | nil => rfl
  | cons tree rest ih => rw [forestPieces, ih, List.flatMap_cons]

theorem forestPieces_append (front back : List Tree) :
    forestPieces (front ++ back) = forestPieces front ++ forestPieces back := by
  simp only [forestPieces_eq_flatMap, List.flatMap_append]

theorem forestPieces_singleton (tree : Tree) : forestPieces [tree] = tree.pieces := by
  rw [forestPieces, forestPieces, List.append_nil]

theorem mem_forestPieces {trees : List Tree} {piece : Tree} :
    piece ∈ forestPieces trees ↔ ∃ tree ∈ trees, piece ∈ tree.pieces := by
  rw [forestPieces_eq_flatMap, List.mem_flatMap]

theorem Tree.pieces_node_of_plain {name : String} (children : List Tree)
    (plain : Rule.isRepetition name = false) :
    (Tree.node name children).pieces = [.node name (forestPieces children)] := by
  rw [Tree.pieces, if_neg (Bool.eq_false_iff.mp plain)]

theorem Tree.pieces_node_of_repetition {name : String} (children : List Tree)
    (repetition : Rule.isRepetition name = true) :
    (Tree.node name children).pieces = forestPieces children := by
  rw [Tree.pieces, if_pos repetition]

theorem listSpliceSteps_pos : (trees : List Tree) → 0 < listSpliceSteps trees
  | [] => Nat.one_pos
  | tree :: rest => by
      rw [listSpliceSteps]
      exact Nat.add_pos_right _ (listSpliceSteps_pos rest)

def pendingSteps : (pending : List (List Tree)) → Nat
  | [] => 0
  | trees :: pending => listSpliceSteps trees + pendingSteps pending

theorem pendingSteps_nil_cons (pending : List (List Tree)) :
    pendingSteps ([] :: pending) = 1 + pendingSteps pending := rfl

theorem pendingSteps_leaf_cons (token : Token) (rest : List Tree) (pending : List (List Tree)) :
    pendingSteps ((.leaf token :: rest) :: pending) = 1 + pendingSteps (rest :: pending) :=
  Nat.add_assoc _ _ _

theorem pendingSteps_node_cons (name : String) (children rest : List Tree)
    (pending : List (List Tree)) :
    pendingSteps ((.node name children :: rest) :: pending)
      = 1 + pendingSteps (children :: rest :: pending) := by
  simp only [pendingSteps, listSpliceSteps, Tree.spliceSteps]
  omega

theorem pendingSteps_le_cons (trees : List Tree) (pending : List (List Tree)) :
    pendingSteps pending ≤ pendingSteps (trees :: pending) :=
  Nat.le_add_left _ _

theorem splicePending_eq {steps : Nat} {pending : List (List Tree)}
    (enough : pendingSteps pending ≤ steps) :
    splicePending steps pending = pending.flatMap forestPieces := by
  induction steps generalizing pending with
  | zero =>
      cases pending with
      | nil => rfl
      | cons trees pending =>
          have positive : 0 < pendingSteps (trees :: pending) :=
            Nat.add_pos_left (listSpliceSteps_pos trees) _
          exact absurd enough (Nat.not_le.mpr positive)
  | succ steps ih =>
      cases pending with
      | nil => rfl
      | cons trees pending =>
          cases trees with
          | nil =>
              rw [pendingSteps_nil_cons] at enough
              rw [splicePending, ih (by omega), List.flatMap_cons, forestPieces, List.nil_append]
          | cons tree rest =>
              cases tree with
              | leaf token =>
                  rw [pendingSteps_leaf_cons] at enough
                  rw [splicePending, ih (by omega), List.flatMap_cons, List.flatMap_cons,
                    forestPieces, Tree.pieces, List.cons_append, List.nil_append,
                    List.cons_append]
              | node name children =>
                  rw [pendingSteps_node_cons] at enough
                  have later := pendingSteps_le_cons children (rest :: pending)
                  have alone : pendingSteps [children]
                      ≤ pendingSteps (children :: rest :: pending) :=
                    Nat.add_le_add_left (Nat.zero_le _) _
                  rw [splicePending, ih (by omega), ih (by omega), ih (by omega)]
                  simp only [List.flatMap_cons, List.flatMap_nil, List.append_nil, forestPieces,
                    Tree.pieces]
                  by_cases repetition : Rule.isRepetition name = true
                  · rw [if_pos repetition, if_pos repetition, List.append_assoc]
                  · rw [if_neg repetition, if_neg repetition]
                    rfl

theorem splice_eq (trees : List Tree) : splice trees = forestPieces trees := by
  have enough : pendingSteps [trees] ≤ listSpliceSteps trees := Nat.le_refl _
  rw [splice, splicePending_eq enough, List.flatMap_singleton]

theorem splice_singleton {name : String} {children : List Tree}
    (plain : Rule.isRepetition name = false) :
    splice [.node name children] = [(Tree.node name children).spliced] := by
  rw [splice_eq]
  simp only [forestPieces, Tree.pieces, plain, Bool.false_eq_true, if_false, Tree.spliced,
    List.append_nil]

mutual

theorem forestLeaves_pieces : (tree : Tree) → forestLeaves tree.pieces = tree.leaves
  | .leaf _ => rfl
  | .node name children => by
      rw [Tree.pieces, Tree.leaves]
      split
      · exact forestLeaves_forestPieces children
      · rw [forestLeaves_singleton, Tree.leaves, forestLeaves_forestPieces children]

theorem forestLeaves_forestPieces :
    (trees : List Tree) → forestLeaves (forestPieces trees) = forestLeaves trees
  | [] => rfl
  | tree :: rest => by
      rw [forestPieces, forestLeaves_append, forestLeaves_pieces tree,
        forestLeaves_forestPieces rest]
      rfl

end

theorem Tree.leaves_spliced (tree : Tree) : tree.spliced.leaves = tree.leaves := by
  cases tree with
  | leaf token => rfl
  | node name children => exact forestLeaves_forestPieces children

mutual

def Tree.labels : Tree → List String
  | .leaf _ => []
  | .node name children => name :: forestLabels children

def forestLabels : List Tree → List String
  | [] => []
  | tree :: rest => tree.labels ++ forestLabels rest

end

theorem forestLabels_eq_flatMap (trees : List Tree) :
    forestLabels trees = trees.flatMap Tree.labels := by
  induction trees with
  | nil => rfl
  | cons tree rest ih => rw [forestLabels, ih, List.flatMap_cons]

theorem forestLabels_append (front back : List Tree) :
    forestLabels (front ++ back) = forestLabels front ++ forestLabels back := by
  simp only [forestLabels_eq_flatMap, List.flatMap_append]

theorem mem_forestLabels {trees : List Tree} {name : String} :
    name ∈ forestLabels trees ↔ ∃ tree ∈ trees, name ∈ tree.labels := by
  rw [forestLabels_eq_flatMap, List.mem_flatMap]

mutual

theorem forestLabels_pieces : (tree : Tree) →
    forestLabels tree.pieces = tree.labels.filter fun name => !Rule.isRepetition name
  | .leaf _ => rfl
  | .node name children => by
      have below := forestLabels_forestPieces children
      cases plain : Rule.isRepetition name with
      | true =>
          rw [Tree.pieces_node_of_repetition children plain, Tree.labels,
            List.filter_cons_of_neg (by simp [plain]), below]
      | false =>
          rw [Tree.pieces_node_of_plain children plain, Tree.labels,
            List.filter_cons_of_pos (by simp [plain]), forestLabels, Tree.labels, below,
            forestLabels, List.append_nil]

theorem forestLabels_forestPieces : (trees : List Tree) →
    forestLabels (forestPieces trees) =
      (forestLabels trees).filter fun name => !Rule.isRepetition name
  | [] => rfl
  | tree :: rest => by
      rw [forestPieces, forestLabels_append, forestLabels_pieces tree,
        forestLabels_forestPieces rest, forestLabels, List.filter_append]

end

end CanonicalLR
