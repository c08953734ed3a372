import CanonicalLR.Proofs.Tree.Splice

namespace CanonicalLR

mutual

def Tree.outline (parent : Option Nat) (next : Nat) : Tree → List (Option Nat × (Token ⊕ String))
  | .leaf token => [(parent, .inl token)]
  | .node name children =>
      if Rule.isRepetition name then forestOutline parent next children
      else (parent, .inr name) :: forestOutline (some next) (next + 1) children

def forestOutline (parent : Option Nat) (next : Nat) :
    List Tree → List (Option Nat × (Token ⊕ String))
  | [] => []
  | tree :: rest =>
      tree.outline parent next ++
        forestOutline parent (next + (tree.outline parent next).length) rest

end

/-- Whether there is no repetition in a forest, at any depth. -/
def Unrepeated (trees : List Tree) : Prop :=
  ∀ name ∈ forestLabels trees, Rule.isRepetition name = false

variable {parent : Option Nat} {next : Nat} {name : String} {children rest trees others : List Tree}

theorem Unrepeated.tail {tree : Tree} (plain : Unrepeated (tree :: rest)) : Unrepeated rest :=
  fun name member => plain name (List.mem_append_right _ member)

theorem Unrepeated.plain_name (plain : Unrepeated (.node name children :: rest)) :
    Rule.isRepetition name = false :=
  plain name List.mem_cons_self

theorem Unrepeated.inner (plain : Unrepeated (.node name children :: rest)) :
    Unrepeated children :=
  fun name member => plain name (List.mem_append_left _ (List.mem_cons_of_mem _ member))

theorem unrepeated_splice (trees : List Tree) : Unrepeated (splice trees) := by
  intro name member
  rw [splice_eq, forestLabels_forestPieces] at member
  simpa using (List.mem_filter.mp member).2

/-! ### Splicing keeps the outline -/

theorem forestOutline_append (front back : List Tree) :
    forestOutline parent next (front ++ back) = forestOutline parent next front ++
      forestOutline parent (next + (forestOutline parent next front).length) back := by
  induction front generalizing next with
  | nil => rfl
  | cons tree rest ih =>
      simp only [List.cons_append, forestOutline, ih, List.append_assoc, List.length_append,
        Nat.add_assoc]

theorem forestOutline_singleton (tree : Tree) :
    forestOutline parent next [tree] = tree.outline parent next := by
  simp only [forestOutline, List.append_nil]

mutual

theorem forestOutline_pieces (parent : Option Nat) (next : Nat) :
    (tree : Tree) → forestOutline parent next tree.pieces = tree.outline parent next
  | .leaf token => forestOutline_singleton (.leaf token)
  | .node name children => by
      cases repeats : Rule.isRepetition name with
      | true =>
          rw [Tree.pieces_node_of_repetition children repeats, Tree.outline, if_pos repeats,
            forestOutline_forestPieces parent next children]
      | false =>
          have plain : ¬ Rule.isRepetition name = true := Bool.eq_false_iff.mp repeats
          rw [Tree.pieces_node_of_plain children repeats, forestOutline_singleton, Tree.outline,
            if_neg plain, Tree.outline, if_neg plain,
            forestOutline_forestPieces (some next) (next + 1) children]

theorem forestOutline_forestPieces (parent : Option Nat) (next : Nat) : (trees : List Tree) →
    forestOutline parent next (forestPieces trees) = forestOutline parent next trees
  | [] => rfl
  | tree :: rest => by
      rw [forestPieces, forestOutline_append, forestOutline_pieces parent next tree,
        forestOutline_forestPieces parent _ rest, forestOutline]

end

theorem forestOutline_splice (parent : Option Nat) (next : Nat) (trees : List Tree) :
    forestOutline parent next (splice trees) = forestOutline parent next trees := by
  rw [splice_eq, forestOutline_forestPieces]

/-! ### Outlines tell forests without repetitions apart -/

theorem forestOutline_leaf (token : Token) :
    forestOutline parent next (.leaf token :: rest) =
      (parent, .inl token) :: forestOutline parent (next + 1) rest := rfl

theorem forestOutline_node (plain : Rule.isRepetition name = false) :
    forestOutline parent next (.node name children :: rest) =
      (parent, .inr name) :: (forestOutline (some next) (next + 1) children ++
        forestOutline parent (next + 1 + (forestOutline (some next) (next + 1) children).length)
          rest) := by
  rw [forestOutline, Tree.outline, if_neg (Bool.eq_false_iff.mp plain), List.length_cons,
    List.cons_append, Nat.add_assoc, Nat.add_comm 1]

mutual

theorem parent_of_mem_outline (parent : Option Nat) (next : Nat) : (tree : Tree) →
    ∀ row ∈ tree.outline parent next, row.1 = parent ∨ ∃ place, row.1 = some place ∧ next ≤ place
  | .leaf token, row, member => .inl (congrArg Prod.fst (List.mem_singleton.mp member))
  | .node name children, row, member => by
      rw [Tree.outline] at member
      split at member
      · exact parent_of_mem_forestOutline parent next children row member
      · rcases List.mem_cons.mp member with same | below
        · exact .inl (congrArg Prod.fst same)
        · rcases parent_of_mem_forestOutline (some next) (next + 1) children row below with
            here | ⟨place, deeper, later⟩
          · exact .inr ⟨next, here, Nat.le_refl next⟩
          · exact .inr ⟨place, deeper, Nat.le_of_succ_le later⟩

theorem parent_of_mem_forestOutline (parent : Option Nat) (next : Nat) : (trees : List Tree) →
    ∀ row ∈ forestOutline parent next trees,
      row.1 = parent ∨ ∃ place, row.1 = some place ∧ next ≤ place
  | tree :: rest, row, member => by
      rcases List.mem_append.mp member with first | later
      · exact parent_of_mem_outline parent next tree row first
      · rcases parent_of_mem_forestOutline parent _ rest row later with here | ⟨place, deep, least⟩
        · exact .inl here
        · exact .inr ⟨place, deep, Nat.le_of_add_right_le least⟩

end

theorem parent_of_head?_forestOutline (plain : Unrepeated trees) :
    ∀ row ∈ (forestOutline parent next trees).head?, row.1 = parent := by
  intro row first
  match trees with
  | [] => cases first
  | .leaf token :: rest =>
      cases first
      rfl
  | .node name children :: rest =>
      rw [forestOutline_node plain.plain_name] at first
      cases first
      rfl

theorem takeWhile_forestOutline (above : ∀ place, parent = some place → place < next)
    (plain : Unrepeated rest) (later : Nat) :
    (forestOutline (some next) (next + 1) children ++ forestOutline parent later rest).takeWhile
      (fun row => row.1 ≠ parent) = forestOutline (some next) (next + 1) children := by
  have inside : ∀ row ∈ forestOutline (some next) (next + 1) children,
      decide (row.1 ≠ parent) = true := by
    intro row member
    rw [decide_eq_true_eq]
    intro same
    rcases parent_of_mem_forestOutline _ _ _ row member with here | ⟨place, deeper, least⟩
    · exact Nat.lt_irrefl next (above next (same.symm.trans here))
    · have less := above place (same.symm.trans deeper)
      omega
  have ends : (forestOutline parent later rest).takeWhile (fun row => row.1 ≠ parent) = [] := by
    have first : ∀ row ∈ (forestOutline parent later rest).head?, row.1 = parent :=
      parent_of_head?_forestOutline plain
    cases rows : forestOutline parent later rest with
    | nil => rfl
    | cons row more =>
        rw [rows] at first
        exact List.takeWhile_cons_of_neg (by simp [first row rfl])
  rw [List.takeWhile_append_of_pos inside, ends, List.append_nil]

theorem eq_of_forestOutline_eq {parent : Option Nat} {next : Nat} {trees others : List Tree}
    (above : ∀ place, parent = some place → place < next) (plain : Unrepeated trees)
    (alsoPlain : Unrepeated others)
    (same : forestOutline parent next trees = forestOutline parent next others) :
    trees = others := by
  match trees, others with
  | [], [] => rfl
  | [], .leaf token :: rest => cases same
  | .leaf token :: rest, [] => cases same
  | [], .node name children :: rest =>
      rw [forestOutline_node alsoPlain.plain_name] at same
      cases same
  | .node name children :: rest, [] =>
      rw [forestOutline_node plain.plain_name] at same
      cases same
  | .leaf token :: rest, .node name children :: more =>
      rw [forestOutline_leaf, forestOutline_node alsoPlain.plain_name] at same
      cases same
  | .node name children :: rest, .leaf token :: more =>
      rw [forestOutline_leaf, forestOutline_node plain.plain_name] at same
      cases same
  | .leaf token :: rest, .leaf other :: more =>
      rw [forestOutline_leaf, forestOutline_leaf, List.cons.injEq] at same
      obtain ⟨first, later⟩ := same
      cases first
      rw [eq_of_forestOutline_eq (fun place here => Nat.lt_succ_of_lt (above place here)) plain.tail
        alsoPlain.tail later]
  | .node name children :: rest, .node other inner :: more =>
      rw [forestOutline_node plain.plain_name, forestOutline_node alsoPlain.plain_name,
        List.cons.injEq] at same
      obtain ⟨first, both⟩ := same
      cases first
      have below : forestOutline (some next) (next + 1) children =
          forestOutline (some next) (next + 1) inner := by
        rw [← takeWhile_forestOutline above plain.tail, both,
          takeWhile_forestOutline above alsoPlain.tail]
      rw [below, List.append_cancel_left_eq] at both
      have inward := eq_of_forestOutline_eq
        (fun place here => Option.some.inj here ▸ Nat.lt_succ_self next) plain.inner
        alsoPlain.inner below
      have onward := eq_of_forestOutline_eq
        (fun place here => Nat.lt_of_lt_of_le (above place here) (by omega)) plain.tail
        alsoPlain.tail both
      rw [inward, onward]
termination_by sizeOf trees

theorem eq_splice_of_forestOutline_eq (plain : Unrepeated others)
    (same : forestOutline none 0 others = forestOutline none 0 trees) : others = splice trees := by
  rw [← forestOutline_splice none 0 trees] at same
  have above : ∀ place, none = some place → place < 0 := by simp
  exact eq_of_forestOutline_eq above plain (unrepeated_splice trees) same

/-- Splicing on the stack is the recursion that puts the pieces of its children in the place of each
repetition. It keeps the tokens, and all other nodes under the nearest node around them that is no
repetition, and a second splicing changes nothing. -/
theorem splice_exact (trees : List Tree) :
    (∀ steps, listSpliceSteps trees ≤ steps → splicePending steps [trees] = forestPieces trees) ∧
      splice trees = forestPieces trees ∧
      forestLeaves (splice trees) = forestLeaves trees ∧
      Unrepeated (splice trees) ∧
      forestOutline none 0 (splice trees) = forestOutline none 0 trees ∧
      (∀ others, Unrepeated others →
        forestOutline none 0 others = forestOutline none 0 trees → others = splice trees) ∧
      splice (splice trees) = splice trees := by
  refine ⟨?_, splice_eq trees, ?_, unrepeated_splice trees, forestOutline_splice none 0 trees,
    fun others => eq_splice_of_forestOutline_eq, ?_⟩
  · intro steps enough
    rw [splicePending_eq enough, List.flatMap_singleton]
  · rw [splice_eq, forestLeaves_forestPieces]
  · apply eq_splice_of_forestOutline_eq (unrepeated_splice (splice trees))
    rw [forestOutline_splice, forestOutline_splice]

end CanonicalLR
