import CanonicalLR.Proofs.Tree.Splice
import CanonicalLR.Tree.Visitor

namespace CanonicalLR

namespace Visitor

variable {m : Type → Type} {α : Type}

theorem ensureCovers_eq_ok_iff {visitor : Visitor m α} {table : Table} :
    visitor.ensureCovers table = .ok () ↔
      ∀ entry ∈ table.nonterminals, isVisited entry.name = true →
        visitor.handles entry.name = true := by
  have missing : visitor.ensureCovers table = .ok () ↔
      ((table.nonterminals.map (·.name)).filter isVisited).filter
        (fun name => !visitor.handles name) = [] := by
    unfold ensureCovers
    simp only
    split
    · rename_i none
      exact iff_of_true rfl none
    · rename_i some
      exact iff_of_false nofun some
  rw [missing, List.filter_eq_nil_iff]
  simp only [List.mem_filter, List.mem_map, Bool.not_eq_true', Bool.not_eq_false]
  constructor
  · intro handled entry member visited
    exact handled entry.name ⟨⟨entry, member, rfl⟩, visited⟩
  · rintro handled _ ⟨⟨entry, member, rfl⟩, visited⟩
    exact handled entry member visited

section Recursion

variable [Monad m]

mutual

/-- The value of a tree, by recursion. -/
def valueOf (visitor : Visitor m α) : Tree → ExceptT VisitError m α
  | .leaf token => visitor.leaf token
  | .node name children => do
      let values ← visitor.valuesOf children
      match visitor.handlers.get? name with
      | none => throw (.unhandled name)
      | some handler => handler name children values

def valuesOf (visitor : Visitor m α) : List Tree → ExceptT VisitError m (List α)
  | [] => pure []
  | tree :: rest => do
      let value ← visitor.valueOf tree
      let values ← visitor.valuesOf rest
      pure (value :: values)

end

end Recursion

variable [Monad m] [LawfulMonad m] {β : Type} (visitor : Visitor m α)

theorem valuesOf_bind_congr {trees : List Tree} {first second : List α → ExceptT VisitError m β}
    (agree : ∀ values, values.length = trees.length → first values = second values) :
    (visitor.valuesOf trees >>= first) = visitor.valuesOf trees >>= second := by
  induction trees generalizing first second with
  | nil =>
      simp only [valuesOf, pure_bind]
      exact agree [] rfl
  | cons tree rest ih =>
      simp only [valuesOf, bind_assoc, pure_bind]
      apply bind_congr
      intro value
      apply ih
      intro values length
      exact agree (value :: values) (by rw [List.length_cons, length, List.length_cons])

mutual

theorem work_enter (frames : List Frame) (values : List α) (steps : Nat) : (tree : Tree) →
    visitor.work (tree.frames + steps) (.enter tree :: frames) values = do
      let value ← visitor.valueOf tree
      visitor.work steps frames (value :: values)
  | .leaf token => by
      rw [Tree.frames, Nat.add_comm, work, valueOf]
  | .node name children => by
      have enough : (Tree.node name children).frames + steps =
          listFrames children + (steps + 1) + 1 := by
        rw [Tree.frames]
        omega
      rw [enough, work, work_enters (.leave name children :: frames) values (steps + 1) children,
        valueOf, bind_assoc]
      apply valuesOf_bind_congr
      intro folded length
      have front : ((folded.reverse ++ values).take children.length).reverse = folded := by
        rw [← length, ← List.length_reverse, List.take_left, List.reverse_reverse]
      have back : (folded.reverse ++ values).drop children.length = values := by
        rw [← length, ← List.length_reverse, List.drop_left]
      rw [work]
      cases visitor.handlers.get? name with
      | none => exact (ExceptT.bind_throw _).symm
      | some handler => simp only [front, back]

theorem work_enters (frames : List Frame) (values : List α) (steps : Nat) : (trees : List Tree) →
    visitor.work (listFrames trees + steps) (trees.map .enter ++ frames) values = do
      let folded ← visitor.valuesOf trees
      visitor.work steps frames (folded.reverse ++ values)
  | [] => by
      rw [listFrames, Nat.zero_add, valuesOf, pure_bind]
      rfl
  | tree :: rest => by
      rw [listFrames, Nat.add_assoc, List.map_cons, List.cons_append,
        work_enter (rest.map Frame.enter ++ frames) values (listFrames rest + steps) tree, valuesOf,
        bind_assoc]
      apply bind_congr
      intro value
      rw [work_enters frames (value :: values) steps rest, bind_assoc]
      simp only [pure_bind, List.reverse_cons, List.append_assoc, List.singleton_append]

end

theorem fold_eq (tree : Tree) : visitor.fold tree = visitor.valueOf tree := by
  have ends (value : α) : visitor.work 0 [] [value] = pure [value] := by rw [work]
  rw [fold, ← Nat.add_zero tree.frames, work_enter, bind_assoc]
  simp only [ends, pure_bind, bind_pure]

mutual

theorem exists_valueOf : (tree : Tree) → (∀ name ∈ tree.labels, visitor.handles name = true) →
    ∃ action : m α, visitor.valueOf tree = liftM action
  | .leaf token, _ => ⟨visitor.leaf token, rfl⟩
  | .node name children, handled => by
      obtain ⟨folded, values⟩ := exists_valuesOf children
        fun below member => handled below (List.mem_cons_of_mem _ member)
      obtain ⟨handler, found⟩ := Option.isSome_iff_exists.mp (handled name List.mem_cons_self)
      refine ⟨folded >>= handler name children, ?_⟩
      rw [valueOf, values, found, liftM_bind]

theorem exists_valuesOf : (trees : List Tree) →
    (∀ name ∈ forestLabels trees, visitor.handles name = true) →
    ∃ action : m (List α), visitor.valuesOf trees = liftM action
  | [], _ => ⟨pure [], (liftM_pure []).symm⟩
  | tree :: rest, handled => by
      obtain ⟨first, value⟩ := exists_valueOf tree
        fun name member => handled name (List.mem_append_left _ member)
      obtain ⟨later, values⟩ := exists_valuesOf rest
        fun name member => handled name (List.mem_append_right _ member)
      refine ⟨do return (← first) :: (← later), ?_⟩
      simp only [valuesOf, value, values, liftM_bind, liftM_pure]

end

end Visitor

end CanonicalLR
