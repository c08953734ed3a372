import CanonicalLR.Proofs.Tree.Folding
import Mathlib.Tactic.Choose

/-!
Which handlers a fold calls. A visitor that also writes down the trees it is called for is folded
like the visitor itself, whatever its handlers do, and has written down the trees in post-order up
to the first without a handler (`Logs`). The values on the stack are always as many as the pending
frames take (`Balanced`), so the fold stays the same if it checks for the values that it takes off.
-/

namespace CanonicalLR

def OrderedMap.mapValues {κ α β : Type} [LT κ] (map : OrderedMap κ α) (f : α → β) :
    OrderedMap κ β :=
  ⟨map.entries.map fun entry => (entry.1, f entry.2), List.pairwise_map.mpr map.increasing⟩

theorem OrderedMap.get?_mapValues {κ α β : Type} [LT κ] [DecidableLT κ] (map : OrderedMap κ α)
    (f : α → β) (key : κ) : (map.mapValues f).get? key = (map.get? key).map f := by
  obtain ⟨entries, increasing⟩ := map
  simp only [mapValues, get?]
  clear increasing
  induction entries with
  | nil => rfl
  | cons head rest ih =>
      simp only [List.map_cons, lookup, ih]
      split
      · rfl
      · split <;> rfl

mutual

/-- The trees in a tree, each after those below it. -/
def Tree.postorder : Tree → List Tree
  | .leaf token => [.leaf token]
  | .node name children => forestPostorder children ++ [.node name children]

def forestPostorder : List Tree → List Tree
  | [] => []
  | tree :: rest => tree.postorder ++ forestPostorder rest

end

def Balanced : List Frame → (count : Nat) → Prop
  | [], count => count = 1
  | .enter _ :: frames, count => Balanced frames (count + 1)
  | .leave _ children :: frames, count =>
      children.length ≤ count ∧ Balanced frames (count - children.length + 1)

def pendingFrames : List Frame → Nat
  | [] => 0
  | .enter tree :: frames => tree.frames + pendingFrames frames
  | .leave _ _ :: frames => 1 + pendingFrames frames

theorem balanced_enters {trees : List Tree} {frames : List Frame} {count : Nat} :
    Balanced (trees.map .enter ++ frames) count ↔ Balanced frames (count + trees.length) := by
  induction trees generalizing count with
  | nil => rfl
  | cons tree rest ih =>
      rw [List.map_cons, List.cons_append, Balanced, ih, List.length_cons, Nat.add_assoc,
        Nat.add_comm 1]

theorem Balanced.enter_node {name : String} {children : List Tree} {frames : List Frame}
    {count : Nat} (balanced : Balanced (.enter (.node name children) :: frames) count) :
    Balanced (children.map .enter ++ .leave name children :: frames) count := by
  rw [Balanced] at balanced
  rw [balanced_enters, Balanced, Nat.add_sub_cancel]
  exact ⟨Nat.le_add_left _ _, balanced⟩

theorem pendingFrames_enters (trees : List Tree) (frames : List Frame) :
    pendingFrames (trees.map .enter ++ frames) = listFrames trees + pendingFrames frames := by
  induction trees with
  | nil => exact (Nat.zero_add _).symm
  | cons tree rest ih =>
      rw [List.map_cons, List.cons_append, pendingFrames, ih, listFrames, Nat.add_assoc]

theorem pendingFrames_enter_node (name : String) (children : List Tree) (frames : List Frame) :
    pendingFrames (.enter (.node name children) :: frames) =
      pendingFrames (children.map .enter ++ .leave name children :: frames) + 1 := by
  rw [pendingFrames_enters, pendingFrames, pendingFrames, Tree.frames]
  omega

namespace Visitor

variable {m : Type → Type} {α : Type}

def unhandled? (visitor : Visitor m α) : Tree → Option String
  | .leaf _ => none
  | .node name _ => if visitor.handles name then none else some name

/-- The trees that a fold calls handlers for, out of those given in post-order. -/
def called (visitor : Visitor m α) (order : List Tree) : List Tree :=
  order.takeWhile fun tree => (visitor.unhandled? tree).isNone

/-- The first name without a handler, among trees in post-order. -/
def firstUnhandled? (visitor : Visitor m α) (order : List Tree) : Option String :=
  order.findSome? visitor.unhandled?

theorem called_append_of_none {visitor : Visitor m α} {order : List Tree}
    (first : visitor.firstUnhandled? order = none) (later : List Tree) :
    visitor.called (order ++ later) = order ++ visitor.called later := by
  rw [firstUnhandled?, List.findSome?_eq_none_iff] at first
  exact List.takeWhile_append_of_pos fun tree member =>
    Option.isNone_iff_eq_none.mpr (first tree member)

theorem called_append_of_some {visitor : Visitor m α} {order : List Tree} {name : String}
    (first : visitor.firstUnhandled? order = some name) (later : List Tree) :
    visitor.called (order ++ later) = visitor.called order := by
  induction order with
  | nil => cases first
  | cons tree rest ih =>
      rw [firstUnhandled?, List.findSome?_cons] at first
      cases missing : visitor.unhandled? tree with
      | none =>
          rw [missing] at first
          have further := ih first
          simp only [called, List.cons_append, List.takeWhile_cons, missing] at further ⊢
          simpa using further
      | some other => simp [called, missing]

theorem called_of_none {visitor : Visitor m α} {order : List Tree}
    (first : visitor.firstUnhandled? order = none) : visitor.called order = order := by
  have whole := called_append_of_none first []
  have nothing : visitor.called [] = [] := rfl
  rwa [nothing, List.append_nil] at whole

theorem firstUnhandled?_append {visitor : Visitor m α} {order later : List Tree} :
    visitor.firstUnhandled? (order ++ later) =
      (visitor.firstUnhandled? order).or (visitor.firstUnhandled? later) :=
  List.findSome?_append

section Definitions

variable [Monad m]

def record {β : Type} (tree : Tree) (action : m β) : StateT (List Tree) m β := do
  modify (· ++ [tree])
  action

/-- The visitor that writes down each tree that a handler is called for. -/
def recording (visitor : Visitor m α) : Visitor (StateT (List Tree) m) α where
  leaf token := record (.leaf token) (visitor.leaf token)
  handlers := visitor.handlers.mapValues fun handler name children values =>
    record (.node name children) (handler name children values)

/-- An action that calls handlers for trees in the order given, and the same action recorded. -/
structure Logs (visitor : Visitor m α) (order : List Tree) {β : Type}
    (action : ExceptT VisitError m β) (logged : ExceptT VisitError (StateT (List Tree) m) β) :
    Prop where
  run_eq (seen : List Tree) : logged.run.run seen =
    (fun answer => (answer, seen ++ visitor.called order)) <$> action.run
  total (first : visitor.firstUnhandled? order = none) :
    ∃ whole : m β, action.run = Except.ok <$> whole
  stops {name : String} (first : visitor.firstUnhandled? order = some name) :
    ∃ part : m Unit, action.run = (fun _ => .error (.unhandled name)) <$> part

def guardedWork (visitor : Visitor m α) (fault : ExceptT VisitError m (List α)) :
    (steps : Nat) → List Frame → (values : List α) → ExceptT VisitError m (List α)
  | _, [], values => pure values
  | 0, _ :: _, _ => fault
  | steps + 1, .enter (.leaf token) :: frames, values => do
      let value ← visitor.leaf token
      visitor.guardedWork fault steps frames (value :: values)
  | steps + 1, .enter (.node name children) :: frames, values =>
      visitor.guardedWork fault steps (children.map .enter ++ .leave name children :: frames) values
  | steps + 1, .leave name children :: frames, values =>
      match visitor.handlers.get? name with
      | none => throw (.unhandled name)
      | some handler =>
          let count := children.length
          if values.length < count then fault
          else do
            let value ← handler name children (values.take count).reverse
            visitor.guardedWork fault steps frames (value :: values.drop count)

/-- The fold on guarded work, with `empty` in place of the failure when no value is left. -/
def guardedFold (visitor : Visitor m α) (fault : ExceptT VisitError m (List α))
    (empty : ExceptT VisitError m α) (tree : Tree) : ExceptT VisitError m α := do
  match ← visitor.guardedWork fault tree.frames [.enter tree] [] with
  | value :: _ => pure value
  | [] => empty

end Definitions

variable [Monad m] [LawfulMonad m] {visitor : Visitor m α} {β γ : Type} {order later : List Tree}

theorem Logs.pure (value : β) : Logs visitor [] (pure value) (pure value) where
  run_eq seen := by simp [called]
  total _ := ⟨Pure.pure value, by simp⟩
  stops first := by cases first

theorem Logs.bind {action : ExceptT VisitError m β}
    {logged : ExceptT VisitError (StateT (List Tree) m) β} {next : β → ExceptT VisitError m γ}
    {nextLogged : β → ExceptT VisitError (StateT (List Tree) m) γ}
    (before : Logs visitor order action logged)
    (after : ∀ value, Logs visitor later (next value) (nextLogged value)) :
    Logs visitor (order ++ later) (action >>= next) (logged >>= nextLogged) := by
  cases first : visitor.firstUnhandled? order with
  | none =>
      obtain ⟨whole, same⟩ := before.total first
      have goesOn : (action >>= next).run = whole >>= fun value => (next value).run := by
        rw [ExceptT.run_bind, same, bind_map_left]
      constructor
      · intro seen
        rw [ExceptT.run_bind, StateT.run_bind, before.run_eq, same, goesOn,
          called_append_of_none first, called_of_none first]
        simp only [Functor.map_map, bind_map_left, map_bind]
        apply bind_congr
        intro value
        rw [(after value).run_eq, List.append_assoc]
      · intro none
        rw [firstUnhandled?_append, first, Option.none_or] at none
        choose wholes agree using fun value => (after value).total none
        refine ⟨whole >>= wholes, ?_⟩
        rw [goesOn, map_bind]
        exact bind_congr agree
      · intro name some
        rw [firstUnhandled?_append, first, Option.none_or] at some
        choose parts agree using fun value => (after value).stops some
        refine ⟨whole >>= parts, ?_⟩
        rw [goesOn, map_bind]
        exact bind_congr agree
  | some name =>
      -- The second action does not run, so what is still to come of the order is not called for.
      obtain ⟨part, same⟩ := before.stops first
      have stuck : (action >>= next).run = (fun _ => .error (.unhandled name)) <$> part := by
        rw [ExceptT.run_bind, same, bind_map_left, bind_pure_comp]
      constructor
      · intro seen
        rw [ExceptT.run_bind, StateT.run_bind, before.run_eq, same, stuck,
          called_append_of_some first]
        simp only [Functor.map_map, bind_map_left, StateT.run_pure, bind_pure_comp]
      · intro none
        rw [firstUnhandled?_append, first] at none
        cases none
      · intro other some
        rw [firstUnhandled?_append, first] at some
        cases some
        exact ⟨part, stuck⟩

theorem logs_call {tree : Tree} (handled : visitor.unhandled? tree = none) (action : m β) :
    Logs visitor [tree] (liftM action) (liftM (record tree action)) where
  run_eq seen := by
    have recorded : (record tree action).run seen =
        (fun value => (value, seen ++ [tree])) <$> action := by
      simp [record]
    have first : visitor.firstUnhandled? [tree] = none := by simp [firstUnhandled?, handled]
    rw [ExceptT.run_liftM, ExceptT.run_liftM, StateT.run_map, recorded, called_of_none first]
    simp only [Functor.map_map]
  total _ := ⟨action, rfl⟩
  stops first := by simp [firstUnhandled?, handled] at first

theorem logs_throw {tree : Tree} {name : String} (missing : visitor.unhandled? tree = some name) :
    Logs visitor [tree] (throw (.unhandled name) : ExceptT VisitError m β)
      (throw (.unhandled name)) where
  run_eq seen := by simp [called, missing]
  total first := by simp [firstUnhandled?, missing] at first
  stops first := by
    simp [firstUnhandled?, missing] at first
    exact ⟨Pure.pure (), by simp [first]⟩

mutual

theorem logs_valueOf (visitor : Visitor m α) : (tree : Tree) →
    Logs visitor tree.postorder (visitor.valueOf tree) (visitor.recording.valueOf tree)
  | .leaf token => logs_call rfl (visitor.leaf token)
  | .node name children => by
      rw [Tree.postorder, valueOf, valueOf]
      apply (logs_valuesOf visitor children).bind
      intro values
      cases found : visitor.handlers.get? name with
      | none =>
          have missing : visitor.unhandled? (.node name children) = some name := by
            simp [unhandled?, handles, found]
          simp only [recording, OrderedMap.get?_mapValues, found, Option.map_none]
          exact logs_throw missing
      | some handler =>
          have handled : visitor.unhandled? (.node name children) = none := by
            simp [unhandled?, handles, found]
          simp only [recording, OrderedMap.get?_mapValues, found, Option.map_some]
          exact logs_call handled (handler name children values)

theorem logs_valuesOf (visitor : Visitor m α) : (trees : List Tree) →
    Logs visitor (forestPostorder trees) (visitor.valuesOf trees)
      (visitor.recording.valuesOf trees)
  | [] => .pure []
  | tree :: rest => by
      have alone (value : α) : Logs visitor (forestPostorder rest ++ [])
          (visitor.valuesOf rest >>= fun values => pure (value :: values))
          (visitor.recording.valuesOf rest >>= fun values => pure (value :: values)) :=
        (logs_valuesOf visitor rest).bind fun values => .pure (value :: values)
      rw [forestPostorder, valuesOf, valuesOf]
      apply (logs_valueOf visitor tree).bind
      intro value
      rw [← List.append_nil (forestPostorder rest)]
      exact alone value

end

/-! ### Taking values off the stack -/

omit [LawfulMonad m] in
theorem guardedWork_eq (visitor : Visitor m α) (fault : ExceptT VisitError m (List α)) {steps : Nat}
    {frames : List Frame} {values : List α} (balanced : Balanced frames values.length)
    (enough : pendingFrames frames ≤ steps) :
    visitor.guardedWork fault steps frames values = visitor.work steps frames values := by
  induction steps generalizing frames values with
  | zero =>
      match frames with
      | [] => rw [guardedWork, work]
      | .enter (.leaf token) :: frames =>
          rw [pendingFrames, Tree.frames] at enough
          omega
      | .enter (.node name children) :: frames =>
          rw [pendingFrames, Tree.frames] at enough
          omega
      | .leave name children :: frames =>
          rw [pendingFrames] at enough
          omega
  | succ steps ih =>
      match frames with
      | [] => rw [guardedWork, work]
      | .enter (.leaf token) :: frames =>
          rw [pendingFrames, Tree.frames] at enough
          rw [guardedWork, work]
          apply bind_congr
          intro value
          exact ih balanced (by omega)
      | .enter (.node name children) :: frames =>
          rw [pendingFrames_enter_node] at enough
          rw [guardedWork, work]
          exact ih balanced.enter_node (by omega)
      | .leave name children :: frames =>
          obtain ⟨within, left⟩ := balanced
          rw [pendingFrames] at enough
          rw [guardedWork, work]
          cases visitor.handlers.get? name with
          | none => rfl
          | some handler =>
              simp only [if_neg (Nat.not_lt.mpr within)]
              apply bind_congr
              intro value
              apply ih
              · rwa [List.length_cons, List.length_drop]
              · omega

theorem guardedFold_eq (visitor : Visitor m α) (fault : ExceptT VisitError m (List α))
    (empty : ExceptT VisitError m α) (tree : Tree) :
    visitor.guardedFold fault empty tree = visitor.fold tree := by
  have ends (value : α) : visitor.work 0 [] [value] = Pure.pure [value] := by rw [work]
  have balanced : Balanced [.enter tree] ([] : List α).length := rfl
  have enough : pendingFrames [.enter tree] ≤ tree.frames := Nat.le_refl _
  rw [guardedFold, guardedWork_eq visitor fault balanced enough, fold, ← Nat.add_zero tree.frames,
    work_enter]
  simp only [bind_assoc, ends, pure_bind]

/-- The fold is the recursion over the tree. It calls the handlers in post-order, up to the first
node that has none, and its failure names this node. It never takes values off the stack that are
not there, and one value is left in the end. -/
theorem fold_exact (visitor : Visitor m α) (tree : Tree) :
    visitor.fold tree = visitor.valueOf tree ∧
      (∀ seen, (visitor.recording.fold tree).run.run seen =
        (fun answer => (answer, seen ++ visitor.called tree.postorder)) <$>
          (visitor.fold tree).run) ∧
      (visitor.firstUnhandled? tree.postorder = none →
        ∃ whole : m α, (visitor.fold tree).run = Except.ok <$> whole) ∧
      (∀ name, visitor.firstUnhandled? tree.postorder = some name →
        ∃ part : m Unit, (visitor.fold tree).run = (fun _ => .error (.unhandled name)) <$> part) ∧
      ∀ fault empty, visitor.guardedFold fault empty tree = visitor.fold tree := by
  have logs := visitor.logs_valueOf tree
  rw [← fold_eq, ← fold_eq] at logs
  exact ⟨visitor.fold_eq tree, logs.run_eq, logs.total, fun name => logs.stops,
    fun fault empty => visitor.guardedFold_eq fault empty tree⟩

def counting : Visitor (StateM Nat) Nat :=
  Visitor.on
    { leaf := fun _ => do
        modify (· + 1)
        return 1 }
    "pair" fun _ _ values => return values.foldl (· + ·) 0

def unevenTree : Tree :=
  let leaf : Tree := .leaf ⟨"", "", 0, 1, 1, 1, 0, 0⟩
  .node "top" [.node "pair" [leaf, leaf], .node "rest" [], leaf]

theorem fold_exact_unevenTree : LawfulMonad (StateM Nat) ∧
    counting.firstUnhandled? unevenTree.postorder = some "rest" ∧
    (counting.called unevenTree.postorder).length = 3 ∧
    (counting.recording.fold unevenTree).run.run [] =
      (fun answer => (answer, counting.called unevenTree.postorder)) <$>
        (counting.fold unevenTree).run ∧
    ∃ part : StateM Nat Unit,
      (counting.fold unevenTree).run = (fun _ => .error (.unhandled "rest")) <$> part := by
  obtain ⟨_, calls, _, stops, _⟩ := counting.fold_exact unevenTree
  have first : counting.firstUnhandled? unevenTree.postorder = some "rest" := by decide +kernel
  have count : (counting.called unevenTree.postorder).length = 3 := by decide +kernel
  exact ⟨inferInstance, first, count, calls [], stops "rest" first⟩

end Visitor

end CanonicalLR
