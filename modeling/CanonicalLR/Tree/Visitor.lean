import CanonicalLR.Grammar.Rule
import CanonicalLR.Ordered.Map
import CanonicalLR.Parse.Result
import CanonicalLR.Text.Quoted

/-!
Folding trees from the leaves up. A visitor has a handler for leaves and handlers for nodes by name,
and each node handler is given the values of the children. Handlers run in a monad, so they may keep
a state. The fold keeps its own stack of what is still to be done, and stops at the first node, in
the order in which nodes are complete, that has no handler.
-/

namespace CanonicalLR

inductive VisitError where
  | emptyTree
  | unhandled (name : String)
  | missingHandlers (names : List String)
deriving DecidableEq, Repr

def VisitError.message : VisitError → String
  | .emptyTree => "the CST is empty"
  | .unhandled name => s!"no handler registered for node type '{name}'"
  | .missingHandlers names => "no handlers for rules: " ++ ", ".intercalate names

/-- What a node is turned to, given its name, its children and their values. -/
abbrev NodeHandler (m : Type → Type) (α : Type) :=
  String → List Tree → List α → m α

structure Visitor (m : Type → Type) (α : Type) where
  leaf : Token → m α
  handlers : OrderedMap String (NodeHandler m α) := .empty

/-- What is still to be done in a fold. -/
inductive Frame where
  /-- A tree to fold. -/
  | enter (tree : Tree)
  /-- A node whose children are folded. -/
  | leave (name : String) (children : List Tree)

mutual

/-- Number of frames that folding a tree takes. -/
def Tree.frames : Tree → Nat
  | .leaf _ => 1
  | .node _ children => 2 + listFrames children

def listFrames : List Tree → Nat
  | [] => 0
  | tree :: rest => tree.frames + listFrames rest

end

namespace Visitor

variable {m : Type → Type} {α : Type}

/-- Sets the handler for nodes with a name, in place of the one that was there. -/
def on (visitor : Visitor m α) (name : String) (handler : NodeHandler m α) : Visitor m α :=
  { visitor with handlers := visitor.handlers.insert name handler }

def handles (visitor : Visitor m α) (name : String) : Bool :=
  (visitor.handlers.get? name).isSome

def isVisited (name : String) : Bool :=
  name != Rule.startName && !Rule.isRepetition name

/-- Checks that there is a handler for every rule of a table. -/
def ensureCovers (visitor : Visitor m α) (table : Table) : Except VisitError Unit :=
  let names := (table.nonterminals.map (·.name)).filter isVisited
  match names.filter fun name => !visitor.handles name with
  | [] => .ok ()
  | missing => .error (.missingHandlers missing)

variable [Monad m]

/-- Works off frames; `values` are those of the trees folded so far, the latest first. -/
def work (visitor : Visitor m α) : (steps : Nat) → List Frame → (values : List α) →
    ExceptT VisitError m (List α)
  | _, [], values => pure values
  | 0, _ :: _, values => pure values
  | steps + 1, .enter (.leaf token) :: frames, values => do
      let value ← visitor.leaf token
      visitor.work steps frames (value :: values)
  | steps + 1, .enter (.node name children) :: frames, values =>
      visitor.work steps (children.map .enter ++ .leave name children :: frames) values
  | steps + 1, .leave name children :: frames, values =>
      match visitor.handlers.get? name with
      | none => throw (.unhandled name)
      | some handler => do
          let count := children.length
          let value ← handler name children (values.take count).reverse
          visitor.work steps frames (value :: values.drop count)

/-- The value of a tree. -/
def fold (visitor : Visitor m α) (tree : Tree) : ExceptT VisitError m α := do
  match ← visitor.work tree.frames [.enter tree] [] with
  | value :: _ => pure value
  | [] => throw .emptyTree

/-- The value of the tree that a parse gave. -/
def visit (visitor : Visitor m α) (result : ParseResult) : ExceptT VisitError m α :=
  match result.tree with
  | some tree => visitor.fold tree
  | none => throw .emptyTree

/-- The names that a visitor has handlers for, in words. -/
def describe (visitor : Visitor m α) : String :=
  let names := visitor.handlers.keys.map readable
  "Visitor \x7b handlers: [" ++ ", ".intercalate names ++ "], .. \x7d"

end Visitor

end CanonicalLR
