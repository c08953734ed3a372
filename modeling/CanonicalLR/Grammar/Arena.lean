import Std.Data.HashMap
import CanonicalLR.Grammar.Basic

/-!
Grammars as they are kept while they are written down: the rules in an array, and beside it a table
that leads from names to handles. A call changes the two one after the other, and a call that fails
leaves behind whatever it has changed before.
-/

namespace CanonicalLR

structure Arena where
  rules : Array Rule := #[]
  names : Std.HashMap String RuleId := ∅

namespace Arena

def get? (arena : Arena) (id : RuleId) : Option Rule :=
  arena.rules[id]?

def find? (arena : Arena) (name : String) : Option RuleId :=
  arena.names[name]?

/-- The grammar without the table of names. -/
def grammar (arena : Arena) : Grammar :=
  ⟨arena.rules⟩

/-! ### Steps on an arena -/

/-- Steps one after the other. Where one of them fails, the arena stays as those before it left it. -/
abbrev Session := ExceptT GrammarError (StateM Arena)

/-- The answer of a session that begins with an arena, and the arena that it leaves behind. -/
def Session.on {α : Type} (session : Session α) (arena : Arena) : Except GrammarError α × Arena :=
  session.run.run arena

section

variable {α β : Type}

@[simp] theorem on_pure (value : α) (arena : Arena) :
    Session.on (pure value) arena = (.ok value, arena) := rfl

@[simp] theorem on_throw (error : GrammarError) (arena : Arena) :
    Session.on (throw error : Session α) arena = (.error error, arena) := rfl

@[simp] theorem on_get (arena : Arena) : Session.on get arena = (.ok arena, arena) := rfl

@[simp] theorem on_modify (change : Arena → Arena) (arena : Arena) :
    Session.on (modify change) arena = (.ok (), change arena) := rfl

@[simp] theorem on_ite {p : Prop} [Decidable p] (first second : Session α) (arena : Arena) :
    Session.on (if p then first else second) arena = if p then first.on arena else second.on arena := by
  split <;> rfl

@[simp] theorem on_bind (first : Session α) (next : α → Session β) (arena : Arena) :
    Session.on (first >>= next) arena =
      match first.on arena with
      | (.ok value, arena) => (next value).on arena
      | (.error error, arena) => (.error error, arena) := by
  simp only [Session.on, ExceptT.run_bind, StateT.run_bind]
  obtain ⟨answer, left⟩ := StateT.run (ExceptT.run first) arena
  cases answer <;> rfl

end

/-! ### Calls -/

def declare (name : String) : Session RuleId := do
  if Rule.isReserved name then throw (.reservedName name)
  if (← get).names.contains name then throw (.duplicateRule name)
  let id := (← get).rules.size
  modify fun arena => { arena with names := arena.names.insert name id }
  modify fun arena => { arena with rules := arena.rules.push { name, body := none } }
  return id

def define (id : RuleId) (body : List Op) : Session RuleId := do
  match (← get).get? id with
  | none => throw (.unknownRule id)
  | some rule =>
      if rule.isDefined then throw (.alreadyDefined rule.name)
      modify fun arena =>
        { arena with rules := arena.rules.set! id { rule with body := some body } }
      return id

/-- Declares a rule and defines it. -/
def rule (name : String) (body : List Op) : Session RuleId := do
  let id ← declare name
  define id body

/-- The calls that write a grammar down. -/
inductive Call where
  | declare (name : String)
  | define (id : RuleId) (body : List Op)
  | rule (name : String) (body : List Op)

def Call.session : Call → Session RuleId
  | .declare name => Arena.declare name
  | .define id body => Arena.define id body
  | .rule name body => Arena.rule name body

def answer (arena : Arena) (call : Call) : Except GrammarError RuleId × Arena :=
  call.session.on arena

/-- The answers to calls made one after the other, and the arena that they leave behind. -/
def answers (arena : Arena) : List Call → List (Except GrammarError RuleId) × Arena
  | [] => ([], arena)
  | call :: later =>
      let (first, arena) := arena.answer call
      let (others, arena) := arena.answers later
      (first :: others, arena)

end Arena

end CanonicalLR
