import CanonicalLR.Flat.Basic
import CanonicalLR.Grammar.Validation
import Std.Data.TreeMap.Lemmas

/-!
Flattening a grammar. A body of operations is expanded into the list of all sequences of symbols
that it can stand for: options and choices multiply the sequences at hand. A repetition becomes a
nonterminal of its own, which either ends or goes on with one round and itself.
-/

namespace CanonicalLR

/-- The number of the first nonterminal. -/
def firstNonterminal : Nat := 10000

/-- The number kept for the added start symbol. -/
def startNonterminal : Nat := 99999

/-- What has been flattened so far: the nonterminals in the order in which they came up and the
place of each name in this order, the productions, and the number of repetitions. -/
structure Expansion where
  places : Std.TreeMap String Nat := {}
  names : Array String := #[]
  placed : ∀ name, places[name]? = names.toList.findIdx? (· == name) := by simp
  productions : Array Production := #[]
  repetitions : Nat := 0

namespace Expansion

/-- Adds a name behind the others. A name that is there already keeps its place. -/
def addName (expansion : Expansion) (name : String) : Expansion :=
  { expansion with
    places := expansion.places.insertIfNew name expansion.names.size
    names := expansion.names.push name
    placed := by
      intro other
      simp only [Std.TreeMap.getElem?_insertIfNew, Std.TreeMap.mem_iff_isSome_getElem?,
        expansion.placed, Array.toList_push, List.findIdx?_append]
      by_cases same : name = other
      · subst same
        cases expansion.names.toList.findIdx? (· == name) <;> simp
      · simp [same] }

/-- The number of a nonterminal, which a new one is given. -/
def number (expansion : Expansion) (name : String) : Nat × Expansion :=
  match expansion.places[name]? with
  | some place => (firstNonterminal + place, expansion)
  | none => (firstNonterminal + expansion.names.size, expansion.addName name)

/-- Adds a production for each body, equal bodies counting once. -/
def push (expansion : Expansion) (head : String) (bodies : List (List Symbol)) : Expansion :=
  { expansion with
    productions := expansion.productions ++ (bodies.eraseDups.map (Production.mk head)).toArray }

/-- What there is when flattening begins: the number of the root and the production that leads to
it from the start symbol. -/
def begun (root : Rule) : Expansion :=
  let (index, expansion) := ({} : Expansion).number root.name
  expansion.push Rule.startName [[.nonterminal index]]

end Expansion

def appendSymbol (bodies : List (List Symbol)) (symbol : Symbol) : List (List Symbol) :=
  bodies.map (· ++ [symbol])

/-- Every sequence of the first list followed by every sequence of the second. -/
def concatenations (bodies tails : List (List Symbol)) : List (List Symbol) :=
  bodies.flatMap fun body => tails.map (body ++ ·)

mutual

/-- The sequences for what came before followed by one operation. -/
def Op.expand (grammar : Grammar) (bodies : List (List Symbol)) (expansion : Expansion) :
    Op → Except GrammarError (List (List Symbol) × Expansion)
  | .consume terminal => .ok (appendSymbol bodies (.terminal terminal), expansion)
  | .subRule rule =>
      match grammar.get? rule with
      | none => .error (.unknownRule rule)
      | some rule =>
          let (index, expansion) := expansion.number rule.name
          .ok (appendSymbol bodies (.nonterminal index), expansion)
  | .option body => do
      let (tails, expansion) ← expandBody grammar [[]] expansion body
      return (bodies ++ concatenations bodies tails, expansion)
  | .choice alternatives => expandChoice grammar bodies expansion alternatives
  | .group _ members =>
      .ok (members.flatMap fun member => appendSymbol bodies (.terminal member), expansion)
  | .many body => do
      let name := Rule.repetitionMark ++ toString expansion.repetitions
      let expansion := { expansion with repetitions := expansion.repetitions + 1 }
      let (index, expansion) := expansion.number name
      let (rounds, expansion) ← expandBody grammar [[]] expansion body
      let expansion := expansion.push name ([] :: appendSymbol rounds (.nonterminal index))
      return (appendSymbol bodies (.nonterminal index), expansion)

def expandBody (grammar : Grammar) (bodies : List (List Symbol)) (expansion : Expansion) :
    List Op → Except GrammarError (List (List Symbol) × Expansion)
  | [] => .ok (bodies, expansion)
  | op :: rest => do
      let (bodies, expansion) ← op.expand grammar bodies expansion
      expandBody grammar bodies expansion rest

def expandChoice (grammar : Grammar) (bodies : List (List Symbol)) (expansion : Expansion) :
    List (List Op) → Except GrammarError (List (List Symbol) × Expansion)
  | [] => .ok ([], expansion)
  | alternative :: rest => do
      let (tails, expansion) ← expandBody grammar [[]] expansion alternative
      let (later, expansion) ← expandChoice grammar bodies expansion rest
      return (concatenations bodies tails ++ later, expansion)

end

namespace Grammar

/-- Flattens the rules in `todo` and those that they refer to, each of them once. A rule comes
before the rules that it refers to, and these come in the order in which it does. -/
def flattenRules (grammar : Grammar) : (steps : Nat) → (todo flattened : List RuleId) →
    Expansion → Except GrammarError Expansion
  | 0, _, _, expansion => .ok expansion
  | _, [], _, expansion => .ok expansion
  | steps + 1, id :: todo, flattened, expansion =>
      if id ∈ flattened then grammar.flattenRules steps todo flattened expansion
      else
        match grammar.get? id with
        | none => .error (.unknownRule id)
        | some rule =>
            match rule.body with
            | none => .error (.invalid (.undefined rule.name))
            | some body => do
                let (_, expansion) := expansion.number rule.name
                let (bodies, expansion) ← expandBody grammar [[]] expansion body
                grammar.flattenRules steps (bodyReferences body ++ todo) (id :: flattened)
                  (expansion.push rule.name bodies)

/-- The flat grammar of a valid grammar. Production 0 leads from the added start symbol to the
root, and the start symbol is the last of the nonterminals. -/
def expand (grammar : Grammar) (root : RuleId) : Except GrammarError FlatGrammar :=
  match grammar.get? root with
  | none => .error (.unknownRule root)
  | some rule => do
      let expansion ←
        grammar.flattenRules (grammar.referenceCount + 1) [root] [] (Expansion.begun rule)
      let entries := expansion.names.toList.mapIdx fun position name =>
        { name, index := firstNonterminal + position : NonterminalEntry }
      return {
        productions := expansion.productions
        nonterminals := entries ++ [{ name := Rule.startName, index := startNonterminal }] }

/-- Validates a grammar and flattens it. -/
def flatten (grammar : Grammar) (root : RuleId) :
    Except GrammarError FlatGrammar × List Notice :=
  match grammar.validate root with
  | (.error error, notices) => (.error (.invalid error), notices)
  | (.ok (), notices) =>
      match grammar.expand root with
      | .error error => (.error error, notices)
      | .ok flat =>
          (.ok flat,
            notices ++ [.grammarFlattened flat.productions.size flat.nonterminals.length])

end Grammar

end CanonicalLR
