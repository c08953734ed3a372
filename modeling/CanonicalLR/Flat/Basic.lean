import CanonicalLR.Flat.Symbol
import Std.Data.TreeMap.Lemmas

/-!
Flat grammars: productions over numbered symbols. A production names its head, and a list of
entries gives each name its number.
-/

namespace CanonicalLR

/-- A head and what it can stand for. -/
structure Production where
  head : String
  body : List Symbol
deriving DecidableEq, Repr

structure NonterminalEntry where
  name : String
  index : Nat
deriving DecidableEq, Repr

structure FlatGrammar where
  productions : Array Production
  nonterminals : List NonterminalEntry
deriving DecidableEq, Repr

/-- The number of the first entry with a name. -/
def nonterminalIndex? (entries : List NonterminalEntry) (name : String) : Option Nat :=
  (entries.find? (·.name == name)).map (·.index)

/-- The name of the first entry with a number. -/
def nonterminalName? (entries : List NonterminalEntry) (index : Nat) : Option String :=
  (entries.find? (·.index == index)).map (·.name)

namespace FlatGrammar

/-- The nonterminal that a production with this head belongs to. Where entries share the name, it is
the last of them. -/
def headIndex? (grammar : FlatGrammar) (head : String) : Option Nat :=
  nonterminalIndex? grammar.nonterminals.reverse head

/-- The nonterminals of all heads at once. -/
def heads (grammar : FlatGrammar) : Std.TreeMap String Nat :=
  grammar.nonterminals.foldl (fun heads entry => heads.insert entry.name entry.index) {}

theorem getElem?_heads (grammar : FlatGrammar) (head : String) :
    grammar.heads[head]? = grammar.headIndex? head := by
  rw [heads, headIndex?, nonterminalIndex?, List.foldl_eq_foldr_reverse]
  induction grammar.nonterminals.reverse with
  | nil => simp
  | cons entry rest ih =>
      rw [List.foldr_cons, Std.TreeMap.getElem?_insert, ih, List.find?_cons]
      by_cases same : entry.name = head
      · simp [same]
      · simp [same, beq_eq_false_iff_ne.mpr same]

end FlatGrammar

end CanonicalLR
