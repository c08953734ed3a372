import CanonicalLR.Terminal
import CanonicalLR.Ordered.Map
import CanonicalLR.Ordered.Set

/-!
Item sets. An item is a production with a place in its body, and it carries the terminals that may
follow the production there. A set holds each core once, in the order of cores, with all its
lookaheads; so two sets are equal when they hold the same cores with the same lookaheads.
-/

namespace CanonicalLR

/-- A production and the number of symbols of its body that lie behind. -/
structure Core where
  production : Nat
  dot : Nat
deriving DecidableEq, Repr

namespace Core

instance : LT Core :=
  ⟨fun a b => a.production < b.production ∨ a.production = b.production ∧ a.dot < b.dot⟩

instance : DecidableLT Core :=
  fun a b => inferInstanceAs
    (Decidable (a.production < b.production ∨ a.production = b.production ∧ a.dot < b.dot))

theorem lt_def {a b : Core} :
    a < b ↔ a.production < b.production ∨ a.production = b.production ∧ a.dot < b.dot := Iff.rfl

instance : Key Core where
  irrefl a := by rw [lt_def]; omega
  trans := by intro a b c; simp only [lt_def]; omega
  connected := by
    intro a b notLess notGreater
    simp only [lt_def] at notLess notGreater
    have production : a.production = b.production := by omega
    have dot : a.dot = b.dot := by omega
    cases a; cases b; simp_all

def next (core : Core) : Core :=
  { core with dot := core.dot + 1 }

end Core

structure ItemSet where
  lookaheads : OrderedMap Core (OrderedSet Terminal) := .empty
deriving DecidableEq

namespace ItemSet

def entries (items : ItemSet) : List (Core × OrderedSet Terminal) :=
  items.lookaheads.entries

def cores (items : ItemSet) : List Core :=
  items.lookaheads.keys

def size (items : ItemSet) : Nat :=
  items.entries.length

def isEmpty (items : ItemSet) : Bool :=
  items.entries.isEmpty

def lookaheads? (items : ItemSet) (core : Core) : Option (OrderedSet Terminal) :=
  items.lookaheads.get? core

/-- Adds an item; the lookaheads of a core that is there already grow. -/
def insert (items : ItemSet) (core : Core) (lookaheads : List Terminal) : ItemSet :=
  ⟨items.lookaheads.alter core fun old => (old.getD .empty).insertAll lookaheads⟩

/-- Whether adding an item brings a new core or a new lookahead. -/
def wouldGrow (items : ItemSet) (core : Core) (lookaheads : List Terminal) : Bool :=
  match items.lookaheads? core with
  | none => true
  | some old => old.size < (old.insertAll lookaheads).size

def itemKey (core : Core) (lookaheads : OrderedSet Terminal) : String :=
  s!"{core.production}.{core.dot}." ++
    ",".intercalate (lookaheads.members.map toString)

/-- A text that tells the set from every other: its items with their lookaheads, in order. -/
def canonicalKey (items : ItemSet) : String :=
  "|".intercalate (items.entries.map fun (core, lookaheads) => itemKey core lookaheads)

end ItemSet

end CanonicalLR
