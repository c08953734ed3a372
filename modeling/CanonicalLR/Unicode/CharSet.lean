import CanonicalLR.Ordered.Bisection

/-!
Sets of characters as ranges of code points. The ranges of a set stand in increasing order, apart
from each other and outside the surrogates, so that equal sets have equal ranges. Main statement:
the set of one character holds that character and no other.
-/

namespace CanonicalLR.Unicode

/-- Inclusive ranges of code points, in increasing order and with a gap between neighbours. -/
structure CharSet where
  ranges : Array (Nat × Nat)
deriving DecidableEq, Repr

namespace CharSet

/-- The last code point. -/
def lastCode : Nat := 0x10FFFF

/-- The code points that stand for no character. -/
def surrogates : Nat × Nat := (0xD800, 0xDFFF)

def empty : CharSet := ⟨#[]⟩

def isEmpty (set : CharSet) : Bool :=
  set.ranges.isEmpty

/-- Whether one of the ranges holds the code point, which halving decides. -/
def holds (set : CharSet) (code : Nat) : Bool :=
  set.ranges[countFirst (fun range => decide (range.2 < code)) set.ranges]?.any
    fun range => decide (range.1 ≤ code)

def contains (set : CharSet) (c : Char) : Bool :=
  set.holds c.toNat

/-! ### Ranges in order -/

/-- Joins ranges that overlap or touch. They are ordered by their lower ends, and the first of them
is given apart. -/
def joinFrom (lo hi : Nat) : List (Nat × Nat) → List (Nat × Nat)
  | [] => [(lo, hi)]
  | (lo', hi') :: later =>
      if lo' ≤ hi + 1 then joinFrom lo (max hi hi') later else (lo, hi) :: joinFrom lo' hi' later

/-- The set of ranges that are ordered by their lower ends. -/
def ofOrdered : List (Nat × Nat) → CharSet
  | [] => empty
  | (lo, hi) :: later => ⟨(joinFrom lo hi later).toArray⟩

/-- Whether one range begins no later than another. -/
def beginsFirst (a b : Nat × Nat) : Bool :=
  decide (a.1 ≤ b.1)

/-- The set of ranges in any order. -/
def ofRanges (ranges : List (Nat × Nat)) : CharSet :=
  ofOrdered (ranges.mergeSort beginsFirst)

/-- The gaps between ranges from `next` on. -/
def gapsFrom (next : Nat) : List (Nat × Nat) → List (Nat × Nat)
  | [] => if next ≤ lastCode then [(next, lastCode)] else []
  | (lo, hi) :: later =>
      if next < lo then (next, lo - 1) :: gapsFrom (hi + 1) later else gapsFrom (hi + 1) later

/-! ### Operations -/

def union (a b : CharSet) : CharSet :=
  ofOrdered (a.ranges.toList.merge b.ranges.toList beginsFirst)

/-- All other characters. -/
def compl (set : CharSet) : CharSet :=
  ⟨(gapsFrom 0 (set.union ⟨#[surrogates]⟩).ranges.toList).toArray⟩

def inter (a b : CharSet) : CharSet :=
  (a.compl.union b.compl).compl

def diff (a b : CharSet) : CharSet :=
  a.inter b.compl

/-- The characters of exactly one of two sets. -/
def symmDiff (a b : CharSet) : CharSet :=
  (a.union b).diff (a.inter b)

/-- The union of many sets. -/
def unionAll (sets : List CharSet) : CharSet :=
  ofRanges (sets.flatMap fun set => set.ranges.toList)

def single (c : Char) : CharSet :=
  ⟨#[(c.toNat, c.toNat)]⟩

/-- The characters from `lo` to `hi`. -/
def span (lo hi : Char) : CharSet :=
  if lo.toNat < surrogates.1 ∧ surrogates.2 < hi.toNat then
    ⟨#[(lo.toNat, surrogates.1 - 1), (surrogates.2 + 1, hi.toNat)]⟩
  else ⟨#[(lo.toNat, hi.toNat)]⟩

/-- The only character of a set that has one. -/
def single? (set : CharSet) : Option Char :=
  match set.ranges.toList with
  | [(lo, hi)] => if lo = hi then some (Char.ofNat lo) else none
  | _ => none

/-- Whether all characters of the set are ASCII. -/
def isAscii (set : CharSet) : Bool :=
  set.ranges.back?.all fun range => decide (range.2 < 128)

theorem contains_single (c d : Char) : (single c).contains d = decide (d = c) := by
  have toNat_inj : d.toNat = c.toNat ↔ d = c :=
    ⟨fun h => Char.ext (UInt32.toNat_inj.mp h), fun h => h ▸ rfl⟩
  rw [Bool.eq_iff_iff]
  simp only [contains, holds, single, countFirst_singleton, decide_eq_true_eq, ← toNat_inj]
  by_cases below : c.toNat < d.toNat
  · simp [below]
    omega
  · simp [below]
    omega

end CharSet

end CanonicalLR.Unicode
