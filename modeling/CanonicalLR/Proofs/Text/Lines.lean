import Mathlib.Algebra.Order.SuccPred
import Mathlib.Algebra.Order.Group.Nat
import Mathlib.Data.Nat.SuccPred
import Mathlib.Data.Prod.Lex
import Mathlib.Data.Set.Monotone
import CanonicalLR.Proofs.Text.Position

namespace CanonicalLR

/-- Positions in the order of their lines, and within a line of their columns. -/
def Position.key (position : Position) : Nat ×ₗ Nat :=
  toLex (position.line, position.column)

/-- The line of an offset begins at `start`, which is the front of the text or right behind a line
feed, with no line feed from there up to the offset. One that stands at the offset ends the line. -/
structure LineBegins (bytes : List UInt8) (start offset : Nat) : Prop where
  atMost : start ≤ offset
  front : start = 0 ∨ ∃ feed, start = feed + 1 ∧ bytes[feed]? = some 10
  unbroken : ∀ place, start ≤ place → place < offset → bytes[place]? ≠ some 10

variable {bytes : List UInt8} {start offset : Nat} {byte : UInt8}

namespace LineBegins

theorem zero : LineBegins bytes 0 0 where
  atMost := le_rfl
  front := .inl rfl
  unbroken := by omega

theorem behind (feed : bytes[offset]? = some 10) : LineBegins bytes (offset + 1) (offset + 1) where
  atMost := le_rfl
  front := .inr ⟨offset, rfl, feed⟩
  unbroken := by omega

theorem succ (begins : LineBegins bytes start offset) (other : bytes[offset]? ≠ some 10) :
    LineBegins bytes start (offset + 1) where
  atMost := Nat.le_succ_of_le begins.atMost
  front := begins.front
  unbroken place above below := by
    obtain earlier | rfl := Nat.lt_succ_iff_lt_or_eq.mp below
    · exact begins.unbroken place above earlier
    · exact other

theorem le {other : Nat} (begins : LineBegins bytes start offset)
    (begins' : LineBegins bytes other offset) : other ≤ start := by
  obtain rfl | ⟨feed, rfl, found⟩ := begins'.front
  · exact Nat.zero_le _
  · by_contra greater
    have := begins'.atMost
    exact begins.unbroken feed (by omega) (by omega) found

theorem unique {other : Nat} (begins : LineBegins bytes start offset)
    (begins' : LineBegins bytes other offset) : other = start :=
  (begins.le begins').antisymm (begins'.le begins)

end LineBegins

theorem countedPosition_succ (found : bytes[offset]? = some byte) :
    countedPosition bytes (offset + 1) =
      if byte = 10 then ⟨(countedPosition bytes offset).line + 1, 1⟩
      else ⟨(countedPosition bytes offset).line, (countedPosition bytes offset).column + 1⟩ := by
  have taken : bytes.take (offset + 1) = bytes.take offset ++ [byte] := by
    rw [List.take_add_one, found, Option.toList_some]
  by_cases feed : byte = 10
  · simp [countedPosition, taken, feed]
  · simp [countedPosition, taken, feed]

theorem exists_lineBegins (within : offset ≤ bytes.length) :
    ∃ start, LineBegins bytes start offset ∧
      (countedPosition bytes offset).column = offset - start + 1 := by
  -- The front of the line stays behind, and the column grows with the offset, up to a line feed.
  induction offset with
  | zero => exact ⟨0, .zero, by simp [countedPosition]⟩
  | succ offset ih =>
      obtain ⟨start, begins, column⟩ := ih (Nat.le_of_succ_le within)
      have found : bytes[offset]? = some bytes[offset] := List.getElem?_eq_getElem within
      rw [countedPosition_succ found]
      by_cases feed : bytes[offset] = 10
      · exact ⟨offset + 1, .behind (by rw [found, feed]), by simp [feed]⟩
      · refine ⟨start, begins.succ (by simpa [found] using feed), ?_⟩
        have := begins.atMost
        simp only [feed, if_false, column]
        omega

theorem key_countedPosition_lt_succ (within : offset < bytes.length) :
    (countedPosition bytes offset).key < (countedPosition bytes (offset + 1)).key := by
  rw [countedPosition_succ (List.getElem?_eq_getElem within)]
  split
  · exact Prod.Lex.toLex_lt_toLex.mpr (.inl (Nat.lt_succ_self _))
  · exact Prod.Lex.toLex_lt_toLex.mpr (.inr ⟨rfl, Nat.lt_succ_self _⟩)

theorem strictMonoOn_key_countedPosition :
    StrictMonoOn (fun offset => (countedPosition bytes offset).key) (Set.Iic bytes.length) :=
  strictMonoOn_of_lt_add_one Set.ordConnected_Iic fun _ _ _ within =>
    key_countedPosition_lt_succ (Nat.lt_of_succ_le within)

/-- The line of a position counts the line feeds before its offset, and the column the bytes from the
front of the line on. Each line feed ends its line. The last of the line feeds before an offset is there
to be looked up and less than the offset, so that no subtraction goes below zero. Positions increase
with their offsets, and no two offsets share one. -/
theorem positionOf_exact (text : String) :
    let bytes := encoding text.toList
    let breaks := (lineBreaks 0 text.toList).toArray
    (∀ offset ≤ bytes.length,
      (positionOf breaks offset).line = 1 + (bytes.take offset).count 10 ∧
      (∃! start, LineBegins bytes start offset) ∧
      ∀ start, LineBegins bytes start offset →
        (positionOf breaks offset).column = offset - start + 1) ∧
    (∀ offset, bytes[offset]? = some 10 →
      positionOf breaks (offset + 1) = ⟨(positionOf breaks offset).line + 1, 1⟩) ∧
    (∀ offset last, countFirst (fun lineBreak => decide (lineBreak < offset)) breaks = last + 1 →
      ∃ lineBreak, breaks[last]? = some lineBreak ∧ lineBreak < offset) ∧
    StrictMonoOn (fun offset => (positionOf breaks offset).key) (Set.Iic bytes.length) ∧
    Set.InjOn (positionOf breaks) (Set.Iic bytes.length) := by
  intro bytes breaks
  have counted (offset : Nat) (within : offset ≤ bytes.length) :
      positionOf breaks offset = countedPosition bytes offset :=
    positionOf_lineBreaks (length_encoding ▸ within)
  have increasing : StrictMonoOn (fun offset => (positionOf breaks offset).key)
      (Set.Iic bytes.length) :=
    strictMonoOn_key_countedPosition.congr fun offset within => by
      simp only [counted offset within]
  refine ⟨?_, ?_, ?_, increasing, fun first within second within' same =>
    increasing.injOn within within' (congrArg Position.key same)⟩
  · intro offset within
    obtain ⟨start, begins, column⟩ := exists_lineBegins within
    rw [counted offset within]
    refine ⟨Nat.add_comm _ _, ⟨start, begins, fun other => begins.unique⟩, ?_⟩
    intro other begins'
    rw [begins.unique begins', column]
  · intro offset feed
    obtain ⟨within, _⟩ := List.getElem?_eq_some_iff.mp feed
    rw [counted _ within, counted _ within.le, countedPosition_succ feed, if_pos rfl]
  · intro offset last found
    obtain ⟨lineBreak, place, before⟩ := exists_of_countFirst_eq_succ found
    exact ⟨lineBreak, place, of_decide_eq_true before⟩

theorem positionOf_exact_feeds :
    let bytes := encoding "é\n\nx".toList
    let breaks := (lineBreaks 0 "é\n\nx".toList).toArray
    (3 ≤ bytes.length ∧ LineBegins bytes 3 3 ∧
      (positionOf breaks 3).line = 2 ∧ (positionOf breaks 3).column = 1) ∧
    (bytes[3]? = some 10 ∧ positionOf breaks 4 = ⟨3, 1⟩) ∧
    (countFirst (fun lineBreak => decide (lineBreak < 5)) breaks = 2 ∧
      ∃ lineBreak, breaks[1]? = some lineBreak ∧ lineBreak < 5) ∧
    (positionOf breaks 2).key < (positionOf breaks 3).key ∧
    positionOf breaks 2 ≠ positionOf breaks 3 := by
  obtain ⟨exact, ends, inside, increasing, distinct⟩ := positionOf_exact "é\n\nx"
  obtain ⟨line, -, column⟩ := exact 3 (by decide)
  have front : LineBegins (encoding "é\n\nx".toList) 3 3 := .behind (by decide)
  have within : 2 ≤ (encoding "é\n\nx".toList).length := by decide
  have within' : 3 ≤ (encoding "é\n\nx".toList).length := by decide
  refine ⟨⟨within', front, line, column 3 front⟩, ⟨by decide, ?_⟩, ⟨by decide, ?_⟩, ?_, ?_⟩
  · rw [ends 3 (by decide), line]
    decide
  · exact inside 5 1 (by decide)
  · exact increasing within within' (by decide)
  · exact distinct.ne within within' (by decide)

end CanonicalLR
