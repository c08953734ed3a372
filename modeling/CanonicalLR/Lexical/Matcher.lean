/-!
Patterns are left to a library. It reads the text of a pattern, finds matches, and writes texts so
that they stand for themselves.
-/

namespace CanonicalLR

/-- The characters of a text from the place `first` up to the place `last`. -/
structure Stretch where
  first : Nat
  last : Nat
deriving DecidableEq, Repr

/-- A pattern that has been read. The match that it finds is the leftmost one, and may begin behind
the start of the text. -/
structure Matcher where
  find? : List Char → Option Stretch

/-- Finds a text that stands at the start. -/
def Matcher.fixed (chars : List Char) : Matcher where
  find? text := if chars.isPrefixOf text then some ⟨0, chars.length⟩ else none

class PatternLibrary where
  compile? : (source : List Char) → Option Matcher
  /-- A pattern for a text. -/
  escape : (text : List Char) → List Char

end CanonicalLR
