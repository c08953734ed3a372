import CanonicalLR.Unicode.Word

/-!
Assertions: conditions on the place between two characters. A place is described by its two
neighbours, each absent at an end of the text.
-/

namespace CanonicalLR.Pattern

structure Place where
  before : Option Char
  after : Option Char
deriving DecidableEq, Repr

inductive Assertion where
  | textStart
  | textEnd
  /-- The start of the text or the place after a line feed. -/
  | lineStart
  /-- The end of the text or the place before a line feed. -/
  | lineEnd
  /-- As `lineStart`, with a carriage return, a line feed or both together ending a line. -/
  | crlfStart
  /-- As `lineEnd`, with a carriage return, a line feed or both together ending a line. -/
  | crlfEnd
  /-- A word character on exactly one side; `ascii` limits words to ASCII. -/
  | boundary (ascii : Bool)
  | noBoundary (ascii : Bool)
  | wordStart (ascii : Bool)
  | wordEnd (ascii : Bool)
  /-- No word character before. -/
  | wordStartHalf (ascii : Bool)
  /-- No word character after. -/
  | wordEndHalf (ascii : Bool)
deriving DecidableEq, Repr

namespace Assertion

def isWordChar (ascii : Bool) (c : Char) : Bool :=
  if ascii then c.isAlphanum || c == '_' else Unicode.isWord c

/-- Whether a neighbour exists and belongs to a word. -/
def inWord (ascii : Bool) (neighbour : Option Char) : Bool :=
  neighbour.any (isWordChar ascii)

def holds (here : Place) : Assertion → Bool
  | .textStart => here.before.isNone
  | .textEnd => here.after.isNone
  | .lineStart => here.before.all (· == '\n')
  | .lineEnd => here.after.all (· == '\n')
  | .crlfStart =>
      here.before.all fun c => c == '\n' || (c == '\r' && here.after != some '\n')
  | .crlfEnd =>
      here.after.all fun c => c == '\r' || (c == '\n' && here.before != some '\r')
  | .boundary ascii => inWord ascii here.before != inWord ascii here.after
  | .noBoundary ascii => inWord ascii here.before == inWord ascii here.after
  | .wordStart ascii => !inWord ascii here.before && inWord ascii here.after
  | .wordEnd ascii => inWord ascii here.before && !inWord ascii here.after
  | .wordStartHalf ascii => !inWord ascii here.before
  | .wordEndHalf ascii => !inWord ascii here.after

end Assertion

end CanonicalLR.Pattern
