import CanonicalLR.Pattern.Footprint
import CanonicalLR.Pattern.Reader
import CanonicalLR.Pattern.Search

/-!
The library of patterns that the lexer runs with. Nothing that is proved of token kinds rests on it:
there the library is any that keeps to its description.
-/

namespace CanonicalLR.Pattern

def escapeChar (c : Char) : List Char :=
  if isMeta c then ['\\', c] else [c]

/-- A text is read as a pattern if it is well written and takes no more room than it may. Every
character with a meaning of its own is escaped. -/
instance : PatternLibrary where
  compile? source := ((Expr.read? source).filter Expr.fits).map Expr.matcher
  escape := List.flatMap escapeChar

end CanonicalLR.Pattern
