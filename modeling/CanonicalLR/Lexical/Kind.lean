import CanonicalLR.Lexical.Matcher
import CanonicalLR.Terminal

/-!
Token kinds: a name, a number and the pattern that their tokens match.
-/

namespace CanonicalLR

/-- A kind of tokens. `source` is the pattern as written, `pattern` is what finds its matches. -/
structure TokenKind where
  name : String
  source : String
  index : Terminal
  pattern : Matcher

inductive TokenError where
  | invalidPattern (name : String)
  /-- There is no number left for another kind. -/
  | tooManyTokens
deriving DecidableEq, Repr

def TokenError.message : TokenError → String
  | .invalidPattern name => s!"invalid pattern for token '{name}'"
  | .tooManyTokens => s!"too many token types (limit is {Terminal.greatest})"

namespace TokenKind

/-- The text that anchors a pattern at the start of the input. -/
def anchored (source : List Char) : List Char :=
  "^(?:".toList ++ source ++ [')']

/-- The kind for a text that becomes a pattern when it is anchored. -/
def make? [PatternLibrary] (name source : String) (index : Terminal) :
    Except TokenError TokenKind :=
  match PatternLibrary.compile? (anchored source.toList) with
  | some pattern => .ok { name, source, index, pattern }
  | none => .error (.invalidPattern name)

/-- The kind as shown to readers. -/
def display (kind : TokenKind) : String :=
  s!"{kind.name}#{kind.index}"

/-- Kinds count as the same when name and number agree, whatever their patterns. -/
def same (a b : TokenKind) : Bool :=
  a.index == b.index && a.name == b.name

/-- The number of characters that the next token of this kind takes; never zero. What counts is
where the match ends. -/
def matchLength? (kind : TokenKind) (text : List Char) : Option Nat :=
  ((kind.pattern.find? text).map (·.last)).filter (0 < ·)

end TokenKind

end CanonicalLR
