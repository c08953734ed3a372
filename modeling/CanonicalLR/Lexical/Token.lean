import CanonicalLR.Terminal

/-!
Tokens: pieces of a text with the kind that each belongs to and the place where it stands.
-/

namespace CanonicalLR

/-- A token. Lines, columns and offsets count as positions do; the last column and the last offset
belong to the token. -/
structure Token where
  image : String
  name : String
  kind : Terminal
  line : Nat
  startColumn : Nat
  endColumn : Nat
  startOffset : Nat
  endOffset : Nat
deriving DecidableEq, Repr

/-- Whether a token marks the end of the input. -/
def Token.isEof (token : Token) : Bool :=
  token.kind == Terminal.eof

end CanonicalLR
