import CanonicalLR.Lexical.Token
import CanonicalLR.Lexical.Vocabulary
import CanonicalLR.Ordered.Set
import CanonicalLR.Pattern.Library
import CanonicalLR.Text.Position
import CanonicalLR.Notice

/-!
The lexer. At each place it takes the first of its kinds, in the order given, that matches
something; the longest match plays no part. It stops where no kind matches, and otherwise ends the
tokens with one that marks the end of the input.
-/

namespace CanonicalLR

/-- A kind of pieces, the characters of one, and the offset where it begins. -/
structure Piece where
  kind : TokenKind
  start : Nat
  chars : List Char

def Piece.stop (piece : Piece) : Nat :=
  piece.start + byteLength piece.chars

structure LexError where
  character : Char
  position : Position
  offset : Nat
deriving DecidableEq, Repr

namespace LexError

def message (error : LexError) : String :=
  s!"Unexpected character '{error.character}'"

def display (error : LexError) : String :=
  s!"{error.message} at line {error.position.line}, column {error.position.column}"

end LexError

structure LexResult where
  tokens : List Token
  errors : List LexError
  groups : List TokenGroup

def LexResult.notices (result : LexResult) : List Notice :=
  result.errors.map fun error => .lexingStopped error.offset

structure Lexer where
  kinds : List TokenKind
  skipped : OrderedSet Terminal := .empty
  groups : List TokenGroup := []

namespace Lexer

/-- Leaves the tokens of a kind out of the result. -/
def skip (lexer : Lexer) (kind : TokenKind) : Lexer :=
  { lexer with skipped := lexer.skipped.insert kind.index }

def withGroups (lexer : Lexer) (groups : List TokenGroup) : Lexer :=
  { lexer with groups }

/-- The first kind that matches here, with the number of characters that it takes. -/
def firstMatch? (kinds : List TokenKind) (text : List Char) : Option (TokenKind × Nat) :=
  kinds.findSome? fun kind => (kind.matchLength? text).map fun length => (kind, length)

/-- Cuts a text into pieces, from the offset `start` on. The second component is what is left where
no kind matches. Each piece takes a character, so the length of the text bounds the steps. -/
def cut (kinds : List TokenKind) : (steps start : Nat) → List Char → List Piece × List Char
  | _, _, [] => ([], [])
  | 0, _, text => ([], text)
  | steps + 1, start, text =>
      match firstMatch? kinds text with
      | none => ([], text)
      | some (kind, length) =>
          let piece : Piece := { kind, start, chars := text.take length }
          let (pieces, rest) := cut kinds steps piece.stop (text.drop length)
          (piece :: pieces, rest)

/-- The token that a piece stands for. -/
def tokenOf (breaks : Array Nat) (piece : Piece) : Token :=
  let first := positionOf breaks piece.start
  let endOffset := piece.stop - 1
  { image := String.ofList piece.chars
    name := piece.kind.name
    kind := piece.kind.index
    line := first.line
    startColumn := first.column
    endColumn := (positionOf breaks endOffset).column
    startOffset := piece.start
    endOffset }

/-- The token that marks the end of the input. -/
def eofToken (breaks : Array Nat) (offset : Nat) : Token :=
  let here := positionOf breaks offset
  { image := ""
    name := Terminal.eofName
    kind := Terminal.eof
    line := here.line
    startColumn := here.column
    endColumn := here.column
    startOffset := offset
    endOffset := offset }

def tokenize (lexer : Lexer) (text : String) : LexResult :=
  let chars := text.toList
  let breaks := (lineBreaks 0 chars).toArray
  let (pieces, rest) := cut lexer.kinds chars.length 0 chars
  let tokens := (pieces.filter fun piece => piece.kind.index ∉ lexer.skipped).map (tokenOf breaks)
  let length := byteLength chars
  match rest with
  | [] => { tokens := tokens ++ [eofToken breaks length], errors := [], groups := lexer.groups }
  | character :: _ =>
      let offset := length - byteLength rest
      let error : LexError := { character, position := positionOf breaks offset, offset }
      { tokens, errors := [error], groups := lexer.groups }

end Lexer

end CanonicalLR
