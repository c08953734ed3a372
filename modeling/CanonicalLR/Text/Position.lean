import CanonicalLR.Ordered.Bisection

/-!
Positions in a text. Offsets count the bytes of the UTF-8 encoding, lines and columns count from
one, columns count bytes as well, and a line feed belongs to the line that it ends.
-/

namespace CanonicalLR

structure Position where
  line : Nat
  column : Nat
deriving DecidableEq, Repr

def byteLength : List Char → Nat
  | [] => 0
  | c :: rest => c.utf8Size + byteLength rest

/-- The offsets of the line feeds of a text that begins at offset `start`. -/
def lineBreaks (start : Nat) : List Char → List Nat
  | [] => []
  | c :: rest =>
      if c = '\n' then start :: lineBreaks (start + c.utf8Size) rest
      else lineBreaks (start + c.utf8Size) rest

/-- The position of an offset in a text with line feeds at the increasing offsets `breaks`. -/
def positionOf (breaks : Array Nat) (offset : Nat) : Position :=
  let before := countFirst (fun lineBreak => decide (lineBreak < offset)) breaks
  let column :=
    match before with
    | 0 => offset + 1
    | last + 1 => offset - breaks[last]?.getD 0
  ⟨before + 1, column⟩

end CanonicalLR
