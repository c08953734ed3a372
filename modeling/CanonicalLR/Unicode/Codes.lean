import CanonicalLR.Unicode.CharSet

/-!
The written form of the tables in this folder: hexadecimal codes with blanks or line ends between
them. `AA` is one character, `41-5A` all from the first to the last, and `100-12E/2` those that lie
a whole number of steps of two after the first.
-/

namespace CanonicalLR.Unicode

/-- The pieces of a text between the characters with a property. -/
def piecesBetween (isBreak : Char → Bool) (text : List Char) : List (List Char) :=
  text.foldr
    (fun c pieces =>
      match pieces with
      | [] => if isBreak c then [[], []] else [[c]]
      | piece :: later => if isBreak c then [] :: piece :: later else (c :: piece) :: later)
    []

/-- The value of a digit, of which tables use `0` to `9` and `A` to `F`. -/
def codeDigit (c : Char) : Nat :=
  if c.isDigit then c.toNat - 48 else c.toNat - 55

def codeOf (digits : List Char) : Nat :=
  digits.foldl (fun code c => 16 * code + codeDigit c) 0

/-- The ranges that one word of a table stands for. -/
def rangesOfWord (word : List Char) : List (Nat × Nat) :=
  match (piecesBetween (fun c => c == '-' || c == '/') word).map codeOf with
  | [code] => [(code, code)]
  | [first, last] => [(first, last)]
  | [first, last, step] =>
      (List.range ((last - first) / step + 1)).map fun k => (first + step * k, first + step * k)
  | _ => []

def CharSet.ofCodes (text : String) : CharSet :=
  .ofRanges ((piecesBetween Char.isWhitespace text.toList).flatMap rangesOfWord)

end CanonicalLR.Unicode
