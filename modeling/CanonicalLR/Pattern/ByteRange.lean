import CanonicalLR.Unicode.CharSet

/-!
Characters as bytes of UTF-8. The encodings of a range of characters are cut into paths: sequences
of byte ranges, of which every choice of one byte from each range is the encoding of a character.
The paths of a class in order make up a tree.
-/

namespace CanonicalLR.Pattern

open Unicode

/-- Inclusive limits of a byte. -/
abbrev ByteRange := Nat × Nat

/-- The encoding of a code point. -/
def utf8Bytes (code : Nat) : List Nat :=
  if code < 0x80 then [code]
  else if code < 0x800 then [0xC0 + code / 64, 0x80 + code % 64]
  else if code < 0x10000 then [0xE0 + code / 4096, 0x80 + code / 64 % 64, 0x80 + code % 64]
  else
    [0xF0 + code / 262144, 0x80 + code / 4096 % 64, 0x80 + code / 64 % 64, 0x80 + code % 64]

/-- The place at which a range of code points has to be cut, if it is more than one path: the last
code point of the first part. A path has one length, and where two of its code points differ in a
byte, the bytes behind take all values. -/
def cutPlace? (lo hi : Nat) : Option Nat :=
  match [0x7F, 0x7FF, 0xFFFF].find? fun last => lo ≤ last && last < hi with
  | some last => some last
  | none =>
      if hi ≤ 0x7F then none
      else
        [64, 4096, 262144].findSome? fun unit =>
          if lo / unit == hi / unit then none
          else if lo % unit != 0 then some (lo / unit * unit + unit - 1)
          else if hi % unit != unit - 1 then some (hi / unit * unit - 1)
          else none

/-- The paths of a range, in order. Each cut leaves shorter ranges, which `steps` counts. -/
def pathsWithin : (steps lo hi : Nat) → List (List ByteRange)
  | 0, _, _ => []
  | steps + 1, lo, hi =>
      match cutPlace? lo hi with
      | some place => pathsWithin steps lo place ++ pathsWithin steps (place + 1) hi
      | none => [(utf8Bytes lo).zip (utf8Bytes hi)]

/-- The paths of a class, in order. -/
def pathsOf (chars : CharSet) : List (List ByteRange) :=
  chars.ranges.toList.flatMap fun (lo, hi) => pathsWithin (hi - lo + 1) lo hi

/-- The paths of a class, with those that begin alike put together. -/
inductive ByteTree where
  /-- The place behind the last byte. -/
  | target
  /-- No further branch. -/
  | nil
  | branch (range : ByteRange) (below later : ByteTree)
deriving DecidableEq, Repr

/-- Puts a path in front of the paths of a tree. -/
def ByteTree.addFront : List ByteRange → ByteTree → ByteTree
  | [], _ => .target
  | range :: path, .branch first below later =>
      if range = first then .branch first (addFront path below) later
      else .branch range (addFront path .nil) (.branch first below later)
  | range :: path, tree => .branch range (addFront path .nil) tree

def ByteTree.ofPaths (paths : List (List ByteRange)) : ByteTree :=
  paths.foldr .addFront .nil

end CanonicalLR.Pattern
