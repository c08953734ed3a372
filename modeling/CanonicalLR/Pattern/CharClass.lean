import CanonicalLR.Unicode.CharSet

/-!
The classes of ASCII characters that patterns know by name.
-/

namespace CanonicalLR.Pattern

open Unicode

/-- The characters of ranges that are given in order. -/
def classOf (ranges : List (Char × Char)) : CharSet :=
  .ofOrdered (ranges.map fun (lo, hi) => (lo.toNat, hi.toNat))

def asciiDigit : CharSet :=
  classOf [('0', '9')]

def asciiSpace : CharSet :=
  classOf [('\t', '\r'), (' ', ' ')]

def asciiWord : CharSet :=
  classOf [('0', '9'), ('A', 'Z'), ('_', '_'), ('a', 'z')]

/-- The classes written `[:name:]` inside brackets. -/
def posixClass? (name : String) : Option CharSet :=
  match name with
  | "alnum" => some (classOf [('0', '9'), ('A', 'Z'), ('a', 'z')])
  | "alpha" => some (classOf [('A', 'Z'), ('a', 'z')])
  | "ascii" => some (classOf [('\x00', '\x7f')])
  | "blank" => some (classOf [('\t', '\t'), (' ', ' ')])
  | "cntrl" => some (classOf [('\x00', '\x1f'), ('\x7f', '\x7f')])
  | "digit" => some asciiDigit
  | "graph" => some (classOf [('!', '~')])
  | "lower" => some (classOf [('a', 'z')])
  | "print" => some (classOf [(' ', '~')])
  | "punct" => some (classOf [('!', '/'), (':', '@'), ('[', '\x60'), ('\x7b', '~')])
  | "space" => some asciiSpace
  | "upper" => some (classOf [('A', 'Z')])
  | "word" => some asciiWord
  | "xdigit" => some (classOf [('0', '9'), ('A', 'F'), ('a', 'f')])
  | _ => none

end CanonicalLR.Pattern
