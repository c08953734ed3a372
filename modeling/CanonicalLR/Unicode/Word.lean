import CanonicalLR.Unicode.Property

/-!
Words and white space, which patterns ask about at every place of a text.
-/

namespace CanonicalLR.Unicode

def words : CharSet :=
  Property.word.chars

def whiteSpace : CharSet :=
  Property.whiteSpace.chars

def isWord (c : Char) : Bool :=
  words.contains c

def isWhiteSpace (c : Char) : Bool :=
  whiteSpace.contains c

end CanonicalLR.Unicode
