/-!
Terminals: the numbers by which grammars and tables know token kinds.
-/

namespace CanonicalLR

abbrev Terminal := Int

namespace Terminal

/-- The terminal of the end of the input. -/
def eof : Terminal := -1

def eofName : String := "EOF"

/-- The greatest number that a terminal can have. -/
def greatest : Nat := 2147483647

end Terminal

end CanonicalLR
