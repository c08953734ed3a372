import CanonicalLR.Unicode.Property

/-!
The characters that names are made of: letters, and after the first place numbers too. Names go by
Unicode 17.0, so there are more of them than the tables of the properties list.
-/

namespace CanonicalLR.Unicode

/-- The letters that Unicode 17.0 adds. -/
def laterLetterCodes : String := "
    88F C5C CDC A7CE-A7CF A7D2 A7D4 A7F1 10940-10959 10EC5-10EC7 10EFA-10EFB 11B60-11B67
    11DB0-11DDB 16EA0-16EB8 16EBB-16ED3 16FF2-16FF6 187F8-187FF 18D09-18D1E 18D80-18DF2
    1E6C0-1E6DE 1E6E0-1E6F5 1E6FE-1E6FF 2B73A-2B73F 2CEA2-2CEAD 323B0-33479"

/-- The numbers that Unicode 17.0 adds. -/
def laterNumberCodes : String := "11DE0-11DE9"

def letters : CharSet :=
  Property.alphabetic.chars.union (.ofCodes laterLetterCodes)

def numbers : CharSet :=
  (Category.charsOf [.decimalNumber, .letterNumber, .otherNumber]).union
    (.ofCodes laterNumberCodes)

def isLetter (c : Char) : Bool :=
  letters.contains c

def isLetterOrNumber (c : Char) : Bool :=
  letters.contains c || numbers.contains c

end CanonicalLR.Unicode
