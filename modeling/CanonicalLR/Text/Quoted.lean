import CanonicalLR.Unicode.Display

/-!
Quoted texts for people to read: what has no glyph of its own is shown by number.
-/

namespace CanonicalLR

/-- The hexadecimal digits of a number, the first one not zero. -/
def hexDigits (number : Nat) : List Char :=
  Nat.toDigits 16 number

def readableChar (c : Char) : List Char :=
  match c with
  | '\x00' => ['\\', '0']
  | '\t' => ['\\', 't']
  | '\n' => ['\\', 'n']
  | '\r' => ['\\', 'r']
  | '"' => ['\\', '"']
  | '\\' => ['\\', '\\']
  | c =>
      if Unicode.isPrintable c then [c]
      else '\\' :: 'u' :: '\x7b' :: hexDigits c.toNat ++ ['\x7d']

def readable (text : String) : String :=
  String.ofList ('"' :: text.toList.flatMap readableChar ++ ['"'])

end CanonicalLR
