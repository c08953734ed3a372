import CanonicalLR.Json.Value

/-!
Reading JSON texts. White space between the parts of a text is free. Each reader takes what is left
of the text and returns what is left after it. A value inside a value is shorter than the text that
it stands in, so the length of the text bounds the nesting and the number of members.
-/

namespace CanonicalLR.JsonValue

def isSpace (c : Char) : Bool :=
  c == ' ' || c == '\t' || c == '\n' || c == '\r'

def dropSpace (text : List Char) : List Char :=
  text.dropWhile isSpace

/-! ### Strings -/

def hexValue? (c : Char) : Option Nat :=
  if '0' ≤ c && c ≤ '9' then some (c.toNat - '0'.toNat)
  else if 'a' ≤ c && c ≤ 'f' then some (c.toNat - 'a'.toNat + 10)
  else if 'A' ≤ c && c ≤ 'F' then some (c.toNat - 'A'.toNat + 10)
  else none

def hexCode? (a b c d : Char) : Option Nat := do
  return (((← hexValue? a) * 16 + (← hexValue? b)) * 16 + (← hexValue? c)) * 16 + (← hexValue? d)

/-- What one place of a string says: a character, or by number a character or a half of one. -/
inductive StringPiece where
  | char (c : Char)
  | code (number : Nat)
deriving DecidableEq, Repr

/-- The character that a backslash with `c` behind it stands for. -/
def shortEscape? (c : Char) : Option Char :=
  match c with
  | '"' | '\\' | '/' => some c
  | 'b' => some '\x08'
  | 'f' => some '\x0c'
  | 'n' => some '\n'
  | 'r' => some '\r'
  | 't' => some '\t'
  | _ => none

/-- Reads the rest of a string, whose opening quote is behind. -/
def readPieces? : List Char → Option (List StringPiece × List Char)
  | [] => none
  | '"' :: rest => some ([], rest)
  | '\\' :: 'u' :: a :: b :: c :: d :: rest => do
      let number ← hexCode? a b c d
      let (pieces, rest) ← readPieces? rest
      return (.code number :: pieces, rest)
  | '\\' :: c :: rest => do
      let char ← shortEscape? c
      let (pieces, rest) ← readPieces? rest
      return (.char char :: pieces, rest)
  | c :: rest =>
      if c == '\\' || c.toNat < 32 then none
      else do
        let (pieces, rest) ← readPieces? rest
        return (.char c :: pieces, rest)

/-- The character with a number; the numbers of halves have none. -/
def charOf? (number : Nat) : Option Char :=
  if number.isValidChar then some (Char.ofNat number) else none

def isHighHalf (number : Nat) : Bool :=
  0xd800 ≤ number && number < 0xdc00

/-- The character that two halves make. -/
def charOfHalves? (high low : Nat) : Option Char :=
  if 0xdc00 ≤ low && low < 0xe000 then
    charOf? (0x10000 + (high - 0xd800) * 0x400 + (low - 0xdc00))
  else none

/-- Joins the pieces of a string. A high half counts only with the low half behind it. -/
def joinPieces? : List StringPiece → Option (List Char)
  | [] => some []
  | .char c :: rest => return c :: (← joinPieces? rest)
  | .code number :: rest =>
      if isHighHalf number then
        match rest with
        | .code low :: rest => return (← charOfHalves? number low) :: (← joinPieces? rest)
        | _ => none
      else return (← charOf? number) :: (← joinPieces? rest)

def readString? (text : List Char) : Option (String × List Char) := do
  let (pieces, rest) ← readPieces? text
  return (String.ofList (← joinPieces? pieces), rest)

/-! ### Numbers -/

def digitsOf (text : List Char) : List Char :=
  text.takeWhile Char.isDigit

def natOf (digits : List Char) : Nat :=
  digits.foldl (fun value digit => 10 * value + (digit.toNat - '0'.toNat)) 0

/-- Reads a point and the digits behind it, if a text starts with a point. -/
def readFraction : List Char → Option (List Char) × List Char
  | '.' :: rest => (some (digitsOf rest), rest.drop (digitsOf rest).length)
  | text => (none, text)

/-- Reads an exponent, if a text starts with one. -/
def readExponent? : List Char → Option (Option Int × List Char)
  | [] => some (none, [])
  | c :: rest =>
      if c == 'e' || c == 'E' then
        let negative := rest.head? == some '-'
        let rest := if negative || rest.head? == some '+' then rest.drop 1 else rest
        let digits := digitsOf rest
        let value := Int.ofNat (natOf digits)
        if digits.isEmpty then none
        else some (some (if negative then -value else value), rest.drop digits.length)
      else some (none, c :: rest)

/-- An integer of at most 128 bits. The negative ones have one bit for the sign. -/
def integer? (negative : Bool) (digits : List Char) : Option JsonValue :=
  let size := natOf digits
  let limit :=
    if negative then 170141183460469231731687303715884105728
    else 340282366920938463463374607431768211455
  if digits.isEmpty || limit < size then none
  else some (.int (if negative then -Int.ofNat size else Int.ofNat size))

/-- The number that is made of a sign, digits, digits behind a point and an exponent. -/
def numberOf? (negative : Bool) (whole : List Char) (fraction : Option (List Char))
    (exponent : Option Int) : Option JsonValue :=
  if fraction.isNone && exponent.isNone then integer? negative whole
  else
    let behind := fraction.getD []
    let digits := whole ++ behind
    if digits.isEmpty then none
    else some (.decimal ⟨negative, natOf digits, exponent.getD 0 - Int.ofNat behind.length⟩)

/-- Reads a number, which starts with a minus sign or a digit. Zeros may stand before the other
digits, and digits may be missing on one side of a point. -/
def readNumber? (text : List Char) : Option (JsonValue × List Char) := do
  let negative := text.head? == some '-'
  let text := if negative then text.drop 1 else text
  let whole := digitsOf text
  if whole.isEmpty && !negative then none
  else
    let (fraction, rest) := readFraction (text.drop whole.length)
    let (exponent, rest) ← readExponent? rest
    return (← numberOf? negative whole fraction exponent, rest)

/-! ### Values -/

mutual

/-- Reads one value; white space before it is free. -/
def readValue? : (steps : Nat) → List Char → Option (JsonValue × List Char)
  | 0, _ => none
  | steps + 1, text =>
      match dropSpace text with
      | 'n' :: 'u' :: 'l' :: 'l' :: rest => some (.null, rest)
      | 't' :: 'r' :: 'u' :: 'e' :: rest => some (.bool true, rest)
      | 'f' :: 'a' :: 'l' :: 's' :: 'e' :: rest => some (.bool false, rest)
      | '"' :: rest => do
          let (value, rest) ← readString? rest
          return (.str value, rest)
      | '[' :: rest =>
          match dropSpace rest with
          | ']' :: rest => some (.arr [], rest)
          | rest => do
              let (members, rest) ← readMembers? steps rest
              return (.arr members, rest)
      | '\x7b' :: rest =>
          match dropSpace rest with
          | '\x7d' :: rest => some (.obj [], rest)
          | rest => do
              let (fields, rest) ← readFields? steps rest
              return (.obj fields, rest)
      | text => readNumber? text

/-- Reads members and the closing bracket. -/
def readMembers? : (steps : Nat) → List Char → Option (List JsonValue × List Char)
  | 0, _ => none
  | steps + 1, text => do
      let (value, rest) ← readValue? steps text
      match dropSpace rest with
      | ',' :: rest =>
          let (members, rest) ← readMembers? steps rest
          return (value :: members, rest)
      | ']' :: rest => return ([value], rest)
      | _ => none

/-- Reads fields and the closing brace. -/
def readFields? : (steps : Nat) → List Char → Option (List (String × JsonValue) × List Char)
  | 0, _ => none
  | steps + 1, text =>
      match dropSpace text with
      | '"' :: rest => do
          let (name, rest) ← readString? rest
          match dropSpace rest with
          | ':' :: rest =>
              let (value, rest) ← readValue? steps rest
              match dropSpace rest with
              | ',' :: rest =>
                  let (fields, rest) ← readFields? steps rest
                  return ((name, value) :: fields, rest)
              | '\x7d' :: rest => return ([(name, value)], rest)
              | _ => none
          | _ => none
      | _ => none

end

/-- The value that a text is written for, with white space around it. -/
def read? (text : String) : Option JsonValue := do
  let chars := text.toList
  let (value, rest) ← readValue? (chars.length + 1) chars
  if (dropSpace rest).isEmpty then return value else none

end CanonicalLR.JsonValue
