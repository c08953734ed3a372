import CanonicalLR.Json.Decimal

/-!
JSON values and their compact text: no white space, members in the order given, and in strings only
quotes, backslashes and control characters escaped.
-/

namespace CanonicalLR

inductive JsonValue where
  | null
  | bool (value : Bool)
  | int (value : Int)
  /-- A number with a fraction or an exponent. -/
  | decimal (number : Decimal)
  | str (value : String)
  | arr (members : List JsonValue)
  | obj (fields : List (String × JsonValue))
deriving Repr

namespace JsonValue

def hexDigit (value : Nat) : Char :=
  if value < 10 then Char.ofNat ('0'.toNat + value) else Char.ofNat ('a'.toNat + value - 10)

/-- A character as it stands between quotes. -/
def escaped (c : Char) : List Char :=
  match c with
  | '"' => ['\\', '"']
  | '\\' => ['\\', '\\']
  | '\x08' => ['\\', 'b']
  | '\t' => ['\\', 't']
  | '\n' => ['\\', 'n']
  | '\x0c' => ['\\', 'f']
  | '\r' => ['\\', 'r']
  | c =>
      if c.toNat < 32 || c.toNat == 127 then
        ['\\', 'u', '0', '0', hexDigit (c.toNat / 16), hexDigit (c.toNat % 16)]
      else [c]

def quoted (text : String) : List Char :=
  '"' :: text.toList.flatMap escaped ++ ['"']

mutual

def render : JsonValue → List Char
  | .null => ['n', 'u', 'l', 'l']
  | .bool true => ['t', 'r', 'u', 'e']
  | .bool false => ['f', 'a', 'l', 's', 'e']
  | .int value => (toString value).toList
  | .decimal number => number.render
  | .str value => quoted value
  | .arr [] => ['[', ']']
  | .arr (first :: rest) => '[' :: first.render ++ renderMembers rest
  | .obj [] => ['\x7b', '\x7d']
  | .obj ((name, first) :: rest) =>
      '\x7b' :: quoted name ++ ':' :: first.render ++ renderFields rest

/-- The members after the first, and the closing bracket. -/
def renderMembers : List JsonValue → List Char
  | [] => [']']
  | value :: rest => ',' :: value.render ++ renderMembers rest

/-- The fields after the first, and the closing brace. -/
def renderFields : List (String × JsonValue) → List Char
  | [] => ['\x7d']
  | (name, value) :: rest => ',' :: quoted name ++ ':' :: value.render ++ renderFields rest

end

end JsonValue

end CanonicalLR
