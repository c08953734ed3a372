import CanonicalLR.Json.Library
import CanonicalLR.Json.Reader

/-!
The JSON library that the program runs with. Each reader accepts one shape of value, and those of
numbers only what fits the width of the number. In a record the order of the fields does not matter,
fields with other names are skipped, and no field may be missing. Nothing that is proved of tables
rests on it: there the library is any that keeps to its description.
-/

namespace CanonicalLR.JsonValue

/-- The integer that a number is written for. -/
def asInteger? : JsonValue → Option Int
  | .int value => some value
  | .decimal number => number.toInt?
  | _ => none

/-- A natural number of 64 bits. A decimal number may be one more than the greatest of them, as the
nearest binary number is then, and is read as the greatest. -/
def asNat? (value : JsonValue) : Option Nat := do
  let number ← value.asInteger?
  let excess := match value with
    | .decimal _ => 1
    | _ => 0
  if 0 ≤ number ∧ number ≤ 18446744073709551615 + excess then
    return min number.toNat 18446744073709551615
  else none

/-- A signed number of 32 bits. -/
def asInt? (value : JsonValue) : Option Int := do
  let number ← value.asInteger?
  if -2147483648 ≤ number ∧ number ≤ 2147483647 then return number else none

def asString? : JsonValue → Option String
  | .str value => some value
  | _ => none

/-! ### Fields -/

/-- Whether a value can stand in a field that nobody reads. An integer there has at most 64 bits. -/
def canSkip : JsonValue → Bool
  | .int value => -9223372036854775808 ≤ value && value ≤ 18446744073709551615
  | _ => true

/-- An object without the fields that have none of the names, if those can be skipped. -/
def restrictTo? (names : List String) : JsonValue → Option JsonValue
  | .obj fields =>
      let (named, others) := fields.partition fun field => names.contains field.1
      if others.all (·.2.canSkip) then some (.obj named) else none
  | _ => none

/-- The values of the fields with a name. -/
def fieldsNamed (name : String) : JsonValue → List JsonValue
  | .obj fields => (fields.filter (·.1 == name)).map (·.2)
  | _ => []

/-- A field that must be there. Of several with its name the last one counts, and all have the same
shape. -/
def fieldAs? {α : Type} (name : String) (value? : JsonValue → Option α) (value : JsonValue) :
    Option α := do
  let values ← (value.fieldsNamed name).mapM value?
  values.getLast?

/-! ### Shapes -/

mutual

def decode? : Shape → JsonValue → Option Data
  | .word, value => value.asNat?.map fun number => .number number
  | .halfWord, value => value.asInt?.map .number
  | .text, value => value.asString?.map .text
  | .option content, value =>
      match value with
      | .null => some .absent
      | value => (decode? content value).map .present
  | .list member, value =>
      match value with
      | .arr members => (members.mapM (decode? member)).map .list
      | _ => none
  | .record fields, value => do
      let record ← value.restrictTo? (fields.map (·.1))
      return .record (← decodeFields? fields record)
  | .choice names holders, value =>
      match value with
      | .str name => if name ∈ names then some (.bare name) else none
      | .obj [(name, content)] => decodeHolder? holders name content
      | _ => none

def decodeFields? : List (String × Shape) → JsonValue → Option (List (String × Data))
  | [], _ => some []
  | (name, shape) :: rest, record => do
      let data ← record.fieldAs? name (decode? shape)
      return (name, data) :: (← decodeFields? rest record)

def decodeHolder? : List (String × Shape) → (name : String) → JsonValue → Option Data
  | [], _, _ => none
  | (own, shape) :: rest, name, content =>
      if own = name then (decode? shape content).map (.holder name)
      else decodeHolder? rest name content

end

/-- The value that a text is written for. -/
def readAs {α : Type} [Reflected α] (text : String) : Except String α :=
  match read? text with
  | none => .error "malformed text"
  | some value =>
      match (decode? (Reflected.shape α) value).bind ofData? with
      | none => .error "value of another type"
      | some a => .ok a

instance library : JsonLibrary where
  write a := String.ofList (toData a).document.render
  read := readAs

end CanonicalLR.JsonValue
