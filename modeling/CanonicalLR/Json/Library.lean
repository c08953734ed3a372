import CanonicalLR.Json.Reflection
import CanonicalLR.Json.Value

/-!
JSON texts are left to a library, which writes and reads all values that it is told about.
-/

namespace CanonicalLR

class JsonLibrary where
  write {α : Type} [Reflected α] (a : α) : String
  /-- The value that a text is written for, or why there is none. -/
  read {α : Type} [Reflected α] (text : String) : Except String α

namespace Data

mutual

/-- The document for a value. A record is an object with its fields in order, an alternative that
holds something is an object with its name as the only field, and what is absent is null. -/
def document : Data → JsonValue
  | .number value => .int value
  | .text value => .str value
  | .absent => .null
  | .present content => content.document
  | .list members => .arr (documents members)
  | .record fields => .obj (documentFields fields)
  | .bare name => .str name
  | .holder name content => .obj [(name, content.document)]

def documents : List Data → List JsonValue
  | [] => []
  | data :: rest => data.document :: documents rest

def documentFields : List (String × Data) → List (String × JsonValue)
  | [] => []
  | (name, data) :: rest => (name, data.document) :: documentFields rest

end

end Data

end CanonicalLR
