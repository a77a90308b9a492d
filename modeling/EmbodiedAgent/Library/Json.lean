import EmbodiedAgent.Library.Binary64

namespace EmbodiedAgent.Library

/-- What `json` reads and writes. -/
inductive JsonValue
  | null
  | bool (value : Bool)
  | int (value : ℤ)
  | float (value : Double)
  | str (value : String)
  | arr (items : List JsonValue)
  | obj (members : List (String × JsonValue))

abbrev Dict := List (String × JsonValue)

namespace JsonValue

def truthy : JsonValue → Bool
  | .null => false
  | .bool value => value
  | .int value => value ≠ 0
  | .float value => ¬ (value ≤ 0 ∧ 0 ≤ value)
  | .str value => value ≠ ""
  | .arr items => !items.isEmpty
  | .obj members => !members.isEmpty

/-- Python's `str`, with `render` for the values that are not strings. -/
def text (render : JsonValue → String) : JsonValue → String
  | .str value => value
  | value => render value

end JsonValue

end EmbodiedAgent.Library
