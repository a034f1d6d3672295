import MediaTypes.Number.Double

/-!
# Values of the JSON data format

Numbers are integers of any size, or binary numbers. The fields of an object keep their order.

## Main definitions

- `Json` — a value
- `Json.field?` — the value of an object's field
- `Json.integers` — the integers that a value holds
-/

namespace MediaTypes

/-- A value of the JSON data format. -/
inductive Json where
  | null
  | bool (value : Bool)
  /-- An integer of any size. -/
  | int (value : Int)
  /-- A number that is written with a fraction or an exponent. -/
  | float (value : Double)
  | string (value : String)
  | array (items : List Json)
  /-- Named values, in order. -/
  | object (fields : List (String × Json))
  deriving Inhabited

namespace Json

/-- The value of the first field of that name, of an object. -/
def field? (name : String) : Json → Option Json
  | .object fields => fields.lookup name
  | _ => none

mutual

/-- The integers that a value holds, at any depth. -/
def integers : Json → List Int
  | .int n => [n]
  | .array items => integersOfItems items
  | .object fields => integersOfFields fields
  | .null | .bool _ | .float _ | .string _ => []

def integersOfItems : List Json → List Int
  | [] => []
  | v :: rest => integers v ++ integersOfItems rest

def integersOfFields : List (String × Json) → List Int
  | [] => []
  | (_, v) :: rest => integers v ++ integersOfFields rest

end

end Json

end MediaTypes
