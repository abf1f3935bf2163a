import RegisterMachine.Json.Number
import RegisterMachine.Json.Text

/-!
# Writing JSON

Values are written without blanks, members in their order.
-/

namespace RegisterMachine.Json

/-- The characters between quotes, with the quotes. -/
def quoted (raw : List Char) : List Char := '"' :: raw ++ ['"']

mutual

/-- The characters of a value. -/
def chars : Json → List Char
  | .null => "null".toList
  | .bool b => (if b then "true" else "false").toList
  | .number n => n.text
  | .string raw => quoted raw
  | .array items => '[' :: itemChars items ++ [']']
  | .object members => '\x7b' :: memberChars members ++ ['\x7d']

/-- The items of an array with commas in between. -/
def itemChars : List Json → List Char
  | [] => []
  | [item] => chars item
  | item :: rest => chars item ++ ',' :: itemChars rest

/-- The members of an object with commas in between. -/
def memberChars : List (List Char × Json) → List Char
  | [] => []
  | [(key, value)] => quoted key ++ ':' :: chars value
  | (key, value) :: rest => quoted key ++ ':' :: chars value ++ ',' :: memberChars rest

end

/-- The value as compact text. -/
def render (j : Json) : String := String.ofList j.chars

/-- A text as a value. -/
def ofText (s : String) : Json := .string (encodeText s)

/-- A natural number as a value. -/
def ofNat (n : Nat) : Json := .number (JsonNumber.ofNat n)

/-- An integer as a value. -/
def ofInt (i : Int) : Json := .number (JsonNumber.ofInt i)

/-- An object of the given fields. -/
def record (fields : List (String × Json)) : Json :=
  .object (fields.map fun field => (encodeText field.1, field.2))

end RegisterMachine.Json
