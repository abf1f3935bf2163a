/-!
# JSON values

A value keeps what the text says: a number its digits, a string its characters
with escapes as written, an object its members in order with repeated keys. What
they mean depends on the type that a value is read as.
-/

namespace RegisterMachine

/-- A number as it is written: a sign, the digits in front of the point, the digits
behind it (none when there is no point), and an exponent with its sign. -/
structure JsonNumber where
  negative : Bool
  whole : List Char
  fraction : List Char
  exponent : Option (Bool × List Char)
  deriving DecidableEq, Repr

/-- A JSON value. Strings and keys hold the characters between the quotes. -/
inductive Json where
  | null
  | bool (b : Bool)
  | number (n : JsonNumber)
  | string (raw : List Char)
  | array (items : List Json)
  | object (members : List (List Char × Json))

end RegisterMachine
