import RegisterMachine.Json.Reader
import RegisterMachine.Json.Writer
import RegisterMachine.Numeric.Word

/-!
# Reading parts of a JSON value

A record is read from an object, whose unknown keys are skipped, or from an array
with one item for each field in order. Integers must be written as such and be in
range.
-/

namespace RegisterMachine.Json

/-- The text of a string. -/
def text? : Json → Option String
  | .string raw => decodeText? raw
  | _ => none

/-- A truth value. -/
def bool? : Json → Option Bool
  | .bool b => some b
  | _ => none

/-- An integer. -/
def int? : Json → Option Int
  | .number n => n.toInt?
  | _ => none

/-- A natural number below the bound. -/
def natBelow? (bound : Nat) (j : Json) : Option Nat :=
  match j.int? with
  | some (.ofNat n) => if n < bound then some n else none
  | _ => none

/-- A count, which fits an unsigned word. -/
def count? : Json → Option Nat := natBelow? wordBound

/-- A value that fits a signed word. -/
def value? (j : Json) : Option Value :=
  match j.int? with
  | some i => if -(valueBound : Int) ≤ i ∧ i < valueBound then some (Int64.ofInt i) else none
  | none => none

/-- A list of items. -/
def list? {α : Type} (read : Json → Option α) : Json → Option (List α)
  | .array items => items.mapM read
  | _ => none

/-- The members of an object with their keys as text. -/
def namedMembers? (members : List (List Char × Json)) : Option (List (String × Json)) :=
  members.mapM fun member => (decodeText? member.1).map (·, member.2)

/-- The values that members hold for a key. -/
def valuesOf (key : String) (members : List (String × Json)) : List Json :=
  (members.filter fun member => member.1 = key).map (·.2)

/-- The values of the named fields of a record. Every field must be there, once. -/
def fields? (names : List String) : Json → Option (List Json)
  | .array items => if items.length = names.length then some items else none
  | .object members =>
    (namedMembers? members).bind fun members =>
      names.mapM fun name =>
        match valuesOf name members with
        | [value] => some value
        | _ => none
  | _ => none

/-- The values of the named fields of a record with defaults. A field may be missing,
in an array at the end, and no other key may be there. -/
def optionalFields? (names : List String) : Json → Option (List (Option Json))
  | .array items =>
    if items.length ≤ names.length then
      some (items.map some ++ List.replicate (names.length - items.length) none)
    else none
  | .object members =>
    (namedMembers? members).bind fun members =>
      if members.all fun member => names.contains member.1 then
        names.mapM fun name =>
          match valuesOf name members with
          | [] => some none
          | [value] => some (some value)
          | _ => none
      else none
  | _ => none

end RegisterMachine.Json
