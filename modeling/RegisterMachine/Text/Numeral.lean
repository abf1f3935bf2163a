import RegisterMachine.Numeric.Word

/-!
# Decimal numerals

Numbers are written with ASCII digits only; no other decimal digit of Unicode
counts. Readers return `none` on an empty text, on a foreign character and on
a value outside the stated range.
-/

namespace RegisterMachine.Text

/-- The value of an ASCII digit. -/
def digit? (c : Char) : Option Nat :=
  if '0' ≤ c ∧ c ≤ '9' then some (c.toNat - '0'.toNat) else none

/-- The value that the digits `cs` denote when they continue a numeral whose
value so far is `acc`. -/
def digitsFrom (acc : Nat) : List Char → Option Nat
  | [] => some acc
  | c :: cs =>
    match digit? c with
    | some d => digitsFrom (10 * acc + d) cs
    | none => none

/-- The value of a non-empty list of digits, leading zeros allowed. -/
def natural? : List Char → Option Nat
  | [] => none
  | cs => digitsFrom 0 cs

/-- A count: an optional `+` and digits, of a value that fits an unsigned
64-bit word. -/
def count? (cs : List Char) : Option Nat :=
  let digits := match cs with
    | '+' :: rest => rest
    | _ => cs
  (natural? digits).filter (· < wordBound)

/-- A signed integer: an optional `+` or `-` and digits, of a value that fits a
signed 64-bit word. -/
def integer? : List Char → Option Value
  | '-' :: cs => ((natural? cs).filter (· ≤ valueBound)).map fun n => Int64.ofInt (-n)
  | '+' :: cs => ((natural? cs).filter (· < valueBound)).map Int64.ofNat
  | cs => ((natural? cs).filter (· < valueBound)).map Int64.ofNat

end RegisterMachine.Text
