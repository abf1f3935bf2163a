import RegisterMachine.Numeric.Binary64

/-!
# The shortest decimal text of a binary number

A finite number is shown by the fewest digits that read back to it; of two
such decimals the nearer is taken, and the larger on a tie. The digits are found
by trying the two neighbours of the number on ever finer decimal grids, in exact
integer arithmetic.

`Binary64.plainText` writes every number positionally. `Binary64.debugText`
keeps a point in every number and turns to an exponent for very large and very
small magnitudes.
-/

namespace RegisterMachine

/-- The decimal `digits * 10 ^ power`. -/
structure Decimal where
  digits : Nat
  power : Int
  deriving DecidableEq, Repr

namespace Decimal

/-- Moves trailing zeros of the digits into the power, `fuel` of them at
most. -/
def strip : Nat → Decimal → Decimal
  | 0, d => d
  | fuel + 1, d =>
    if d.digits ≠ 0 ∧ d.digits % 10 = 0 then strip fuel ⟨d.digits / 10, d.power + 1⟩ else d

/-- The digits as text. -/
def digitText (d : Decimal) : List Char := Nat.toDigits 10 d.digits

/-- The power of ten of the leading digit. -/
def leadingPower (d : Decimal) : Int := d.power + d.digitText.length - 1

/-- The decimal without an exponent: zeros fill the gap between the digits and
the point. -/
def positional (d : Decimal) : String :=
  let ds := d.digitText
  if 0 ≤ d.power then
    String.ofList (ds ++ List.replicate d.power.natAbs '0')
  else
    let places := d.power.natAbs
    let padded := List.replicate (places + 1 - ds.length) '0' ++ ds
    String.ofList (padded.take (padded.length - places)) ++ "." ++
      String.ofList (padded.drop (padded.length - places))

/-- The decimal with one digit in front of the point and an exponent. -/
def scientific (d : Decimal) : String :=
  let exponent := toString d.leadingPower
  match d.digitText with
  | [] => exponent
  | [c] => String.singleton c ++ "e" ++ exponent
  | c :: cs => String.singleton c ++ "." ++ String.ofList cs ++ "e" ++ exponent

end Decimal

namespace Binary64

/-- The number of digits in front of the point of `num / den`; zero or less when
the quotient starts with zeros behind the point. -/
def wholeDigits (num den : Nat) : Int :=
  let width n := (Nat.toDigits 10 n).length
  if den ≤ num then width (num / den)
  else
    let t := width (den / num)
    if den ≤ num * Nat.pow 10 (t - 1) then 2 - (t : Int) else 1 - (t : Int)

/-- The fraction `2 ^ e / 10 ^ p` as numerator and denominator. -/
def unitRatio (e p : Int) : Nat × Nat :=
  let (n, d) := scaled 1 1 e
  if p < 0 then (n * Nat.pow 10 p.natAbs, d) else (n, d * Nat.pow 10 p.natAbs)

/-- A neighbour of `m * 2 ^ e` on the grid of multiples of `10 ^ p` that reads
back to it, if there is one. A decimal reads back when it lies no further away
than the midpoints to the adjacent numbers; the midpoints themselves count when
`m` is even. Quarters of a unit in the last place keep the midpoints whole: the
number below a power of two is only half as far away. -/
def neighbour? (m : Nat) (e p : Int) : Option Decimal :=
  let (a, b) := unitRatio (e - 2) p
  let below := if m = Nat.pow 2 (precision - 1) ∧ e > minExponent then 1 else 2
  let value := 4 * m * a
  let low := (4 * m - below) * a
  let high := (4 * m + 2) * a
  let q := value / b
  let lowFits := if m % 2 = 0 then low ≤ q * b else low < q * b
  let highFits := if m % 2 = 0 then (q + 1) * b ≤ high else (q + 1) * b < high
  if lowFits ∧ highFits then
    some (if 2 * (value - q * b) < b then ⟨q, p⟩ else ⟨q + 1, p⟩)
  else if lowFits then some ⟨q, p⟩
  else if highFits then some ⟨q + 1, p⟩
  else none

/-- The most digits that the search tries; so many tell any two numbers
apart. -/
def maxDigits : Nat := 17

/-- The shortest decimal that reads back to `m * 2 ^ e`, for `m` other than
zero. -/
def shortest (m : Nat) (e : Int) : Decimal :=
  let (n, d) := scaled m 1 e
  let width := wholeDigits n d
  let found := (List.range maxDigits).findSome? fun k : Nat => neighbour? m e (width - (k + 1))
  (found.getD ⟨0, 0⟩).strip (maxDigits + 1)

/-- A sign in front of a text. -/
def signed (negative : Bool) (s : String) : String :=
  if negative then "-" ++ s else s

/-- Positional text without needless zeros: `1`, `0.25`, `-0`. -/
def plainText : Binary64 → String
  | .nan => "NaN"
  | .infinite s => signed s "inf"
  | .finite s m e => signed s (if m = 0 then "0" else (shortest m e).positional)

/-- Whether a leading digit of this power of ten is written positionally in
`debugText`. -/
def isModerate (leading : Int) : Bool := -4 ≤ leading && leading < 16

/-- Text that always shows a fraction or an exponent: `1.0`, `0.25`, `1e16`. -/
def debugText : Binary64 → String
  | .nan => "NaN"
  | .infinite s => signed s "inf"
  | .finite s m e =>
    signed s <|
      if m = 0 then "0.0"
      else
        let d := shortest m e
        if isModerate d.leadingPower then
          if 0 ≤ d.power then d.positional ++ ".0" else d.positional
        else d.scientific

end Binary64

end RegisterMachine
