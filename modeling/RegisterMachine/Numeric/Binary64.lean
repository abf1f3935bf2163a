/-!
# Binary floating-point numbers

`Binary64` holds the numbers of the 64-bit binary interchange format by their
exact value: a finite number is `± mantissa * 2 ^ exponent`. Everything is
computed in integers, so each rule on these numbers can be decided.

- `Binary64.nearest` rounds a quotient of natural numbers to the format: to the
  nearest member, a tie to the even mantissa, and to infinity past the range.
- `Binary64.ofDecimal?` is the rule by which a decimal numeral is read: the
  significand is rounded first, then scaled by rounded powers of ten.
-/

namespace RegisterMachine

/-- A number of the 64-bit binary format. -/
inductive Binary64 where
  | nan
  | infinite (negative : Bool)
  | finite (negative : Bool) (mantissa : Nat) (exponent : Int)
  deriving DecidableEq, Repr

namespace Binary64

/-- The exponent of the smallest positive numbers. -/
def minExponent : Int := -1074

/-- The largest exponent of a finite number. -/
def maxExponent : Int := 971

/-- The number of bits of a full mantissa. -/
def precision : Nat := 53

/-- The quotient `num / den` rounded to the nearest integer, a tie to the even
one. -/
def divNearest (num den : Nat) : Nat :=
  let q := num / den
  let r := num % den
  if 2 * r < den then q
  else if den < 2 * r then q + 1
  else if q % 2 = 0 then q else q + 1

/-- The fraction `num / den * 2 ^ shift` as numerator and denominator. -/
def scaled (num den : Nat) (shift : Int) : Nat × Nat :=
  if shift < 0 then (num, den * Nat.pow 2 shift.natAbs) else (num * Nat.pow 2 shift.natAbs, den)

/-- The exponent at which `num / den` has a full mantissa, or the smallest
exponent where that would lie below it. -/
def exponentFor (num den : Nat) : Int :=
  let guess : Int := (Nat.log2 num : Int) - Nat.log2 den - (precision - 1)
  let (n, d) := scaled num den (-guess)
  let e := if n < d * Nat.pow 2 (precision - 1) then guess - 1 else guess
  max e minExponent

/-- The member of the format nearest to `num / den`, with the given sign. -/
def nearest (negative : Bool) (num den : Nat) : Binary64 :=
  if num = 0 then .finite negative 0 minExponent
  else
    let e := exponentFor num den
    let (n, d) := scaled num den (-e)
    let m := divNearest n d
    let (m, e) :=
      if m = Nat.pow 2 precision then (Nat.pow 2 (precision - 1), e + 1) else (m, e)
    if e > maxExponent then .infinite negative else .finite negative m e

/-- The number nearest to a natural number. -/
def ofNat (n : Nat) : Binary64 := nearest false n 1

/-- The product of two numbers, rounded; used on finite numbers only. -/
def mul : Binary64 → Binary64 → Binary64
  | .finite s m e, .finite s' m' e' =>
    let (n, d) := scaled (m * m') 1 (e + e')
    nearest (s != s') n d
  | _, _ => .nan

/-- The quotient of two numbers, rounded; used on finite numbers with a divisor
other than zero only. -/
def div : Binary64 → Binary64 → Binary64
  | .finite s m e, .finite s' m' e' =>
    if m' = 0 then .nan
    else
      let (n, d) := scaled m m' (e - e')
      nearest (s != s') n d
  | _, _ => .nan

/-- Zero of either sign. -/
def isZero : Binary64 → Bool
  | .finite _ m _ => m == 0
  | _ => false

/-- Neither infinite nor not-a-number. -/
def isFinite : Binary64 → Bool
  | .finite .. => true
  | _ => false

/-- Below zero; a negative zero is not. -/
def isBelowZero : Binary64 → Bool
  | .finite s m _ => s && m != 0
  | .infinite s => s
  | .nan => false

/-- The same magnitude with a minus sign. -/
def negated : Binary64 → Binary64
  | .finite _ m e => .finite true m e
  | .infinite _ => .infinite true
  | .nan => .nan

/-- The largest power of ten in the format. -/
def maxTenPower : Nat := 308

/-- The power `10 ^ k`, rounded. -/
def tenTo (k : Nat) : Binary64 := ofNat (Nat.pow 10 k)

/-- Divides by `10 ^ k`, in strides of the largest power of ten, until the
power is used up or nothing is left. -/
def scaleDown (x : Binary64) (k : Nat) : Binary64 :=
  if k ≤ maxTenPower then x.div (tenTo k)
  else if x.isZero then x
  else scaleDown (x.div (tenTo maxTenPower)) (k - maxTenPower)
termination_by k
decreasing_by simp only [maxTenPower] at *; omega

/-- Multiplies by `10 ^ k`: `none` when the product leaves the finite range. -/
def scaleUp? (x : Binary64) (k : Nat) : Option Binary64 :=
  if k ≤ maxTenPower then
    let y := x.mul (tenTo k)
    if y.isFinite then some y else none
  else if x.isZero then some x
  else none

/-- The number that a decimal `± significand * 10 ^ exponent` is read as: the
significand rounded, then scaled. `none` when it is too large. -/
def ofDecimal? (negative : Bool) (significand : Nat) (exponent : Int) : Option Binary64 :=
  let x := ofNat significand
  let y := if exponent < 0 then some (x.scaleDown exponent.natAbs) else x.scaleUp? exponent.natAbs
  if negative then y.map negated else y

end Binary64

end RegisterMachine
