import RegisterMachine.Json.Basic
import RegisterMachine.Numeric.Binary64
import RegisterMachine.Text.Numeral

/-!
# JSON numbers

Reading and writing numerals, and what they denote. A numeral with a fraction or
an exponent is no integer, whatever its value, and neither is a negative zero.
-/

namespace RegisterMachine.JsonNumber

/-- Whether a character is an ASCII digit. -/
def isDigit (c : Char) : Bool := (Text.digit? c).isSome

/-- Splits a list of characters behind its leading digits. -/
def splitDigits (cs : List Char) : List Char × List Char := cs.span isDigit

/-- The exponent at the end of a numeral: a mark, perhaps a sign, and digits. -/
def exponentOf? : List Char → Option (Option (Bool × List Char))
  | [] => some none
  | mark :: cs =>
    if mark = 'e' || mark = 'E' then
      let (negative, digits) := match cs with
        | '+' :: rest => (false, rest)
        | '-' :: rest => (true, rest)
        | _ => (false, cs)
      if digits.isEmpty || !digits.all isDigit then none else some (some (negative, digits))
    else none

/-- Reads a whole numeral: a minus sign perhaps, digits without a needless leading
zero, then perhaps a fraction and an exponent. -/
def parse? (cs : List Char) : Option JsonNumber := do
  let (negative, cs) := match cs with
    | '-' :: rest => (true, rest)
    | _ => (false, cs)
  let (whole, cs) := splitDigits cs
  if whole.isEmpty || (whole.head? = some '0' && 1 < whole.length) then none
  else
    let (fraction, cs) ← match cs with
      | '.' :: rest =>
        let (fraction, cs) := splitDigits rest
        if fraction.isEmpty then none else some (fraction, cs)
      | _ => some ([], cs)
    let exponent ← exponentOf? cs
    some ⟨negative, whole, fraction, exponent⟩

/-- The exponent as it is written. -/
def exponentText : Option (Bool × List Char) → List Char
  | none => []
  | some (negative, digits) => 'e' :: (if negative then '-' :: digits else digits)

/-- The numeral as it is written. -/
def text (n : JsonNumber) : List Char :=
  (if n.negative then ['-'] else []) ++ n.whole ++
    (if n.fraction.isEmpty then [] else '.' :: n.fraction) ++ exponentText n.exponent

/-- The numeral of a natural number. -/
def ofNat (n : Nat) : JsonNumber := ⟨false, Nat.toDigits 10 n, [], none⟩

/-- The numeral of an integer. -/
def ofInt (i : Int) : JsonNumber := ⟨decide (i < 0), Nat.toDigits 10 i.natAbs, [], none⟩

/-- The integer that a numeral denotes, if it is written as one. -/
def toInt? (n : JsonNumber) : Option Int :=
  if n.fraction.isEmpty && n.exponent.isNone then
    match Text.natural? n.whole with
    | some magnitude =>
      if n.negative then
        if magnitude = 0 then none else some (-magnitude)
      else some magnitude
    | none => none
  else none

/-- Takes digits into a significand as long as it fits an unsigned word. The result
is the significand and the number of digits left out. -/
def absorb (significand : Nat) : List Char → Nat × Nat
  | [] => (significand, 0)
  | c :: cs =>
    let longer := 10 * significand + (Text.digit? c).getD 0
    if longer < wordBound then absorb longer cs else (significand, cs.length + 1)

/-- The power of ten that the exponent stands for. -/
def exponentValue : Option (Bool × List Char) → Int
  | none => 0
  | some (negative, digits) =>
    let magnitude := (Text.natural? digits).getD 0
    if negative then -magnitude else magnitude

/-- The binary number that a numeral denotes; `none` when it is too large. Digits
that do not fit a 64-bit significand are dropped, those in front of the point for
a power of ten each. -/
def toBinary64? (n : JsonNumber) : Option Binary64 :=
  let (significand, dropped) := absorb 0 n.whole
  let (significand, behind) := absorb significand n.fraction
  let absorbed := n.fraction.length - behind
  Binary64.ofDecimal? n.negative significand
    ((dropped : Int) - absorbed + exponentValue n.exponent)

end RegisterMachine.JsonNumber
