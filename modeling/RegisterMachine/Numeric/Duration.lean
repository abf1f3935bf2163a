import RegisterMachine.Numeric.Binary64

/-!
# Spans of time

A delay is kept in whole seconds and nanoseconds.
-/

namespace RegisterMachine

/-- A span of time; the nanoseconds are fewer than a whole second. -/
structure Duration where
  seconds : Nat
  nanoseconds : Nat
  deriving DecidableEq, Repr, Inhabited

namespace Duration

/-- Nanoseconds in a second. -/
def nanosPerSecond : Nat := 1000000000

/-- One past the most seconds of a span. -/
def secondsBound : Nat := Nat.pow 2 64

/-- The span of `x` seconds, rounded to the nearest nanosecond, a tie to the even
one. There is none for a number below zero, for one that is not finite and for
`2 ^ 64` seconds or more; a negative zero is the empty span. -/
def ofSeconds? (x : Binary64) : Option Duration :=
  match x with
  | .finite _ m e =>
    let (n, d) := Binary64.scaled m 1 e
    if x.isBelowZero || secondsBound * d ≤ n then none
    else
      let total := Binary64.divNearest (n * nanosPerSecond) d
      some ⟨total / nanosPerSecond, total % nanosPerSecond⟩
  | _ => none

end Duration

end RegisterMachine
