import RegisterMachine.Engine.Registers
import RegisterMachine.Language.Operand

/-!
# Addressing

An operand designates a register and a value. With `k` markers the address is
found by `k - 1` look-ups from the literal; each look-up turns the value of a
register into the next address and fails at a negative value.
-/

namespace RegisterMachine

/-- Follows `n` look-ups from an address. The error is the first negative value
that was met as an address. -/
def Registers.follow (r : Registers) : Nat → Address → Except Value Address
  | 0, a => .ok a
  | n + 1, a =>
    match Value.toAddress? (r.get a) with
    | none => .error (r.get a)
    | some next => r.follow n next

namespace Operand

/-- The register that an operand designates. -/
def address (o : Operand) (r : Registers) : Except Value Address :=
  r.follow (o.markers.toNat - 1) o.literal

/-- The value of an operand whose register is known. -/
def valueAt (o : Operand) (r : Registers) (a : Address) : Value :=
  if o.isMarked then r.get a else Value.ofLiteral o.literal

/-- The value of an operand. Without a marker no register is looked up. -/
def value (o : Operand) (r : Registers) : Except Value Value :=
  if o.isMarked then (o.address r).map r.get else .ok (Value.ofLiteral o.literal)

/-- The register and the value of an operand. -/
def resolve (o : Operand) (r : Registers) : Except Value (Address × Value) :=
  (o.address r).map fun a => (a, o.valueAt r a)

end Operand

end RegisterMachine
