/-!
# Machine words

Registers hold signed 64-bit words and are named by unsigned 64-bit words.
Arithmetic on both wraps. Counts (line numbers, tape positions, limits) are
natural numbers; text and JSON admit only those below `wordBound`.
-/

namespace RegisterMachine

/-- What a register holds. -/
abbrev Value := Int64

/-- What names a register. -/
abbrev Address := UInt64

/-- One past the largest unsigned word. -/
def wordBound : Nat := Nat.pow 2 64

/-- One past the largest signed word. -/
def valueBound : Nat := Nat.pow 2 63

theorem Address.toNat_ofNat {n : Nat} (small : n < wordBound) : (UInt64.ofNat n).toNat = n :=
  UInt64.toNat_ofNat_of_lt' small

/-- The value of a literal, capped at the largest signed word. -/
def Value.ofLiteral (literal : Address) : Value :=
  if literal.toNat < valueBound then literal.toInt64 else Int64.maxValue

/-- The address that a value names: none for a negative value. -/
def Value.toAddress? (v : Value) : Option Address :=
  if v < 0 then none else some v.toUInt64

/-- A value in decimal. -/
def Value.text (v : Value) : String :=
  toString v.toInt

/-- An address in decimal. -/
def Address.text (a : Address) : String :=
  toString a.toNat

end RegisterMachine
