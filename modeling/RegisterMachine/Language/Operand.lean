import RegisterMachine.Text.Numeral

/-!
# Operands

An operand is a literal behind any number of markers `*`. No marker means the
literal itself, one marker the register it names, and every further marker one
more look-up on the way to the register.
-/

namespace RegisterMachine

/-- A literal and the number of its markers. -/
structure Operand where
  literal : Address
  markers : UInt32
  deriving DecidableEq, Repr, Inhabited

/-- How an operand finds its value. -/
inductive AddressingMode where
  | immediate | direct | indirect
  deriving DecidableEq, Repr

namespace Operand

/-- A bare literal. -/
def immediate (literal : Address) : Operand := ⟨literal, 0⟩

/-- The operand of a command that is written without one. -/
def absent : Operand := immediate 0

/-- The character in front of a literal. -/
def marker : Char := '*'

/-- The most markers that program text may write. -/
def maxMarkers : Nat := 32

/-- The addressing mode: the marker count tells it. -/
def mode (o : Operand) : AddressingMode :=
  if o.markers = 0 then .immediate else if o.markers = 1 then .direct else .indirect

/-- Whether the operand has a marker. -/
def isMarked (o : Operand) : Bool := o.markers != 0

/-- The operand as program text. -/
def text (o : Operand) : String :=
  String.ofList (List.replicate o.markers.toNat marker) ++ Address.text o.literal

/-- Reads an operand token: at most `maxMarkers` markers, then digits whose value
fits a signed word. -/
def ofToken? (token : String) : Option Operand :=
  let markers := (token.toList.takeWhile (· = marker)).length
  match Text.natural? (token.toList.dropWhile (· = marker)) with
  | some n =>
    if markers ≤ maxMarkers ∧ n < valueBound then
      some ⟨UInt64.ofNat n, UInt32.ofNat markers⟩
    else none
  | none => none

end Operand

end RegisterMachine
