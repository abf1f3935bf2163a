import RegisterMachine.Language.Command

/-!
# Faults

Why a machine cannot go on. Every fault but the exceeded limit names the line at
which it arose.
-/

namespace RegisterMachine

/-- Why a machine cannot go on. -/
inductive Fault where
  | lineNotFound (line : Nat)
  | inputExhausted (line position : Nat)
  | divisionByZero (line : Nat)
  | illegalOperand (line : Nat) (instruction : Instruction) (operand : String)
  | negativeAddress (line : Nat) (value : Value)
  | limitExceeded (limit : Nat)
  deriving DecidableEq, Repr

/-- The wording of a fault. -/
def Fault.message : Fault → String
  | .lineNotFound line => "no instruction found at line " ++ toString line
  | .inputExhausted line position =>
    "line " ++ toString line ++ ": input tape exhausted after " ++ toString position ++ " value(s)"
  | .divisionByZero line => "line " ++ toString line ++ ": division by zero"
  | .illegalOperand line instruction operand =>
    "line " ++ toString line ++ ": " ++ instruction.mnemonic ++
      " does not accept indirect operand " ++ operand
  | .negativeAddress line value =>
    "line " ++ toString line ++ ": register address " ++ Value.text value ++ " is negative"
  | .limitExceeded limit =>
    "instruction limit of " ++ toString limit ++
      " exceeded; the program probably does not terminate"

end RegisterMachine
