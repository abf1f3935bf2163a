import RegisterMachine.Language.Instruction
import RegisterMachine.Language.Operand
import RegisterMachine.Text.Quoted

/-!
# Commands

A command is an instruction with its operand and the number of its line. A line
of program text is a mnemonic and at most one operand token between blanks.
-/

namespace RegisterMachine

/-- One line of a program. -/
structure Command where
  instruction : Instruction
  operand : Operand
  line : Nat
  deriving DecidableEq, Repr, Inhabited

/-- Why a line of program text is refused, with the offending token. -/
inductive LineError where
  | unknownInstruction (token : String)
  | malformedOperand (token : String)
  | surplusToken (token : String)
  deriving DecidableEq, Repr

/-- The wording of a refusal. -/
def LineError.message : LineError → String
  | .unknownInstruction token => "invalid instruction: " ++ Text.quote token
  | .malformedOperand token => "invalid operand: " ++ Text.quote token
  | .surplusToken token => "unexpected token: " ++ Text.quote token

namespace Command

/-- The operand of the words behind a mnemonic. A bad operand is reported before
a surplus token. -/
def operandOf : List String → Except LineError Operand
  | [] => .ok Operand.absent
  | token :: rest =>
    match Operand.ofToken? token, rest with
    | none, _ => .error (.malformedOperand token)
    | some operand, [] => .ok operand
    | some _, surplus :: _ => .error (.surplusToken surplus)

/-- Reads the words of a line; a blank line counts as an empty mnemonic. -/
def ofWords (line : Nat) (words : List String) : Except LineError Command :=
  let mnemonic := words.headD ""
  match Instruction.ofMnemonic? mnemonic with
  | none => .error (.unknownInstruction mnemonic)
  | some instruction => (operandOf words.tail).map fun operand => ⟨instruction, operand, line⟩

/-- Reads a line of program text as the command of the given line number. -/
def parse (text : String) (line : Nat) : Except LineError Command :=
  ofWords line (Text.words text)

/-- The command as program text. -/
def sourceText (c : Command) : String :=
  c.instruction.mnemonic ++ " " ++ c.operand.text

/-- The command behind its line number. -/
def text (c : Command) : String :=
  toString c.line ++ ": " ++ c.sourceText

end Command

end RegisterMachine
