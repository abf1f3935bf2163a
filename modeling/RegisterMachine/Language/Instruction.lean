import RegisterMachine.Text.Blank

/-!
# Instructions

The twelve operations of the machine and the mnemonics that name them.
-/

namespace RegisterMachine

/-- An operation of the machine. -/
inductive Instruction where
  | read | write | load | store | add | sub | mul | div | goto | jz | jgtz | halt
  deriving DecidableEq, Repr, Inhabited

namespace Instruction

/-- Every operation, in the order of the instruction table. -/
def all : List Instruction :=
  [read, write, load, store, add, sub, mul, div, goto, jz, jgtz, halt]

/-- The name of an operation in program text. -/
def mnemonic : Instruction → String
  | read => "READ"
  | write => "WRITE"
  | load => "LOAD"
  | store => "STORE"
  | add => "ADD"
  | sub => "SUB"
  | mul => "MUL"
  | div => "DIV"
  | goto => "GOTO"
  | jz => "JZ"
  | jgtz => "JGTZ"
  | halt => "HALT"

/-- A second name for `mul`. -/
def mulAlias : String := "MULT"

/-- The operation that a token names, whatever the case of its ASCII letters. -/
def ofMnemonic? (token : String) : Option Instruction :=
  let name := Text.upper token
  if name = mulAlias then some mul else all.find? fun i => i.mnemonic = name

/-- Whether the operand may carry markers. An operation that names its register
or line outright takes a bare literal. -/
def allowsMarkers : Instruction → Bool
  | read | write | store | goto => false
  | _ => true

end Instruction

end RegisterMachine
