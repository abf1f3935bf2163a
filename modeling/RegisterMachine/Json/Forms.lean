import RegisterMachine.Engine.Snapshot
import RegisterMachine.Json.Fields

/-!
# JSON forms of machine state

Each type has one written form, with fields in a fixed order, and reads back every
form that the rules of `Json.fields?` admit.
-/

namespace RegisterMachine

/-! ## Instructions -/

/-- The name of an instruction in JSON. -/
def Instruction.jsonName : Instruction → String
  | read => "Read"
  | write => "Write"
  | load => "Load"
  | store => "Store"
  | add => "Add"
  | sub => "Sub"
  | mul => "Mul"
  | div => "Div"
  | goto => "Goto"
  | jz => "Jz"
  | jgtz => "Jgtz"
  | halt => "Halt"

/-- The instruction of a name in JSON; case matters. -/
def Instruction.ofJsonName? (name : String) : Option Instruction :=
  all.find? fun i => i.jsonName = name

/-- An instruction is written as its name. -/
def Instruction.toJson (i : Instruction) : Json := Json.ofText i.jsonName

/-- Reads a name, or an object with the name as its only key and nothing in it. -/
def Instruction.ofJson? : Json → Option Instruction
  | .string raw => (Json.decodeText? raw).bind ofJsonName?
  | .object [(key, .null)] => (Json.decodeText? key).bind ofJsonName?
  | _ => none

/-! ## Commands and programs -/

/-- An operand is written as its literal and its marker count. -/
def Operand.toJson (o : Operand) : Json :=
  Json.record [("literal", Json.ofNat o.literal.toNat),
    ("dereference_count", Json.ofNat o.markers.toNat)]

/-- Reads an operand; neither part is limited beyond its width. -/
def Operand.ofJson? (j : Json) : Option Operand :=
  match j.fields? ["literal", "dereference_count"] with
  | some [literal, markers] => do
    let literal ← literal.natBelow? UInt64.size
    let markers ← markers.natBelow? UInt32.size
    return ⟨UInt64.ofNat literal, UInt32.ofNat markers⟩
  | _ => none

/-- A command is written as its instruction, operand and line. -/
def Command.toJson (c : Command) : Json :=
  Json.record [("instruction", c.instruction.toJson), ("operand", c.operand.toJson),
    ("line", Json.ofNat c.line)]

/-- Reads a command. -/
def Command.ofJson? (j : Json) : Option Command :=
  match j.fields? ["instruction", "operand", "line"] with
  | some [instruction, operand, line] => do
    let instruction ← Instruction.ofJson? instruction
    let operand ← Operand.ofJson? operand
    let line ← line.count?
    return ⟨instruction, operand, line⟩
  | _ => none

/-- A program is written as its commands. -/
def Program.toJson (p : Program) : Json :=
  Json.record [("commands", .array (p.commands.map Command.toJson))]

/-- Reads a program; line numbers are taken as they are. -/
def Program.ofJson? (j : Json) : Option Program :=
  match j.fields? ["commands"] with
  | some [commands] => (commands.list? Command.ofJson?).map Program.mk
  | _ => none

/-! ## Registers and snapshots -/

/-- A cell is a member with its address for a key. -/
def Registers.cellJson (cell : Address × Value) : List Char × Json :=
  (Nat.toDigits 10 cell.1.toNat, Json.ofInt cell.2.toInt)

/-- Registers are written as their cells in ascending order. -/
def Registers.toJson (r : Registers) : Json :=
  Json.record [("cells", .object (r.cells.map cellJson))]

/-- Reads a key as an address: a bare numeral between the quotes. -/
def Registers.addressOfKey? (key : List Char) : Option Address :=
  ((JsonNumber.parse? key).bind fun n => (Json.number n).natBelow? UInt64.size).map UInt64.ofNat

/-- Reads a cell. -/
def Registers.cellOfMember? (member : List Char × Json) : Option (Address × Value) := do
  let address ← addressOfKey? member.1
  let value ← member.2.value?
  return (address, value)

/-- Reads cells; of two cells with one address the later wins. -/
def Registers.ofJson? (j : Json) : Option Registers :=
  match j.fields? ["cells"] with
  | some [.object members] => (members.mapM cellOfMember?).map empty.setAll
  | _ => none

/-- A snapshot is written with its pointers first and its command last. -/
def Snapshot.toJson (s : Snapshot) : Json :=
  Json.record [("instruction_pointer", Json.ofNat s.instructionPointer),
    ("input_pointer", Json.ofNat s.inputPointer),
    ("output", .array (s.output.toList.map fun v => Json.ofInt v.toInt)),
    ("registers", s.registers.toJson), ("command", s.command.toJson)]

/-- Reads a snapshot. -/
def Snapshot.ofJson? (j : Json) : Option Snapshot :=
  match j.fields? ["instruction_pointer", "input_pointer", "output", "registers", "command"] with
  | some [instructionPointer, inputPointer, output, registers, command] => do
    let instructionPointer ← instructionPointer.count?
    let inputPointer ← inputPointer.count?
    let output ← output.list? Json.value?
    let registers ← Registers.ofJson? registers
    let command ← Command.ofJson? command
    return ⟨instructionPointer, inputPointer, output.toArray, registers, command⟩
  | _ => none

/-! ## Faults -/

/-- The name of a fault in JSON. -/
def Fault.jsonName : Fault → String
  | lineNotFound .. => "LineNotFound"
  | inputExhausted .. => "InputExhausted"
  | divisionByZero .. => "DivisionByZero"
  | illegalOperand .. => "IllegalOperand"
  | negativeAddress .. => "InvalidAddress"
  | limitExceeded .. => "InstructionLimitExceeded"

/-- What a fault is about. -/
def Fault.jsonFields : Fault → List (String × Json)
  | lineNotFound line => [("line", Json.ofNat line)]
  | inputExhausted line position => [("line", Json.ofNat line), ("position", Json.ofNat position)]
  | divisionByZero line => [("line", Json.ofNat line)]
  | illegalOperand line instruction operand =>
    [("line", Json.ofNat line), ("instruction", instruction.toJson),
      ("operand", Json.ofText operand)]
  | negativeAddress line value => [("line", Json.ofNat line), ("value", Json.ofInt value.toInt)]
  | limitExceeded limit => [("limit", Json.ofNat limit)]

/-- A fault is written as an object with its name for a key. -/
def Fault.toJson (f : Fault) : Json :=
  Json.record [(f.jsonName, Json.record f.jsonFields)]

/-- Reads what a fault of the given name is about. -/
def Fault.ofBody? (name : String) (body : Json) : Option Fault :=
  if name = "LineNotFound" then
    match body.fields? ["line"] with
    | some [line] => line.count?.map lineNotFound
    | _ => none
  else if name = "InputExhausted" then
    match body.fields? ["line", "position"] with
    | some [line, position] => do return inputExhausted (← line.count?) (← position.count?)
    | _ => none
  else if name = "DivisionByZero" then
    match body.fields? ["line"] with
    | some [line] => line.count?.map divisionByZero
    | _ => none
  else if name = "IllegalOperand" then
    match body.fields? ["line", "instruction", "operand"] with
    | some [line, instruction, operand] => do
      return illegalOperand (← line.count?) (← Instruction.ofJson? instruction) (← operand.text?)
    | _ => none
  else if name = "InvalidAddress" then
    match body.fields? ["line", "value"] with
    | some [line, value] => do return negativeAddress (← line.count?) (← value.value?)
    | _ => none
  else if name = "InstructionLimitExceeded" then
    match body.fields? ["limit"] with
    | some [limit] => limit.count?.map limitExceeded
    | _ => none
  else none

/-- Reads a fault. -/
def Fault.ofJson? : Json → Option Fault
  | .object [(key, body)] => (Json.decodeText? key).bind fun name => ofBody? name body
  | _ => none

end RegisterMachine
