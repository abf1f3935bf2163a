import RegisterMachine.Engine.Machine

/-!
# Snapshots

A snapshot holds what distinguishes a machine from others with its program and
input, and the command it is about to perform.
-/

namespace RegisterMachine

/-- The state of a machine in front of a command. -/
structure Snapshot where
  instructionPointer : Nat
  inputPointer : Nat
  output : Array Value
  registers : Registers
  command : Command
  deriving DecidableEq

/-- Values between brackets. -/
def tapeText (values : Array Value) : String :=
  "[" ++ String.intercalate ", " (values.toList.map Value.text) ++ "]"

/-- The snapshot on one row. -/
def Snapshot.text (s : Snapshot) : String :=
  s.command.text ++ " | ip=" ++ toString s.instructionPointer ++
    " in=" ++ toString s.inputPointer ++ " out=" ++ tapeText s.output ++
    " regs=" ++ s.registers.text

namespace Machine

/-- The state in front of the next command; a fault if there is none. -/
def snapshot (m : Machine) : Except Fault Snapshot :=
  match m.current with
  | .error f => .error f
  | .ok c => .ok ⟨m.instructionPointer, m.inputPointer, m.output, m.registers, c⟩

/-- The machine with its pointers, output and registers set back to a
snapshot. -/
def restore (m : Machine) (s : Snapshot) : Machine :=
  { m with
    instructionPointer := s.instructionPointer
    inputPointer := s.inputPointer
    output := s.output
    registers := s.registers }

end Machine

end RegisterMachine
