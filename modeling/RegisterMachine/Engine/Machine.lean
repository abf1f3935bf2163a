import RegisterMachine.Engine.Addressing
import RegisterMachine.Engine.Fault
import RegisterMachine.Language.Program

/-!
# The machine

A machine holds a program, its registers, an input tape with a pointer to the
next unread value, an output tape and an instruction pointer. Pointer zero means
that the machine has halted.

- `Machine.perform` is the instruction table: what a command makes of a machine.
- `Machine.step` fetches the command at the pointer and performs it: the outcome and
  the machine after it, or a fault.
-/

namespace RegisterMachine

/-- A program in execution. -/
structure Machine where
  program : Program
  registers : Registers
  input : List Value
  inputPointer : Nat
  output : Array Value
  instructionPointer : Nat
  deriving DecidableEq

/-- What a step did: the command it performed and the line to come, zero once the
machine has halted. -/
structure Outcome where
  command : Command
  next : Nat
  deriving DecidableEq, Repr

/-- Whether the step halted the machine. -/
def Outcome.isHalt (o : Outcome) : Bool := o.next == 0

namespace Machine

/-- A machine in front of line one, with nothing read or written. -/
def start (program : Program) (input : List Value) : Machine where
  program
  registers := .initial
  input
  inputPointer := 0
  output := #[]
  instructionPointer := 1

/-- Whether the pointer is zero. -/
def isHalted (m : Machine) : Bool := m.instructionPointer == 0

/-- The command at the pointer. -/
def current (m : Machine) : Except Fault Command :=
  match m.program.get? m.instructionPointer with
  | some c => .ok c
  | none => .error (.lineNotFound m.instructionPointer)

/-- Moves the pointer to a line. -/
def jump (m : Machine) (line : Nat) : Machine := { m with instructionPointer := line }

/-- Moves the pointer to the next line. -/
def next (m : Machine) : Machine := m.jump (m.instructionPointer + 1)

/-- Jumps to the line if the condition holds, otherwise goes on. -/
def branch (m : Machine) (condition : Bool) (line : Address) : Machine :=
  if condition then m.jump line.toNat else m.next

/-- Writes the accumulator and goes on. -/
def accumulate (m : Machine) (v : Value) : Machine :=
  { m with registers := m.registers.setAccumulator v }.next

/-- What the instruction of `c` makes of a machine, once its operand is known to
designate register `a` and to have the value `v`. Arithmetic wraps, and division
drops the fraction. -/
def apply (m : Machine) (c : Command) (a : Address) (v : Value) : Except Fault Machine :=
  let acc := m.registers.accumulator
  match c.instruction with
  | .read =>
    match m.input[m.inputPointer]? with
    | some x =>
      .ok { m with registers := m.registers.set a x, inputPointer := m.inputPointer + 1 }.next
    | none => .error (.inputExhausted c.line m.inputPointer)
  | .write => .ok { m with output := m.output.push (m.registers.get a) }.next
  | .load => .ok (m.accumulate v)
  | .store => .ok { m with registers := m.registers.storeAccumulator a }.next
  | .add => .ok (m.accumulate (acc + v))
  | .sub => .ok (m.accumulate (acc - v))
  | .mul => .ok (m.accumulate (acc * v))
  | .div => if v = 0 then .error (.divisionByZero c.line) else .ok (m.accumulate (acc / v))
  | .goto => .ok (m.jump a.toNat)
  | .jz => .ok (m.branch (acc == 0) a)
  | .jgtz => .ok (m.branch (acc > 0) a)
  | .halt => .ok (m.jump 0)

/-- What a command makes of a machine. The operand is resolved before anything
else is looked at, also for a jump that is not taken; only `halt` ignores it. -/
def perform (m : Machine) (c : Command) : Except Fault Machine :=
  if c.operand.isMarked && !c.instruction.allowsMarkers then
    .error (.illegalOperand c.line c.instruction c.operand.text)
  else if c.instruction = .halt then .ok (m.jump 0)
  else
    match c.operand.resolve m.registers with
    | .error v => .error (.negativeAddress c.line v)
    | .ok (a, v) => m.apply c a v

/-- Performs the command at the pointer. -/
def step (m : Machine) : Except Fault (Outcome × Machine) :=
  match m.current with
  | .error f => .error f
  | .ok c =>
    match m.perform c with
    | .error f => .error f
    | .ok m' => .ok (⟨c, m'.instructionPointer⟩, m')

end Machine

end RegisterMachine
