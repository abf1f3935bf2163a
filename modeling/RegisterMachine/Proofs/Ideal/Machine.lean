import Mathlib.Logic.Function.Basic
import RegisterMachine.Language.Program

/-!
# The ideal machine

The ideal machine performs the commands of the register machine over the integers: its
registers, addresses and arithmetic have no bounds, and division drops the fraction.

A step is written in two parts, so that what a command writes can be named.
`Ram.evaluate` tells the effect of the command at the pointer or why it has none, and
`Ram.commit` carries the effect out.  `Ram.writes` collects the values that the first
steps of a run write to registers.
-/

namespace RegisterMachine

/-- A machine over the integers. -/
structure Ram where
  program : Program
  registers : Int → Int
  input : List Int
  inputPointer : Nat
  output : Array Int
  instructionPointer : Nat

/-- Why an ideal machine cannot go on. -/
inductive Ram.Fault where
  | lineNotFound (line : Nat)
  | inputExhausted (line position : Nat)
  | divisionByZero (line : Nat)
  | illegalOperand (line : Nat) (instruction : Instruction) (operand : String)
  | negativeAddress (line : Nat) (value : Int)
  deriving DecidableEq, Repr

/-- What a command does: the register it writes and the value, the value it puts out,
whether it reads from the input, and where it jumps to. -/
structure Ram.Effect where
  write : Option (Int × Int) := none
  output : Option Int := none
  reads : Bool := false
  jump : Option Nat := none
  deriving DecidableEq, Repr

/-- How far repeated steps got: the state they reached, their number, and the fault that
stopped them, if one did. -/
structure Progress (σ ε : Type) where
  state : σ
  steps : Nat
  fault : Option ε

/-- Tries `n` steps.  A fault changes nothing, so nothing happens after one. -/
def progress {σ ε : Type} (step : σ → Except ε σ) (s : σ) : Nat → Progress σ ε
  | 0 => ⟨s, 0, none⟩
  | n + 1 =>
    let p := progress step s n
    match step p.state with
    | .error e => { p with fault := some e }
    | .ok s' => ⟨s', p.steps + 1, p.fault⟩

namespace Ram

/-- A machine in front of line one, with nothing read or written. -/
def start (program : Program) (input : List Int) : Ram where
  program
  registers := fun _ => 0
  input
  inputPointer := 0
  output := #[]
  instructionPointer := 1

/-- Follows `n` look-ups from an address, up to the first negative value. -/
def follow (registers : Int → Int) : Nat → Int → Except Int Int
  | 0, a => .ok a
  | n + 1, a => if registers a < 0 then .error (registers a) else follow registers n (registers a)

/-- The register that an operand designates: one look-up fewer than it has markers. -/
def address (m : Ram) (o : Operand) : Except Int Int :=
  follow m.registers (o.markers.toNat - 1) o.literal.toNat

/-- The value of an operand that designates register `a`: the literal itself without a
marker. -/
def value (m : Ram) (o : Operand) (a : Int) : Int :=
  if o.isMarked then m.registers a else o.literal.toNat

/-- The instruction table. -/
def effect (m : Ram) (c : Command) (a v : Int) : Except Fault Effect :=
  let acc := m.registers 0
  match c.instruction with
  | .read =>
    match m.input[m.inputPointer]? with
    | some x => .ok { write := some (a, x), reads := true }
    | none => .error (.inputExhausted c.line m.inputPointer)
  | .write => .ok { output := some (m.registers a) }
  | .load => .ok { write := some (0, v) }
  | .store => .ok { write := some (a, acc) }
  | .add => .ok { write := some (0, acc + v) }
  | .sub => .ok { write := some (0, acc - v) }
  | .mul => .ok { write := some (0, acc * v) }
  | .div =>
    if v = 0 then .error (.divisionByZero c.line) else .ok { write := some (0, acc.tdiv v) }
  | .goto => .ok { jump := some a.toNat }
  | .jz => .ok { jump := if acc = 0 then some a.toNat else none }
  | .jgtz => .ok { jump := if acc > 0 then some a.toNat else none }
  | .halt => .ok { jump := some 0 }

/-- The effect of the command at the pointer. -/
def evaluate (m : Ram) : Except Fault Effect :=
  match m.program.get? m.instructionPointer with
  | none => .error (.lineNotFound m.instructionPointer)
  | some c =>
    if c.operand.isMarked && !c.instruction.allowsMarkers then
      .error (.illegalOperand c.line c.instruction c.operand.text)
    else if c.instruction = .halt then .ok { jump := some 0 }
    else
      match m.address c.operand with
      | .error v => .error (.negativeAddress c.line v)
      | .ok a => m.effect c a (m.value c.operand a)

/-- Carries out an effect.  The pointer goes to the next line unless there is a jump. -/
def commit (m : Ram) (e : Effect) : Ram :=
  { m with
    registers := e.write.elim m.registers fun w => Function.update m.registers w.1 w.2
    output := e.output.elim m.output m.output.push
    inputPointer := if e.reads then m.inputPointer + 1 else m.inputPointer
    instructionPointer := e.jump.getD (m.instructionPointer + 1) }

/-- Performs the command at the pointer. -/
def step (m : Ram) : Except Fault Ram := m.evaluate.map m.commit

/-- The value that the next step writes to a register, if it does. -/
def written (m : Ram) : Option Int :=
  match m.evaluate with
  | .ok e => e.write.map Prod.snd
  | .error _ => none

/-- The values that the first `n` steps write to registers. -/
def writes (m : Ram) : Nat → List Int
  | 0 => []
  | n + 1 => m.writes n ++ (progress step m n).state.written.toList

end Ram

end RegisterMachine
