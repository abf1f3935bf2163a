import RegisterMachine.Engine.Machine

/-!
# Steps in place

A machine that is changed in place must not be left half changed. A step finds out first what
its command is going to change, and changes nothing before that is settled.

- `Machine.evaluate` is the plan of a command, or why there is none.
- `Machine.commit` carries a plan out, one part after the other.
- `Machine.stepInPlace` yields the machine that a step leaves behind, whether it fails or not.
- `perform_eq_commit` and `stepInPlace_eq`: all of it comes to what the instruction table says, and
  a step that fails leaves the machine as it was.
-/

namespace RegisterMachine

/-- What a command is going to change. Without a jump the pointer goes on to the next line. -/
structure Plan where
  write : Option (Address × Value) := none
  output : Option Value := none
  readsInput : Bool := false
  jump : Option Nat := none
  deriving DecidableEq

namespace Machine

/-- The plan of a command. The operand is resolved where the instruction needs it. -/
def evaluate (m : Machine) (c : Command) : Except Fault Plan :=
  if c.operand.isMarked && !c.instruction.allowsMarkers then
    .error (.illegalOperand c.line c.instruction c.operand.text)
  else
    let operand := (c.operand.resolve m.registers).mapError (Fault.negativeAddress c.line)
    let acc := m.registers.accumulator
    let accumulate (v : Value) : Plan := { write := some (Registers.accumulatorAddress, v) }
    let branch (condition : Bool) (a : Address) : Plan :=
      { jump := if condition then some a.toNat else none }
    match c.instruction with
    | .read => do
      let (a, _) ← operand
      match m.input[m.inputPointer]? with
      | some x => .ok { write := some (a, x), readsInput := true }
      | none => .error (.inputExhausted c.line m.inputPointer)
    | .write => operand.map fun (a, _) => { output := some (m.registers.get a) }
    | .load => operand.map fun (_, v) => accumulate v
    | .store => operand.map fun (a, _) => { write := some (a, acc) }
    | .add => operand.map fun (_, v) => accumulate (acc + v)
    | .sub => operand.map fun (_, v) => accumulate (acc - v)
    | .mul => operand.map fun (_, v) => accumulate (acc * v)
    | .div => do
      let (_, v) ← operand
      if v = 0 then .error (.divisionByZero c.line) else .ok (accumulate (acc / v))
    | .goto => operand.map fun (a, _) => { jump := some a.toNat }
    | .jz => operand.map fun (a, _) => branch (acc == 0) a
    | .jgtz => operand.map fun (a, _) => branch (acc > 0) a
    | .halt => .ok { jump := some 0 }

/-- Carries a plan out. -/
def commit (m : Machine) (plan : Plan) : Machine :=
  let m := match plan.write with
    | some (a, v) => { m with registers := m.registers.set a v }
    | none => m
  let m := match plan.output with
    | some v => { m with output := m.output.push v }
    | none => m
  let m := if plan.readsInput then { m with inputPointer := m.inputPointer + 1 } else m
  m.jump (plan.jump.getD (m.instructionPointer + 1))

/-- Performs the command at the pointer. The machine is the one that is left behind. -/
def stepInPlace (m : Machine) : Except Fault Outcome × Machine :=
  match m.current with
  | .error f => (.error f, m)
  | .ok c =>
    match m.evaluate c with
    | .error f => (.error f, m)
    | .ok plan =>
      let m := m.commit plan
      (.ok ⟨c, m.instructionPointer⟩, m)

/-- With a branch the plan has a jump exactly if the condition holds. -/
theorem commit_branch (m : Machine) (condition : Bool) (a : Address) :
    m.commit { jump := if condition then some a.toNat else none } = m.branch condition a := by
  cases condition <;> rfl

/-- A plan, carried out, makes of a machine what the instruction table says. -/
theorem perform_eq_commit (m : Machine) (c : Command) :
    m.perform c = (m.evaluate c).map m.commit := by
  obtain ⟨instruction, operand, line⟩ := c
  simp only [perform, evaluate]
  split
  · rfl
  · cases operand.resolve m.registers with
    | error v => cases instruction <;> rfl
    | ok resolved =>
      obtain ⟨a, v⟩ := resolved
      cases instruction with
      | read =>
        cases next : m.input[m.inputPointer]? <;> simp only [apply, next] <;> rfl
      | div =>
        change (if v = 0 then _ else _) = Except.map m.commit (if v = 0 then _ else _)
        by_cases zero : v = 0
        · rw [if_pos zero, if_pos zero]
          rfl
        · rw [if_neg zero, if_neg zero]
          rfl
      | jz | jgtz => exact congrArg Except.ok (commit_branch ..).symm
      | write | load | store | add | sub | mul | goto | halt => rfl

/-- A step in place is a step, and leaves the machine as it was if it fails. -/
theorem stepInPlace_eq (m : Machine) :
    m.stepInPlace =
      match m.step with
      | .error f => (.error f, m)
      | .ok (o, m') => (.ok o, m') := by
  rw [stepInPlace, step]
  cases m.current with
  | error f => rfl
  | ok c =>
    simp only [perform_eq_commit]
    cases m.evaluate c <;> rfl

theorem stepInPlace_eq_error_iff {m m' : Machine} {f : Fault} :
    m.stepInPlace = (.error f, m') ↔ m.step = .error f ∧ m' = m := by
  rw [stepInPlace_eq]
  cases m.step with
  | error g => simp [eq_comm]
  | ok taken => simp

theorem stepInPlace_eq_ok_iff {m m' : Machine} {o : Outcome} :
    m.stepInPlace = (.ok o, m') ↔ m.step = .ok (o, m') := by
  rw [stepInPlace_eq]
  cases m.step with
  | error f => simp
  | ok taken => simp [Prod.ext_iff]

end Machine

end RegisterMachine
