import Mathlib.Data.Nat.Factorial.Basic
import RegisterMachine.Proofs.Engine.Budgets

/-!
# The factorial program

The program reads a number into register 1 and multiplies register 2, which starts at one, by
register 1 while it counts register 1 down to zero.  The head of its loop is line 4.

* `Factorial.AtHead m counter product`: the machine `m` is in front of the loop with the two
  registers so.  This is the invariant of the loop.
* `AtHead.round` and `AtHead.leave`: nine commands take a machine once through the loop, and
  four take it from the head to its halt.
* `AtHead.rounds`: a counter of `k` is used up by `9 * k` commands, and the product gains `k!`.
* `Factorial.run_listing`: so the listing, compiled and run on any number that a register can
  hold, reports its factorial, and takes `9 * n + 7` commands for it.
-/

namespace RegisterMachine

/-- A run whose limit lies below the steps that the machine can make exceeds it. -/
theorem Machine.run_of_advance_lt {m m' : Machine} {n limit : Nat} (reached : m.advance n = .ok m')
    (short : limit < n) : (m.run limit).2 = .error (.limitExceeded limit) := by
  obtain ⟨last, allowed⟩ := advance_of_le reached (Nat.le_of_lt short)
  obtain ⟨o, next, stepped⟩ := step_of_advance_lt reached allowed short
  rw [run_of_limit allowed (isHalted_of_step stepped)]

namespace Factorial

/-- The program as it is written down. -/
def listing : String :=
  "READ 1\n" ++ "LOAD 1\n" ++ "STORE 2\n" ++
  "LOAD *1\n" ++ "JZ 13\n" ++ "LOAD *2\n" ++ "MUL *1\n" ++ "STORE 2\n" ++
  "LOAD *1\n" ++ "SUB 1\n" ++ "STORE 1\n" ++ "GOTO 4\n" ++
  "WRITE 2\n" ++ "HALT"

/-- The program that the listing compiles to. -/
def program : Program where
  commands :=
    [⟨.read, .immediate 1, 1⟩, ⟨.load, .immediate 1, 2⟩, ⟨.store, .immediate 2, 3⟩,
      ⟨.load, ⟨1, 1⟩, 4⟩, ⟨.jz, .immediate 13, 5⟩, ⟨.load, ⟨2, 1⟩, 6⟩, ⟨.mul, ⟨1, 1⟩, 7⟩,
      ⟨.store, .immediate 2, 8⟩, ⟨.load, ⟨1, 1⟩, 9⟩, ⟨.sub, .immediate 1, 10⟩,
      ⟨.store, .immediate 1, 11⟩, ⟨.goto, .immediate 4, 12⟩, ⟨.write, .immediate 2, 13⟩,
      ⟨.halt, .absent, 14⟩]

theorem ofText_listing : Program.ofText listing = .ok program := by
  decide +kernel

/-- The machine is in front of the loop, with a counter in register 1 and a product in
register 2, and nothing has been written. -/
structure AtHead (m : Machine) (counter product : Value) : Prop where
  program : m.program = program
  pointer : m.instructionPointer = 4
  counter : m.registers.get 1 = counter
  product : m.registers.get 2 = product
  output : m.output = #[]

variable {m : Machine} {counter product : Value}

theorem ofNat_succ_ne_zero {k : Nat} (fits : k + 1 < valueBound) : Int64.ofNat (k + 1) ≠ 0 := by
  intro zero
  have value : (Int64.ofNat (k + 1)).toInt = (k + 1 : Nat) := Int64.toInt_ofNat_of_lt fits
  rw [zero, Int64.toInt_zero] at value
  omega

theorem ofNat_succ_sub_one (k : Nat) : Int64.ofNat (k + 1) - 1 = Int64.ofNat k := by
  rw [Int64.ofNat_add]
  exact Int64.add_sub_cancel _ _

theorem mul_ofNat_factorial_succ (product : Value) (k : Nat) :
    product * Int64.ofNat (k + 1) * Int64.ofNat k.factorial =
      product * Int64.ofNat (k + 1).factorial := by
  rw [Nat.factorial_succ, Int64.ofNat_mul, Int64.mul_assoc]

/-- Three commands lead to the loop. -/
theorem atHead_start (n : Value) :
    ∃ m, (Machine.start program [n]).advance 3 = .ok m ∧ AtHead m n 1 := by
  let r := ((Registers.initial.set 1 n).setAccumulator 1).storeAccumulator 2
  let m : Machine := ⟨program, r, [n], 1, #[], 4⟩
  refine ⟨m, rfl, rfl, rfl, ?_, ?_, rfl⟩ <;>
    simp [m, r, Registers.setAccumulator, Registers.storeAccumulator, Registers.accumulator,
      Registers.accumulatorAddress]

/-- The head of the loop loads the counter, and leaves the loop if it is zero. -/
theorem advance_test (code : m.program = program) (pointer : m.instructionPointer = 4) :
    m.advance 2 = .ok { m with
      registers := m.registers.setAccumulator (m.registers.get 1)
      instructionPointer := if m.registers.get 1 = 0 then 13 else 6 } := by
  obtain ⟨_, r, input, read, output, _⟩ := m
  subst code pointer
  let loaded : Machine := ⟨program, r.setAccumulator (r.get 1), input, read, output, 5⟩
  have branched : (⟨program, r, input, read, output, 4⟩ : Machine).advance 2 =
      .ok (loaded.branch (loaded.registers.accumulator == 0) 13) := rfl
  have counter : loaded.registers.accumulator = r.get 1 := by
    simp [loaded, Registers.setAccumulator, Registers.accumulator]
  rw [branched, counter, Machine.branch]
  by_cases zero : r.get 1 = 0
  · simp [zero, loaded, Machine.jump]
  · simp [zero, loaded, Machine.jump, Machine.next]

/-- From line 6 on the product is multiplied and the counter counted down. -/
theorem advance_body (code : m.program = program) (pointer : m.instructionPointer = 6) :
    let r₁ := m.registers.setAccumulator (m.registers.get 2)
    let r₂ := r₁.setAccumulator (r₁.accumulator * r₁.get 1)
    let r₃ := r₂.storeAccumulator 2
    let r₄ := r₃.setAccumulator (r₃.get 1)
    let r₅ := r₄.setAccumulator (r₄.accumulator - 1)
    let r₆ := r₅.storeAccumulator 1
    m.advance 7 = .ok { m with registers := r₆, instructionPointer := 4 } := by
  obtain ⟨_, r, input, read, output, _⟩ := m
  subst code pointer
  rfl

/-- From line 13 on the product is written and the machine halts. -/
theorem advance_end (code : m.program = program) (pointer : m.instructionPointer = 13) :
    m.advance 2 = .ok { m with
      output := m.output.push (m.registers.get 2)
      instructionPointer := 0 } := by
  obtain ⟨_, r, input, read, output, _⟩ := m
  subst code pointer
  rfl

/-! ## The loop -/

/-- Nine commands take the machine once through the loop. -/
theorem AtHead.round (h : AtHead m counter product) (positive : counter ≠ 0) :
    ∃ m', m.advance 9 = .ok m' ∧ AtHead m' (counter - 1) (product * counter) := by
  have tested := advance_test h.program h.pointer
  rw [h.counter, if_neg positive] at tested
  have body := advance_body
    (m := { m with registers := m.registers.setAccumulator counter, instructionPointer := 6 })
    h.program rfl
  refine ⟨_, (Machine.advance_add tested 7).trans body, h.program, rfl, ?_, ?_, h.output⟩ <;>
    simp [Registers.setAccumulator, Registers.storeAccumulator, Registers.accumulator,
      Registers.accumulatorAddress, h.counter, h.product]

/-- Four commands take the machine from the head of the loop to its halt. -/
theorem AtHead.leave (h : AtHead m 0 product) :
    ∃ m', m.advance 4 = .ok m' ∧ m'.isHalted = true ∧ m'.output = #[product] ∧
      m'.registers.get 1 = 0 := by
  have tested := advance_test h.program h.pointer
  rw [h.counter, if_pos rfl] at tested
  have written := advance_end
    (m := { m with registers := m.registers.setAccumulator 0, instructionPointer := 13 })
    h.program rfl
  refine ⟨_, (Machine.advance_add tested 2).trans written, rfl, ?_, ?_⟩ <;>
    simp [Registers.setAccumulator, Registers.accumulatorAddress, h.counter, h.product, h.output]

/-- A counter of `k` is used up in `k` rounds, in which the product gains the factorial. -/
theorem AtHead.rounds {k : Nat} (h : AtHead m (Int64.ofNat k) product) (fits : k < valueBound) :
    ∃ m', m.advance (9 * k) = .ok m' ∧ AtHead m' 0 (product * Int64.ofNat k.factorial) := by
  induction k generalizing m product with
  | zero =>
    refine ⟨m, rfl, ?_⟩
    rw [Nat.factorial_zero]
    simpa using h
  | succ k ih =>
    obtain ⟨next, once, head⟩ := h.round (ofNat_succ_ne_zero fits)
    rw [ofNat_succ_sub_one] at head
    obtain ⟨last, others, done⟩ := ih head (Nat.lt_of_succ_lt fits)
    rw [mul_ofNat_factorial_succ] at done
    refine ⟨last, ?_, done⟩
    rw [Nat.mul_succ, Nat.add_comm, Machine.advance_add once, others]

/-- The run of the program from start to halt. -/
theorem advance_program {n : Nat} (fits : n < valueBound) :
    ∃ m', (Machine.start program [Int64.ofNat n]).advance (9 * n + 7) = .ok m' ∧
      m'.isHalted = true ∧ m'.output = #[Int64.ofNat n.factorial] ∧ m'.registers.get 1 = 0 := by
  obtain ⟨first, started, head⟩ := atHead_start (Int64.ofNat n)
  obtain ⟨last, counted, done⟩ := head.rounds fits
  obtain ⟨m', left, halted, output, counter⟩ := done.leave
  refine ⟨m', ?_, halted, ?_, counter⟩
  · calc (Machine.start program [Int64.ofNat n]).advance (9 * n + 7)
        = (Machine.start program [Int64.ofNat n]).advance (3 + (9 * n + 4)) := by
          rw [show 9 * n + 7 = 3 + (9 * n + 4) by omega]
      _ = first.advance (9 * n + 4) := Machine.advance_add started _
      _ = last.advance 4 := Machine.advance_add counted 4
      _ = .ok m' := left
  · rw [output, Int64.one_mul]

/-- The listing compiles.  Run on a number that is not negative it reports the factorial of the
number, reduced to a word, after nine commands for each unit of the number and seven more, and
halts with the counter at zero.  A limit below that is exceeded. -/
theorem run_listing {n : Nat} (fits : n < valueBound) :
    ∃ p, Program.ofText listing = .ok p ∧ ∀ limit,
      (9 * n + 7 ≤ limit →
        ∃ m, (Machine.start p [Int64.ofNat n]).run limit =
            (m, .ok ⟨9 * n + 7, #[Int64.ofNat n.factorial]⟩) ∧
          m.isHalted = true ∧ m.registers.get 1 = 0) ∧
      (limit < 9 * n + 7 →
        ((Machine.start p [Int64.ofNat n]).run limit).2 = .error (.limitExceeded limit)) := by
  obtain ⟨m, reached, halted, output, counter⟩ := advance_program fits
  refine ⟨program, ofText_listing, fun limit => ⟨fun within => ?_, fun short => ?_⟩⟩
  · refine ⟨m, ?_, halted, counter⟩
    rw [Machine.run_of_halted reached within halted, output]
  · exact Machine.run_of_advance_lt reached short

/-- The factorial of 21 is the first that does not fit a word. -/
theorem run_listing_wrapped :
    21 < valueBound ∧ ∃ p, Program.ofText listing = .ok p ∧
      (∃ m, (Machine.start p [21]).run 196 = (m, .ok ⟨196, #[-4249290049419214848]⟩) ∧
        m.isHalted = true ∧ m.registers.get 1 = 0) ∧
      ((Machine.start p [21]).run 195).2 = .error (.limitExceeded 195) := by
  have fits : 21 < valueBound := by decide
  obtain ⟨p, compiled, runs⟩ := run_listing fits
  have wrapped : Int64.ofNat (Nat.factorial 21) = -4249290049419214848 := by decide +kernel
  have reported := (runs 196).1 (Nat.le_refl _)
  rw [wrapped] at reported
  exact ⟨fits, p, compiled, reported, (runs 195).2 (by decide)⟩

end Factorial

end RegisterMachine
