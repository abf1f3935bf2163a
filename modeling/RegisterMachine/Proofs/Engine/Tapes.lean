import RegisterMachine.Proofs.Engine.Budgets

/-!
# What a machine has read and written

A host may step a machine and run it, write its registers, and set it back to a snapshot
that it took of it before.  Whatever the order, the tapes of the machine are told by the
commands that led to where it stands: those that were performed since the start and not
undone by going back.

* `Effect`: what a command makes of the registers and the tapes; `step_effect` is the
  inversion of a step.
* `Bench`: a machine together with the commands on its present timeline, and with the
  snapshots that were taken, each with the timeline up to it.  `Bench.operate` is what a
  host can do.
* `Accounts`: the timeline accounts for the tapes of the machine.  `Accounts.step` is kept
  by a step, `Accounts.run` by a run, and `Bench.Sound` by every operation.
* `operations_account`: the timeline accounts for the tapes after any operations.
-/

namespace RegisterMachine

/-! ## One command -/

/-- What a command makes of the registers and the tapes. -/
inductive Effect (m : Machine) (c : Command) (m' : Machine) : Prop
  /-- The next value of the input goes to the register that the operand designates. -/
  | read {a : Address} {x : Value} (instruction : c.instruction = .read)
    (address : c.operand.address m.registers = .ok a) (next : m.input[m.inputPointer]? = some x)
    (registers : m'.registers = m.registers.set a x)
    (pointer : m'.inputPointer = m.inputPointer + 1) (output : m'.output = m.output)
  /-- A value is added to the output. -/
  | write {v : Value} (instruction : c.instruction = .write)
    (registers : m'.registers = m.registers) (pointer : m'.inputPointer = m.inputPointer)
    (output : m'.output = m.output.push v)
  /-- The tapes stay as they are, and at most one register is written. -/
  | inner (notRead : c.instruction ≠ .read) (notWrite : c.instruction ≠ .write)
    (registers : m'.registers = m.registers ∨ ∃ a v, m'.registers = m.registers.set a v)
    (pointer : m'.inputPointer = m.inputPointer) (output : m'.output = m.output)

namespace Machine

theorem branch_effect (m : Machine) {c : Command} (condition : Bool) (line : Address)
    (notRead : c.instruction ≠ .read) (notWrite : c.instruction ≠ .write) :
    Effect m c (m.branch condition line) := by
  unfold branch
  split
  · exact .inner notRead notWrite (.inl rfl) rfl rfl
  · exact .inner notRead notWrite (.inl rfl) rfl rfl

theorem apply_effect {m m' : Machine} {c : Command} {a : Address} {v : Value}
    (address : c.operand.address m.registers = .ok a) (applied : m.apply c a v = .ok m') :
    Effect m c m' := by
  have inner (notRead : c.instruction ≠ .read) (notWrite : c.instruction ≠ .write) {a : Address}
      {v : Value} (registers : m'.registers = m.registers.set a v)
      (pointer : m'.inputPointer = m.inputPointer) (output : m'.output = m.output) :
      Effect m c m' := .inner notRead notWrite (.inr ⟨a, v, registers⟩) pointer output
  unfold apply at applied
  cases instruction : c.instruction <;> simp only [instruction] at applied
  case read =>
    split at applied
    · rename_i x next
      cases applied
      exact .read instruction address next rfl rfl rfl
    · cases applied
  case write =>
    cases applied
    exact .write instruction rfl rfl rfl
  case div =>
    split at applied
    · cases applied
    · cases applied
      exact inner (by simp [instruction]) (by simp [instruction]) rfl rfl rfl
  case jz | jgtz =>
    cases applied
    exact branch_effect _ _ _ (by simp [instruction]) (by simp [instruction])
  case goto | halt =>
    cases applied
    exact .inner (by simp [instruction]) (by simp [instruction]) (.inl rfl) rfl rfl
  all_goals
    cases applied
    exact inner (by simp [instruction]) (by simp [instruction]) rfl rfl rfl

theorem perform_effect {m m' : Machine} {c : Command} (performed : m.perform c = .ok m') :
    Effect m c m' := by
  unfold perform at performed
  split at performed
  · cases performed
  · split at performed
    · rename_i halt
      cases performed
      exact .inner (by simp [halt]) (by simp [halt]) (.inl rfl) rfl rfl
    · split at performed
      · cases performed
      · rename_i resolved
        exact apply_effect (Operand.resolve_eq_ok_iff.mp resolved).1 performed

/-- A step has the effect of its command. -/
theorem step_effect {m m' : Machine} {o : Outcome} (stepped : m.step = .ok (o, m')) :
    Effect m o.command m' :=
  perform_effect (step_eq_ok stepped).2.1

/-- A step that runs out of input stands at its end, and says so. -/
theorem step_inputExhausted {m : Machine} {line position : Nat}
    (failed : m.step = .error (.inputExhausted line position)) :
    position = m.inputPointer ∧ m.input[m.inputPointer]? = none := by
  rcases m.step_cases with ⟨f, failed', rank, obstacle, -⟩ | ⟨c, m', stepped, -⟩
  · cases failed.symm.trans failed'
    cases obstacle with
    | exhausted _ _ ended => exact ⟨rfl, List.getElem?_eq_none_iff.mpr ended⟩
  · cases failed.symm.trans stepped

end Machine

/-! ## Timelines -/

/-- A command that was performed, with the machines before and after it. -/
structure Execution where
  before : Machine
  outcome : Outcome
  after : Machine
  deriving DecidableEq

namespace Execution

/-- Whether the command has this instruction. -/
def isOf (i : Instruction) (e : Execution) : Bool := e.outcome.command.instruction = i

/-- What a command that reads has left in the register that its operand designated. -/
def stored? (e : Execution) : Option Value :=
  if e.isOf .read then
    match e.outcome.command.operand.address e.before.registers with
    | .ok a => some (e.after.registers.get a)
    | .error _ => none
  else none

end Execution

/-- The commands that a run of at most `budget` steps performs. -/
def Machine.executions : (budget : Nat) → Machine → List Execution
  | 0, _ => []
  | budget + 1, m =>
    if m.isHalted then []
    else
      match m.step with
      | .error _ => []
      | .ok (o, m') => ⟨m, o, m'⟩ :: executions budget m'

/-- A machine in the hands of a host, with the commands that led to where it stands, and the
snapshots that were taken of it, each with the commands that had led there. -/
structure Bench where
  machine : Machine
  timeline : List Execution
  captured : List (Snapshot × List Execution)
  deriving DecidableEq

/-- What a host can do with a machine.  Snapshots are told by the order in which they were
taken. -/
inductive Operation where
  | step
  | run (limit : Nat)
  | set (a : Address) (v : Value)
  | capture
  | restore (slot : Nat)
  deriving DecidableEq

namespace Bench

/-- A fresh machine. -/
def start (program : Program) (input : List Value) : Bench where
  machine := Machine.start program input
  timeline := []
  captured := []

/-- What an operation makes of the machine and of what is known about it.  A step that
fails, a snapshot where there is no command and a snapshot that was never taken change
nothing. -/
def operate (b : Bench) : Operation → Bench
  | .step =>
    match b.machine.step with
    | .error _ => b
    | .ok (o, m) => { b with machine := m, timeline := b.timeline ++ [⟨b.machine, o, m⟩] }
  | .run limit =>
    { b with
      machine := (b.machine.run limit).1
      timeline := b.timeline ++ b.machine.executions limit }
  | .set a v => { b with machine := { b.machine with registers := b.machine.registers.set a v } }
  | .capture =>
    match b.machine.snapshot with
    | .error _ => b
    | .ok h => { b with captured := b.captured ++ [(h, b.timeline)] }
  | .restore slot =>
    match b.captured[slot]? with
    | none => b
    | some (h, timeline) => { b with machine := b.machine.restore h, timeline }

/-- Operations one after the other. -/
def operateAll (b : Bench) (operations : List Operation) : Bench := operations.foldl operate b

end Bench

/-! ## The account -/

/-- The timeline accounts for the machine. -/
structure Accounts (program : Program) (input : List Value) (m : Machine)
    (timeline : List Execution) : Prop where
  program_eq : m.program = program
  input_eq : m.input = input
  /-- There is an accumulator. -/
  accumulator : ∃ v, (Registers.accumulatorAddress, v) ∈ m.registers.cells
  /-- The commands of the timeline were performed, and nothing of their output is lost. -/
  performed : ∀ e ∈ timeline, e.before.step = .ok (e.outcome, e.after) ∧
    e.after.output.toList <+: m.output.toList
  /-- Each command that reads moves the pointer on. -/
  reads : m.inputPointer = timeline.countP (Execution.isOf .read)
  within : m.inputPointer ≤ input.length
  /-- What is in front of the pointer was stored, value by value. -/
  values : timeline.filterMap Execution.stored? = input.take m.inputPointer
  /-- Each command that writes adds a value. -/
  writes : m.output.size = timeline.countP (Execution.isOf .write)

theorem mem_setCell_self (a : Address) (v : Value) (cells : List (Address × Value)) :
    (a, v) ∈ setCell a v cells := by
  induction cells with
  | nil => exact List.mem_singleton_self _
  | cons head tail ih =>
    rw [setCell]
    split
    · exact List.mem_cons_self
    · split
      · exact List.mem_cons_self
      · exact List.mem_cons_of_mem _ ih

theorem mem_setCell_of_ne {a b : Address} {v w : Value} {cells : List (Address × Value)}
    (differ : b ≠ a) (cell : (b, w) ∈ cells) : (b, w) ∈ setCell a v cells := by
  induction cells with
  | nil => cases cell
  | cons head tail ih =>
    obtain ⟨c, u⟩ := head
    rw [setCell]
    split
    · exact List.mem_cons_of_mem _ cell
    · split
      · rename_i same
        rcases List.mem_cons.1 cell with here | later
        · cases here
          exact absurd same.symm differ
        · exact List.mem_cons_of_mem _ later
      · rcases List.mem_cons.1 cell with here | later
        · cases here
          exact List.mem_cons_self
        · exact List.mem_cons_of_mem _ (ih later)

/-- Writing a register removes no cell. -/
theorem Registers.exists_cell_set {r : Registers} {b : Address} (present : ∃ w, (b, w) ∈ r.cells)
    (a : Address) (v : Value) : ∃ w, (b, w) ∈ (r.set a v).cells := by
  obtain ⟨w, cell⟩ := present
  by_cases same : b = a
  · subst same
    exact ⟨v, mem_setCell_self b v r.cells⟩
  · exact ⟨w, mem_setCell_of_ne same cell⟩

namespace Effect

variable {m m' : Machine} {c : Command}

theorem exists_cell (effect : Effect m c m') {b : Address}
    (present : ∃ w, (b, w) ∈ m.registers.cells) : ∃ w, (b, w) ∈ m'.registers.cells := by
  cases effect with
  | read _ _ _ registers => exact registers ▸ Registers.exists_cell_set present _ _
  | write _ registers => exact registers ▸ present
  | inner _ _ registers =>
    rcases registers with same | ⟨a, v, written⟩
    · exact same ▸ present
    · exact written ▸ Registers.exists_cell_set present a v

/-- No command takes anything off the output. -/
theorem output_grows (effect : Effect m c m') : m.output.toList <+: m'.output.toList := by
  cases effect with
  | read _ _ _ _ _ output | inner _ _ _ _ output => exact output ▸ List.prefix_rfl
  | write _ _ _ output =>
    rw [output, Array.toList_push]
    exact List.prefix_append _ _

theorem size_output (effect : Effect m c m') :
    m'.output.size = m.output.size + if c.instruction = .write then 1 else 0 := by
  cases effect with
  | read instruction _ _ _ _ output => simp [instruction, output]
  | write instruction _ _ output => simp [instruction, output]
  | inner _ notWrite _ _ output => simp [notWrite, output]

theorem inputPointer (effect : Effect m c m') :
    m'.inputPointer = m.inputPointer + if c.instruction = .read then 1 else 0 := by
  cases effect with
  | read instruction _ _ _ pointer => simp [instruction, pointer]
  | write instruction _ pointer => simp [instruction, pointer]
  | inner notRead _ _ pointer => simp [notRead, pointer]

/-- The pointer moves on over a value only. -/
theorem inputPointer_le (effect : Effect m c m') (within : m.inputPointer ≤ m.input.length) :
    m'.inputPointer ≤ m.input.length := by
  cases effect with
  | read _ _ next _ pointer =>
    rw [pointer]
    exact (List.getElem?_eq_some_iff.1 next).1
  | write _ _ pointer | inner _ _ _ pointer => exact pointer ▸ within

/-- The value over which the pointer moves is the one that is stored. -/
theorem take_input {o : Outcome} (effect : Effect m o.command m') :
    m.input.take m'.inputPointer =
      m.input.take m.inputPointer ++ (Execution.stored? ⟨m, o, m'⟩).toList := by
  cases effect with
  | @read a x instruction address next registers pointer =>
    have stored : Execution.stored? ⟨m, o, m'⟩ = some x := by
      simp [Execution.stored?, Execution.isOf, instruction, address, registers]
    rw [pointer, List.take_add_one, next, stored]
  | write instruction _ pointer => simp [Execution.stored?, Execution.isOf, instruction, pointer]
  | inner notRead _ _ pointer => simp [Execution.stored?, Execution.isOf, notRead, pointer]

end Effect

namespace Accounts

variable {program : Program} {input : List Value} {m m' : Machine} {timeline : List Execution}

theorem start (program : Program) (input : List Value) :
    Accounts program input (Machine.start program input) [] where
  program_eq := rfl
  input_eq := rfl
  accumulator := ⟨0, mem_setCell_self _ _ _⟩
  performed _ among := nomatch among
  reads := rfl
  within := Nat.zero_le _
  values := rfl
  writes := rfl

/-- A host may write the registers. -/
theorem set (accounts : Accounts program input m timeline) (a : Address) (v : Value) :
    Accounts program input { m with registers := m.registers.set a v } timeline :=
  { accounts with accumulator := Registers.exists_cell_set accounts.accumulator a v }

/-- One more command is accounted for by what it does to the tapes. -/
theorem step (accounts : Accounts program input m timeline) {o : Outcome}
    (stepped : m.step = .ok (o, m')) : Accounts program input m' (timeline ++ [⟨m, o, m'⟩]) := by
  obtain ⟨program_eq, input_eq⟩ := Machine.step_keeps stepped
  have effect := Machine.step_effect stepped
  refine ⟨program_eq.trans accounts.program_eq, input_eq.trans accounts.input_eq,
    effect.exists_cell accounts.accumulator, ?_, ?_, ?_, ?_, ?_⟩
  · intro e among
    rcases List.mem_append.1 among with earlier | last
    · obtain ⟨stepped, kept⟩ := accounts.performed e earlier
      exact ⟨stepped, kept.trans effect.output_grows⟩
    · cases List.mem_singleton.1 last
      exact ⟨stepped, List.prefix_rfl⟩
  · rw [effect.inputPointer, List.countP_append, ← accounts.reads]
    simp [Execution.isOf]
  · have within := effect.inputPointer_le (accounts.input_eq.symm ▸ accounts.within)
    exact accounts.input_eq ▸ within
  · have more := effect.take_input
    rw [accounts.input_eq, ← accounts.values] at more
    rw [more, List.filterMap_append]
    cases stored : Execution.stored? ⟨m, o, m'⟩ <;> simp [stored]
  · rw [effect.size_output, List.countP_append, ← accounts.writes]
    simp [Execution.isOf]

/-- A run is accounted for by the commands that it performs. -/
theorem runFrom (accounts : Accounts program input m timeline) (limit budget steps : Nat) :
    Accounts program input (Machine.runFrom limit budget steps m).1
      (timeline ++ m.executions budget) := by
  induction budget generalizing m timeline steps with
  | zero =>
    unfold Machine.runFrom
    simp only [Machine.executions, List.append_nil]
    split <;> exact accounts
  | succ budget ih =>
    cases halted : m.isHalted with
    | true => simpa [Machine.runFrom, Machine.executions, halted] using accounts
    | false =>
      cases stepped : m.step with
      | error f => simpa [Machine.runFrom_succ, Machine.executions, halted, stepped] using accounts
      | ok taken =>
        obtain ⟨o, m'⟩ := taken
        have rest := ih (accounts.step stepped) (steps + 1)
        rw [Machine.runFrom_of_step stepped]
        simpa [Machine.executions, halted, stepped] using rest

theorem run (accounts : Accounts program input m timeline) (limit : Nat) :
    Accounts program input (m.run limit).1 (timeline ++ m.executions limit) :=
  accounts.runFrom limit limit 0

/-- Where the tapes are accounted for, a lack of input is found at the end of it. -/
theorem exhausted (accounts : Accounts program input m timeline) {line position : Nat}
    (failed : m.step = .error (.inputExhausted line position)) : position = input.length := by
  obtain ⟨rfl, none⟩ := Machine.step_inputExhausted failed
  rw [accounts.input_eq] at none
  exact Nat.le_antisymm accounts.within (List.getElem?_eq_none_iff.1 none)

theorem run_exhausted (accounts : Accounts program input m timeline) {limit line position : Nat}
    (failed : (m.run limit).2 = .error (.inputExhausted line position)) :
    position = input.length := by
  rcases Machine.run_fault failed with other | failed
  · cases other
  · exact (accounts.run limit).exhausted failed

end Accounts

/-! ## Any operations -/

/-- The present timeline accounts for the machine, and each that belongs to a snapshot for
the machine set back to it. -/
structure Bench.Sound (program : Program) (input : List Value) (b : Bench) : Prop where
  present : Accounts program input b.machine b.timeline
  earlier : ∀ {h : Snapshot} {timeline : List Execution}, (h, timeline) ∈ b.captured →
    Accounts program input (b.machine.restore h) timeline

namespace Bench.Sound

variable {program : Program} {input : List Value} {b : Bench}

/-- What becomes of the machine does not matter for its snapshots. -/
theorem advance (sound : Bench.Sound program input b) {m : Machine} {timeline : List Execution}
    (accounts : Accounts program input m timeline) :
    Bench.Sound program input { b with machine := m, timeline } := by
  refine ⟨accounts, fun {h _} among => ?_⟩
  have same : m.restore h = b.machine.restore h := by
    simp only [Machine.restore, accounts.program_eq, accounts.input_eq, sound.present.program_eq,
      sound.present.input_eq]
  exact same ▸ sound.earlier among

theorem operate (sound : Bench.Sound program input b) (operation : Operation) :
    Bench.Sound program input (b.operate operation) := by
  cases operation with
  | step =>
    simp only [Bench.operate]
    split
    · exact sound
    · rename_i stepped
      exact sound.advance (sound.present.step stepped)
  | run limit => exact sound.advance (sound.present.run limit)
  | set a v => exact sound.advance (sound.present.set a v)
  | capture =>
    simp only [Bench.operate]
    split
    · exact sound
    · rename_i h taken
      refine ⟨sound.present, fun {h' timeline} among => ?_⟩
      rcases List.mem_append.1 among with before | last
      · exact sound.earlier before
      · cases List.mem_singleton.1 last
        exact (Machine.restore_of_snapshot taken rfl rfl).symm ▸ sound.present
  | restore slot =>
    simp only [Bench.operate]
    split
    · exact sound
    · rename_i taken
      exact sound.advance (sound.earlier (List.mem_of_getElem? taken))

theorem operateAll (sound : Bench.Sound program input b) (operations : List Operation) :
    Bench.Sound program input (b.operateAll operations) := by
  induction operations generalizing b with
  | nil => exact sound
  | cons operation operations ih => exact ih (sound.operate operation)

end Bench.Sound

/-- Whatever is done with a fresh machine, its program and its input stay; the pointer is
within the input, and a lack of input is found at the end of it; there is an accumulator,
and the cells ascend.  The commands on the present timeline account for the tapes: as many
of them read as the pointer has moved and stored what is in front of it, as many write as
there is output, and each leaves the output before it in place. -/
theorem operations_account (program : Program) (input : List Value)
    (operations : List Operation) :
    let b := (Bench.start program input).operateAll operations
    b.machine.program = program ∧ b.machine.input = input ∧
      b.machine.inputPointer ≤ input.length ∧
      (∀ line position, b.machine.step = .error (.inputExhausted line position) →
        position = input.length) ∧
      (∀ limit line position, (b.machine.run limit).2 = .error (.inputExhausted line position) →
        position = input.length) ∧
      (∃ v, (Registers.accumulatorAddress, v) ∈ b.machine.registers.cells) ∧
      b.machine.registers.cells.Pairwise (fun x y => x.1 < y.1) ∧
      b.machine.inputPointer = b.timeline.countP (Execution.isOf .read) ∧
      b.timeline.filterMap Execution.stored? = input.take b.machine.inputPointer ∧
      b.machine.output.size = b.timeline.countP (Execution.isOf .write) ∧
      ∀ e ∈ b.timeline, e.before.step = .ok (e.outcome, e.after) ∧
        e.before.output.toList <+: e.after.output.toList ∧
        e.after.output.toList <+: b.machine.output.toList := by
  intro b
  have fresh : Bench.Sound program input (Bench.start program input) :=
    ⟨.start program input, fun among => nomatch among⟩
  have accounts := (fresh.operateAll operations).present
  refine ⟨accounts.program_eq, accounts.input_eq, accounts.within, ?_, ?_, accounts.accumulator,
    b.machine.registers.ascending, accounts.reads, accounts.values, accounts.writes, ?_⟩
  · intro line position failed
    exact accounts.exhausted failed
  · intro limit line position failed
    exact accounts.run_exhausted failed
  · intro e among
    obtain ⟨stepped, kept⟩ := accounts.performed e among
    exact ⟨stepped, (Machine.step_effect stepped).output_grows, kept⟩

/-- Two values are read and written in turn.  The machine is set back behind the first, its
register having been overwritten, and runs on until there is nothing left to read. -/
theorem operations_account_set_back :
    let program : Program :=
      ⟨[⟨.read, .immediate 1, 1⟩, ⟨.write, .immediate 1, 2⟩, ⟨.goto, .immediate 1, 3⟩]⟩
    let b := (Bench.start program [5, 7]).operateAll
      [.step, .capture, .run 4, .set 1 9, .restore 0, .run 9]
    b.machine.step = .error (.inputExhausted 1 2) ∧ 2 = [5, 7].length ∧
      b.timeline.length = 6 ∧ b.machine.output = #[5, 7] ∧
      b.timeline.filterMap Execution.stored? = [5, 7].take b.machine.inputPointer ∧
      b.machine.output.size = b.timeline.countP (Execution.isOf .write) := by
  intro program b
  obtain ⟨-, -, -, exhausted, -, -, -, -, values, writes, -⟩ := operations_account program [5, 7]
    [.step, .capture, .run 4, .set 1 9, .restore 0, .run 9]
  have failed : b.machine.step = .error (.inputExhausted 1 2) := by decide +kernel
  exact ⟨failed, exhausted 1 2 failed, by decide +kernel, by decide +kernel, values, writes⟩

end RegisterMachine
