import Mathlib.Tactic.Common
import RegisterMachine.Engine.Run
import RegisterMachine.Engine.Snapshot

/-!
# Repeated steps of a machine

`Machine.run` relates a machine to the end of a whole run; it does not name the
machines on the way.  `Machine.advance` does: `m.advance n` is the machine after
exactly `n` commands, or the first fault met among them.

* `step_keeps`: a step leaves the program and the input tape alone, so the
  snapshots of a machine restore each other's machines (`restore_of_snapshot`).
* `advance_of_le`: a machine that gets through some steps gets through fewer.
* `run_of_halted`, `run_of_fault` and `run_of_limit`: a budgeted run is told by
  the machine that `advance` reaches, for each of the three ways to end.
-/

namespace RegisterMachine.Machine

/-! ## What a step leaves alone -/

theorem branch_keeps (m : Machine) (condition : Bool) (line : Address) :
    (m.branch condition line).program = m.program ∧ (m.branch condition line).input = m.input := by
  unfold branch
  split
  · exact ⟨rfl, rfl⟩
  · exact ⟨rfl, rfl⟩

theorem apply_keeps {m m' : Machine} {c : Command} {a : Address} {v : Value}
    (applied : m.apply c a v = .ok m') : m'.program = m.program ∧ m'.input = m.input := by
  unfold apply at applied
  cases instruction : c.instruction <;> simp only [instruction] at applied
  case read =>
    split at applied <;> cases applied
    exact ⟨rfl, rfl⟩
  case div =>
    split at applied <;> cases applied
    exact ⟨rfl, rfl⟩
  case jz | jgtz =>
    cases applied
    exact branch_keeps _ _ _
  all_goals
    cases applied
    exact ⟨rfl, rfl⟩

theorem perform_keeps {m m' : Machine} {c : Command} (performed : m.perform c = .ok m') :
    m'.program = m.program ∧ m'.input = m.input := by
  unfold perform at performed
  split at performed
  · cases performed
  · split at performed
    · cases performed
      exact ⟨rfl, rfl⟩
    · split at performed
      · cases performed
      · exact apply_keeps performed

/-- A step takes the command at the pointer apart from what it makes of it. -/
theorem step_eq_ok {m m' : Machine} {o : Outcome} (stepped : m.step = .ok (o, m')) :
    m.current = .ok o.command ∧ m.perform o.command = .ok m' ∧ o.next = m'.instructionPointer := by
  unfold step at stepped
  split at stepped
  · cases stepped
  · rename_i c fetched
    split at stepped
    · cases stepped
    · rename_i performed
      cases stepped
      exact ⟨fetched, performed, rfl⟩

/-- A step leaves the program and the input tape alone. -/
theorem step_keeps {m m' : Machine} {o : Outcome} (stepped : m.step = .ok (o, m')) :
    m'.program = m.program ∧ m'.input = m.input :=
  perform_keeps (step_eq_ok stepped).2.1

/-! ## Snapshots -/

/-- A snapshot is taken exactly where there is a command to perform. -/
theorem snapshot_eq_ok_iff {m : Machine} {h : Snapshot} :
    m.snapshot = .ok h ↔
      m.program.get? h.instructionPointer = some h.command ∧
        m.instructionPointer = h.instructionPointer ∧ m.inputPointer = h.inputPointer ∧
        m.output = h.output ∧ m.registers = h.registers := by
  unfold snapshot current
  constructor
  · intro taken
    cases fetched : m.program.get? m.instructionPointer with
    | none =>
      rw [fetched] at taken
      cases taken
    | some c =>
      rw [fetched] at taken
      cases taken
      exact ⟨fetched, rfl, rfl, rfl, rfl⟩
  · rintro ⟨fetched, pointer, inputPointer, output, registers⟩
    rw [pointer, fetched, inputPointer, output, registers]

/-- A machine without a command at its pointer has no snapshot and no step. -/
theorem snapshot_eq_error_iff {m : Machine} {f : Fault} :
    m.snapshot = .error f ↔
      m.program.get? m.instructionPointer = none ∧ f = .lineNotFound m.instructionPointer := by
  unfold snapshot current
  cases m.program.get? m.instructionPointer with
  | none => simp [eq_comm]
  | some c => simp

theorem step_eq_error_of_snapshot {m : Machine} {f : Fault} (missing : m.snapshot = .error f) :
    m.step = .error f := by
  obtain ⟨absent, rfl⟩ := snapshot_eq_error_iff.mp missing
  simp [step, current, absent]

theorem restore_of_snapshot {m m' : Machine} {h : Snapshot} (taken : m.snapshot = .ok h)
    (program : m'.program = m.program) (input : m'.input = m.input) : m'.restore h = m := by
  obtain ⟨-, pointer, inputPointer, output, registers⟩ := snapshot_eq_ok_iff.mp taken
  cases m
  cases m'
  simp_all [restore]

@[simp] theorem restore_program (m : Machine) (h : Snapshot) :
    (m.restore h).program = m.program := rfl

@[simp] theorem restore_input (m : Machine) (h : Snapshot) : (m.restore h).input = m.input := rfl

@[simp] theorem restore_restore (m : Machine) (h h' : Snapshot) :
    (m.restore h).restore h' = m.restore h' := rfl

/-- A restored machine is in front of the command that the snapshot holds. -/
theorem snapshot_restore {m : Machine} {h : Snapshot}
    (recorded : m.program.get? h.instructionPointer = some h.command) :
    (m.restore h).snapshot = .ok h :=
  snapshot_eq_ok_iff.mpr ⟨recorded, rfl, rfl, rfl, rfl⟩

/-! ## Exactly `n` steps -/

/-- The machine after exactly `n` commands; the first fault among them otherwise. -/
def advance (m : Machine) : Nat → Except Fault Machine
  | 0 => .ok m
  | n + 1 =>
    match m.advance n with
    | .error f => .error f
    | .ok m' =>
      match m'.step with
      | .error f => .error f
      | .ok (_, m'') => .ok m''

theorem advance_succ_eq_ok_iff {m m'' : Machine} {n : Nat} :
    m.advance (n + 1) = .ok m'' ↔ ∃ m' o, m.advance n = .ok m' ∧ m'.step = .ok (o, m'') := by
  rw [advance]
  constructor
  · intro reached
    split at reached
    · cases reached
    · rename_i m' before
      split at reached
      · cases reached
      · rename_i o last stepped
        cases reached
        exact ⟨m', o, before, stepped⟩
  · rintro ⟨m', o, before, stepped⟩
    rw [before]
    simp only [stepped]

theorem advance_succ_of_step {m m' m'' : Machine} {n : Nat} {o : Outcome}
    (before : m.advance n = .ok m') (stepped : m'.step = .ok (o, m'')) :
    m.advance (n + 1) = .ok m'' :=
  advance_succ_eq_ok_iff.mpr ⟨m', o, before, stepped⟩

theorem advance_of_le {m m' : Machine} {n k : Nat} (reached : m.advance n = .ok m')
    (le : k ≤ n) : ∃ m'', m.advance k = .ok m'' := by
  induction n generalizing m' with
  | zero =>
    obtain rfl : k = 0 := Nat.le_zero.mp le
    exact ⟨m, rfl⟩
  | succ n ih =>
    rcases Nat.lt_or_eq_of_le le with lt | rfl
    · obtain ⟨before, -, reached, -⟩ := advance_succ_eq_ok_iff.mp reached
      exact ih reached (Nat.le_of_lt_succ lt)
    · exact ⟨m', reached⟩

/-- Every machine on the way but the last one has performed its command. -/
theorem step_of_advance_lt {m m' m'' : Machine} {n k : Nat} (reached : m.advance n = .ok m')
    (on : m.advance k = .ok m'') (lt : k < n) : ∃ o next, m''.step = .ok (o, next) := by
  obtain ⟨next, further⟩ := advance_of_le reached (Nat.succ_le_of_lt lt)
  obtain ⟨before, o, same, stepped⟩ := advance_succ_eq_ok_iff.mp further
  obtain rfl := Except.ok.inj (same.symm.trans on)
  exact ⟨o, next, stepped⟩

theorem advance_keeps {m m' : Machine} {n : Nat} (reached : m.advance n = .ok m') :
    m'.program = m.program ∧ m'.input = m.input := by
  induction n generalizing m' with
  | zero =>
    cases reached
    exact ⟨rfl, rfl⟩
  | succ n ih =>
    obtain ⟨before, o, reached, stepped⟩ := advance_succ_eq_ok_iff.mp reached
    have kept := ih reached
    have last := step_keeps stepped
    exact ⟨last.1.trans kept.1, last.2.trans kept.2⟩

/-! ## Budgeted runs -/

theorem isHalted_iff {m : Machine} : m.isHalted = true ↔ m.instructionPointer = 0 := by
  simp [isHalted]

theorem isHalted_of_snapshot {m : Machine} {h : Snapshot} (taken : m.snapshot = .ok h) :
    m.isHalted = false := by
  cases halted : m.isHalted with
  | false => rfl
  | true =>
    obtain ⟨recorded, pointer, -⟩ := snapshot_eq_ok_iff.mp taken
    rw [← pointer, isHalted_iff.mp halted] at recorded
    cases recorded

/-- No command stands on line zero. -/
theorem step_of_halted {m : Machine} (halted : m.isHalted = true) :
    m.step = .error (.lineNotFound 0) := by
  have pointer := isHalted_iff.mp halted
  simp [step, current, pointer, Program.get?]

theorem isHalted_of_step {m m' : Machine} {o : Outcome} (stepped : m.step = .ok (o, m')) :
    m.isHalted = false := by
  cases halted : m.isHalted with
  | false => rfl
  | true =>
    rw [step_of_halted halted] at stepped
    cases stepped

theorem runFrom_of_step {m m' : Machine} {o : Outcome} (stepped : m.step = .ok (o, m'))
    (limit budget steps : Nat) :
    runFrom limit (budget + 1) steps m = runFrom limit budget (steps + 1) m' := by
  simp [runFrom_succ, isHalted_of_step stepped, stepped]

/-- A run goes through the machines that single steps reach. -/
theorem runFrom_of_advance {m m' : Machine} {n : Nat} (reached : m.advance n = .ok m')
    (limit budget steps : Nat) :
    runFrom limit (budget + n) steps m = runFrom limit budget (steps + n) m' := by
  induction n generalizing m' budget with
  | zero =>
    cases reached
    rfl
  | succ n ih =>
    obtain ⟨before, o, reached, stepped⟩ := advance_succ_eq_ok_iff.mp reached
    calc runFrom limit (budget + (n + 1)) steps m
        = runFrom limit (budget + 1 + n) steps m := by rw [Nat.add_assoc, Nat.add_comm 1 n]
      _ = runFrom limit (budget + 1) (steps + n) before := ih reached (budget + 1)
      _ = runFrom limit budget (steps + n + 1) m' := runFrom_of_step stepped ..

theorem run_of_advance {m m' : Machine} {n limit : Nat} (reached : m.advance n = .ok m')
    (within : n ≤ limit) : m.run limit = runFrom limit (limit - n) n m' := by
  have split := runFrom_of_advance reached limit (limit - n) 0
  rwa [Nat.sub_add_cancel within, Nat.zero_add] at split

/-- A run that halts within its limit reports the steps up to there. -/
theorem run_of_halted {m m' : Machine} {n limit : Nat} (reached : m.advance n = .ok m')
    (within : n ≤ limit) (halted : m'.isHalted = true) :
    m.run limit = (m', .ok ⟨n, m'.output⟩) := by
  rw [run_of_advance reached within]
  cases limit - n <;> simp [runFrom, halted]

/-- A run that meets a fault within its limit fails with it. -/
theorem run_of_fault {m m' : Machine} {n limit : Nat} {f : Fault}
    (reached : m.advance n = .ok m') (within : n < limit) (running : m'.isHalted = false)
    (failed : m'.step = .error f) : m.run limit = (m', .error f) := by
  rw [run_of_advance reached (Nat.le_of_lt within)]
  obtain ⟨rest, left⟩ := Nat.exists_eq_add_of_lt within
  rw [show limit - n = rest + 1 by omega]
  simp [runFrom_succ, running, failed]

/-- A run that is not over after as many steps as its limit allows fails for that. -/
theorem run_of_limit {m m' : Machine} {limit : Nat} (reached : m.advance limit = .ok m')
    (running : m'.isHalted = false) : m.run limit = (m', .error (.limitExceeded limit)) := by
  rw [run_of_advance reached (Nat.le_refl limit), Nat.sub_self]
  simp [runFrom, running]

end RegisterMachine.Machine
