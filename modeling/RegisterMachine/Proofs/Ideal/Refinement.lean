import RegisterMachine.Proofs.Engine.Advance
import RegisterMachine.Proofs.Ideal.WordSteps
import RegisterMachine.Proofs.Language.Compiled

/-!
# The machine refines the ideal machine

Words wrap, addresses are unsigned and literals are capped, yet none of this shows as long
as the ideal machine writes words only.  A machine and the ideal one that it is read as then
move together:

- `Matches` compares the results of two steps, faults included;
- `Machine.step_matches` is the single step: an effect that writes a word is carried out as it
  is (`Machine.Carries.ideal`);
- `Machine.progress_inStep` is the whole run, with its state, its length and its fault.
-/

namespace RegisterMachine

/-- Whether an integer is a signed word. -/
def InRange (v : Int) : Prop := -(valueBound : Int) ≤ v ∧ v < valueBound

instance (v : Int) : Decidable (InRange v) :=
  inferInstanceAs (Decidable (_ ∧ _))

/-! ## Reading words as integers -/

theorem bmod_of_inRange {v : Int} (fits : InRange v) : v.bmod wordBound = v := by
  obtain ⟨low, high⟩ := fits
  have double : wordBound = 2 * valueBound := by decide
  exact Int.bmod_eq_of_le_mul_two (by omega) (by omega)

namespace Registers

theorem ideal_set (r : Registers) (a : Address) (v : Value) :
    (r.set a v).ideal = Function.update r.ideal a.toNat v.toInt := by
  funext b
  by_cases within : 0 ≤ b ∧ b < wordBound
  · -- An integer within the bounds is an address, and addresses differ as integers do.
    obtain ⟨c, rfl⟩ : ∃ c : Address, b = c.toNat := by
      refine ⟨UInt64.ofNat b.toNat, ?_⟩
      have small : b.toNat < wordBound := by omega
      rw [Address.toNat_ofNat small, Int.toNat_of_nonneg within.1]
    rw [ideal_toNat, get_set]
    by_cases same : c = a
    · rw [if_pos same, same, Function.update_self]
    · have differ : (c.toNat : Int) ≠ a.toNat := fun eq =>
        same (UInt64.toNat_inj.1 (Int.ofNat_inj.1 eq))
      rw [if_neg same, Function.update_of_ne differ, ideal_toNat]
  · have differ : b ≠ a.toNat := by
      rintro rfl
      exact within ⟨Int.natCast_nonneg _, Int.ofNat_lt.2 a.toNat_lt⟩
    rw [ideal, if_neg within, Function.update_of_ne differ, ideal, if_neg within]

theorem ideal_initial : initial.ideal = fun _ => 0 := by
  funext a
  rw [ideal]
  split
  · rw [initial, get_set]
    split <;> rfl
  · rfl

/-- Look-ups go the same way over words and over integers. -/
theorem follow_ideal (r : Registers) (n : Nat) (a : Address) :
    Ram.follow r.ideal n a.toNat =
      ((r.follow n a).mapError Int64.toInt).map fun b => (b.toNat : Int) := by
  induction n generalizing a with
  | zero => rfl
  | succ n ih =>
    rw [Ram.follow, follow, ideal_toNat]
    by_cases negative : (r.get a).toInt < 0
    · rw [if_pos negative, Value.toAddress?_of_neg negative]
      rfl
    · obtain ⟨named, same⟩ := Value.toAddress?_of_nonneg negative
      rw [if_neg negative, named, ← same]
      exact ih _

end Registers

/-! ## One step -/

/-- An ideal result and the result it stands for. -/
inductive Matches : Except Ram.Fault Ram → Except Fault Machine → Prop
  | ok (m : Machine) : Matches (.ok m.ideal) (.ok m)
  | error {e : Ram.Fault} {f : Fault} (same : f.ideal = some e) : Matches (.error e) (.error f)

theorem Matches.of_eq {i : Ram} {m : Machine} (same : m.ideal = i) : Matches (.ok i) (.ok m) :=
  same ▸ .ok m

namespace Machine

theorem ideal_start (program : Program) (input : List Value) :
    (start program input).ideal = Ram.start program (input.map Int64.toInt) := by
  simp only [ideal, start, Ram.start, Registers.ideal_initial, Array.map_empty]

/-- An effect that writes a word is carried out as it is. -/
theorem Carries.ideal {m m' : Machine} {e : Ram.Effect} (carries : m.Carries e m')
    (exact : ∀ w ∈ e.write, InRange w.2) : m'.ideal = m.ideal.commit e := by
  have registers : m'.registers.ideal =
      e.write.elim m.registers.ideal fun w => Function.update m.registers.ideal w.1 w.2 := by
    rcases write : e.write with _ | ⟨b, w⟩
    · rw [carries.kept write]
      rfl
    · obtain ⟨a, rfl, assigned⟩ := carries.written write
      obtain ⟨x, -, word⟩ := assigned.here
      rw [assigned.unique (m.registers.assigned_set a word), Registers.ideal_set, word,
        bmod_of_inRange (exact _ write)]
      rfl
  have output : m'.output.map Int64.toInt =
      e.output.elim (m.output.map Int64.toInt) (m.output.map Int64.toInt).push := by
    apply Array.toList_inj.mp
    rw [Array.toList_map, carries.output]
    cases e.output <;> simp
  simp only [Machine.ideal, registers, output, carries.program, carries.input,
    carries.inputPointer, carries.instructionPointer]
  rfl

/-- The instruction table over words and over integers. -/
theorem apply_matches (m : Machine) (c : Command) (a : Address) (v : Value)
    (exact : ∀ e, m.ideal.effect c a.toNat v.toInt = .ok e → ∀ w ∈ e.write, InRange w.2) :
    Matches ((m.ideal.effect c a.toNat v.toInt).map m.ideal.commit) (m.apply c a v) := by
  have carried := m.apply_carried c a v
  generalize m.ideal.effect c a.toNat v.toInt = ideal at carried exact ⊢
  generalize m.apply c a v = actual at carried ⊢
  cases carried with
  | ok carries => exact .of_eq (carries.ideal (exact _ rfl))
  | error same => exact .error same

/-- The machine that a step yields. -/
def successor (m : Machine) : Except Fault Machine := m.step.map Prod.snd

theorem address_ideal (m : Machine) (o : Operand) :
    m.ideal.address o =
      ((o.address m.registers).mapError Int64.toInt).map fun a => (a.toNat : Int) :=
  m.registers.follow_ideal _ _

theorem value_ideal (m : Machine) {o : Operand} (small : o.literal.toNat < valueBound)
    (a : Address) : m.ideal.value o a.toNat = (o.valueAt m.registers a).toInt := by
  rw [Ram.value, Operand.valueAt]
  by_cases marked : o.isMarked = true
  · rw [if_pos marked, if_pos marked]
    rw [ideal_registers, Registers.ideal_toNat]
  · rw [if_neg marked, if_neg marked]
    exact (Value.toInt_ofLiteral small).symm

/-- A machine and its ideal reading step alike, if the ideal one writes a word and the
literal at the pointer is one. -/
theorem step_matches (m : Machine)
    (small : ∀ c, m.program.get? m.instructionPointer = some c →
      c.operand.literal.toNat < valueBound)
    (exact : ∀ v ∈ m.ideal.written, InRange v) : Matches m.ideal.step m.successor := by
  have fetch : m.ideal.program.get? m.ideal.instructionPointer =
      m.program.get? m.instructionPointer := rfl
  rcases fetched : m.program.get? m.instructionPointer with _ | c
  · simp only [Ram.step, Ram.evaluate, successor, step, current, fetch, fetched]
    exact .error rfl
  -- The command decides the step, and the pointer is not looked at again.
  have performed : Matches m.ideal.step (m.perform c) := by
    by_cases illegal : (c.operand.isMarked && !c.instruction.allowsMarkers) = true
    · simp only [Ram.step, Ram.evaluate, perform, fetch, fetched, if_pos illegal]
      exact .error rfl
    by_cases halts : c.instruction = .halt
    · simp only [Ram.step, Ram.evaluate, perform, fetch, fetched, if_neg illegal, if_pos halts]
      exact .of_eq rfl
    rcases found : c.operand.address m.registers with v | a
    · simp only [Ram.step, Ram.evaluate, perform, fetch, fetched, if_neg illegal, if_neg halts,
        address_ideal, Operand.resolve, found]
      exact .error rfl
    · have evaluated : m.ideal.evaluate =
          m.ideal.effect c a.toNat (c.operand.valueAt m.registers a).toInt := by
        simp only [Ram.evaluate, fetch, fetched, if_neg illegal, if_neg halts, address_ideal, found,
          Except.mapError, Except.map, m.value_ideal (small c fetched)]
      simp only [Ram.step, evaluated, perform, if_neg illegal, if_neg halts, Operand.resolve, found]
      refine m.apply_matches c a _ fun e effect w writes => exact _ ?_
      rw [Ram.written, evaluated, effect]
      exact Option.mem_map_of_mem Prod.snd writes
  have same : m.successor = m.perform c := by
    simp only [successor, step, current, fetched]
    rcases m.perform c with f | m' <;> rfl
  exact same ▸ performed

end Machine

/-! ## Whole runs -/

/-- Two runs that got equally far: the same state, the same number of steps, and the same
fault or none. -/
structure InStep (ideal : Progress Ram Ram.Fault) (actual : Progress Machine Fault) : Prop where
  state : ideal.state = actual.state.ideal
  steps : ideal.steps = actual.steps
  fault : ideal.fault.map some = actual.fault.map Fault.ideal

namespace Machine

theorem progress_program (m : Machine) (n : Nat) :
    (progress successor m n).state.program = m.program := by
  induction n with
  | zero => rfl
  | succ n ih =>
    rw [progress]
    rcases stepped : (progress successor m n).state.step with f | ⟨o, m'⟩
    · simpa only [successor, stepped, Except.map] using ih
    · simp only [successor, stepped, Except.map]
      exact (step_keeps stepped).1.trans ih

theorem progress_inStep (m : Machine)
    (small : ∀ line c, m.program.get? line = some c → c.operand.literal.toNat < valueBound)
    (n : Nat) (exact : ∀ v ∈ m.ideal.writes n, InRange v) :
    InStep (progress Ram.step m.ideal n) (progress successor m n) := by
  induction n with
  | zero => exact ⟨rfl, rfl, rfl⟩
  | succ n ih =>
    rw [Ram.writes] at exact
    obtain ⟨state, steps, fault⟩ := ih fun v before => exact v (List.mem_append_left _ before)
    have next := (progress successor m n).state.step_matches
      (fun c fetched => small _ c (m.progress_program n ▸ fetched))
      (fun v writes => exact v (List.mem_append_right _ (by
        rw [state]
        exact Option.mem_toList.2 writes)))
    rw [← state] at next
    rw [progress, progress]
    generalize (progress successor m n).state.successor = actual at next ⊢
    generalize (progress Ram.step m.ideal n).state.step = ideal at next ⊢
    cases next with
    | ok m' => exact ⟨rfl, congrArg (· + 1) steps, fault⟩
    | error same => exact ⟨state, steps, congrArg some same.symm⟩

/-- A compiled program does on words what it does on integers, for as long as the integers
that reach a register are words: after any number of attempted steps both machines are in
the same state, have made the same number of steps and have met the same fault or none. -/
theorem progress_refines_ideal {texts : List String} {program : Program}
    (compiled : Program.ofLines texts = .ok program) (input : List Value) (n : Nat)
    (exact : ∀ v ∈ (Ram.start program (input.map Int64.toInt)).writes n, InRange v) :
    InStep (progress Ram.step (Ram.start program (input.map Int64.toInt)) n)
      (progress successor (start program input) n) := by
  rw [← ideal_start] at exact ⊢
  exact progress_inStep _ (fun _ _ fetched => Program.literal_lt compiled fetched) n exact

/-- Halves a product and looks up the register that the half names. -/
def lookUpHalf : Program :=
  ⟨[⟨.read, .immediate 1, 1⟩, ⟨.read, .immediate 2, 2⟩, ⟨.load, ⟨1, 1⟩, 3⟩, ⟨.mul, ⟨2, 1⟩, 4⟩,
    ⟨.div, .immediate 2, 5⟩, ⟨.store, .immediate 3, 6⟩, ⟨.load, ⟨3, 2⟩, 7⟩, ⟨.halt, .absent, 8⟩]⟩

/-- The product is negative and odd, so that the fraction is dropped upwards and the look-up
faults in the seventh of eight attempts. -/
theorem progress_refines_ideal_lookUpHalf :
    let ideal := Ram.start lookUpHalf ([-7, 3].map Int64.toInt)
    Program.ofLines
        ["READ 1", "READ 2", "LOAD *1", "MUL *2", "DIV 2", "STORE 3", "LOAD **3", "HALT"] =
        .ok lookUpHalf ∧
      ideal.writes 8 = [-7, 3, -7, -21, -10, -10] ∧
      (progress Ram.step ideal 8).fault = some (.negativeAddress 7 (-10)) ∧
      InStep (progress Ram.step ideal 8) (progress successor (start lookUpHalf [-7, 3]) 8) := by
  intro ideal
  have compiled : Program.ofLines
      ["READ 1", "READ 2", "LOAD *1", "MUL *2", "DIV 2", "STORE 3", "LOAD **3", "HALT"] =
      .ok lookUpHalf := by decide +kernel
  have writes : ideal.writes 8 = [-7, 3, -7, -21, -10, -10] := by decide +kernel
  have exact : ∀ v ∈ ideal.writes 8, InRange v := by
    rw [writes]
    decide
  exact ⟨compiled, writes, by decide +kernel, progress_refines_ideal compiled [-7, 3] 8 exact⟩

end Machine

end RegisterMachine
